import Formulary.Builtin.Math
import Formulary.Random
import Formulary.Registry

/-!
# Formulary.Builtin

The built-in operators and functions, and the registry of them.

From loosest to tightest the operators bind as `? :`, `OR`, `AND`, the
comparisons, addition, multiplication, `^`, and the prefix operators.
Comparisons and logical operators give one or zero.
-/

namespace Formulary

namespace Builtin

variable {σ : Type}

/-! ## Precedences -/

def conditional : UInt8 := 1
def disjunctive : UInt8 := 2
def conjunctive : UInt8 := 3
def comparison : UInt8 := 4
def additive : UInt8 := 5
def multiplicative : UInt8 := 6
def exponential : UInt8 := 7
def prefixed : UInt8 := 8

/-! ## Operators -/

/-- An operator that always has a result. -/
def infallible (symbol : String) (precedence : UInt8) (run : Float → Float → Float)
    (associativity : Associativity) : Operator σ :=
  .binary symbol precedence associativity fun a b => .ok (run a b)

/-- An operator on numbers that groups to the left. -/
def arithmetic (symbol : String) (precedence : UInt8) (run : Float → Float → Float) :
    Operator σ :=
  infallible symbol precedence run .left

/-- An operator that gives a truth value. -/
def logical (symbol : String) (precedence : UInt8) (run : Float → Float → Bool) : Operator σ :=
  infallible symbol precedence (fun a b => Math.ofBool (run a b)) .left

/-- The built-in operators. -/
def operators : List (Operator σ) := [
  arithmetic "+" additive (· + ·),
  arithmetic "-" additive (· - ·),
  arithmetic "*" multiplicative (· * ·),
  arithmetic "/" multiplicative (· / ·),
  infallible "^" exponential Float.pow .right,
  .unary "-" prefixed fun a => .ok (-a),
  .unary "+" prefixed .ok,
  logical "=" comparison (· == ·),
  logical "<>" comparison (· != ·),
  logical "<" comparison fun a b => decide (a < b),
  logical "<=" comparison fun a b => decide (a ≤ b),
  logical ">" comparison fun a b => decide (b < a),
  logical ">=" comparison fun a b => decide (b ≤ a),
  logical "AND" conjunctive fun a b => Math.truthy a && Math.truthy b,
  logical "OR" disjunctive fun a b => Math.truthy a || Math.truthy b,
  .unary "NOT" prefixed fun a => .ok (Math.ofBool (!Math.truthy a)),
  .ternary "?" ":" conditional fun condition =>
    if Math.truthy condition then Deferred.ifTrue else Deferred.ifFalse]

/-- A division that fails on a zero divisor. It is not registered by default, so that it can be
registered under any symbol. -/
def strictDivide (symbol : String) : Operator σ :=
  .binary symbol multiplicative .left fun a b =>
    if b == 0.0 then .error .divisionByZero else .ok (a / b)

/-! ## Functions -/

/-- The built-in functions that are functions of their arguments: names, argument counts and
definitions. -/
def functions : List (String × ArgBounds × (List Float → Float)) := [
  ("ABS", .exactly 1, Math.abs),
  ("SQRT", .exactly 1, Math.sqrt),
  ("POWER", .exactly 2, Math.power),
  ("EXP", .exactly 1, Math.exp),
  ("LN", .exactly 1, Math.ln),
  ("LOG", ⟨1, some 2⟩, Math.log),
  ("LOG10", .exactly 1, Math.log10),
  ("MIN", .atLeast 1, Math.min),
  ("MAX", .atLeast 1, Math.max),
  ("SUM", .atLeast 1, Math.sum),
  ("AVERAGE", .atLeast 1, Math.average),
  ("FLOOR", .exactly 1, Math.floor),
  ("CEILING", .exactly 1, Math.ceiling),
  ("ROUND", ⟨1, some 2⟩, Math.round),
  ("TRUNC", .exactly 1, Math.trunc),
  ("SIGN", .exactly 1, Math.sign),
  ("MOD", .exactly 2, Math.mod),
  ("SIN", .exactly 1, Math.sin),
  ("COS", .exactly 1, Math.cos),
  ("TAN", .exactly 1, Math.tan),
  ("ASIN", .exactly 1, Math.asin),
  ("ACOS", .exactly 1, Math.acos),
  ("ATAN", .exactly 1, Math.atan),
  ("ATAN2", .exactly 2, Math.atan2),
  ("PI", .exactly 0, Math.pi),
  ("IF", .exactly 3, Math.choose)]

/-- The definition of a built-in function. -/
def function? (name : String) : Option (List Float → Float) :=
  functions.lookup name |>.map Prod.snd

/-- A random number. It is volatile: every evaluation draws a new one. -/
def random [RandomSource σ] : Operator σ :=
  .make "RAND" 255 .left (.function (.exactly 0) (.volatile fun _ world =>
    let (value, world) := RandomSource.next world
    .ok value world))

/-- All built-in operators and functions. -/
def all [RandomSource σ] : List (Operator σ) :=
  operators ++ functions.map (fun (name, bounds, run) =>
    .function name bounds fun args => .ok (run args)) ++ [random]

/-- The spelling of the built-ins does not depend on the world they are used in. -/
theorem map_spelling_all [RandomSource σ] :
    (all : List (Operator σ)).map Operator.spelling
      = (all : List (Operator Generator)).map Operator.spelling := rfl

/-- No built-in symbol is refused for how it is spelled. -/
theorem invalidName?_spelling_all :
    ∀ spelling ∈ (all : List (Operator Generator)).map Operator.spelling,
      spelling.invalidName? = none := by
  decide +kernel

/-- No two built-in operators have symbol and arity in common. -/
theorem nodup_key_spelling_all :
    (((all : List (Operator Generator)).map Operator.spelling).map Spelling.key).Nodup := by
  decide +kernel

end Builtin

namespace Registry

variable {σ : Type} [RandomSource σ]

/-- The registry of the built-in operators and functions. -/
def builtin : Registry σ where
  operators := Builtin.all
  valid operator member := by
    apply Builtin.invalidName?_spelling_all
    rw [← @Builtin.map_spelling_all σ]
    exact List.mem_map_of_mem member
  distinct := by
    have keys : (Builtin.all : List (Operator σ)).map Operator.key
        = ((Builtin.all : List (Operator σ)).map Operator.spelling).map Spelling.key := by
      rw [List.map_map]; rfl
    rw [keys, Builtin.map_spelling_all]
    exact Builtin.nodup_key_spelling_all

end Registry

end Formulary
