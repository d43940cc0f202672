import Formulary.Text.Alphanumeric
import Formulary.Text.Blank

/-!
# Formulary.CommandLine.Log.Pattern

Regular expressions, as a filter of the log may ask for in the value of a
field.

No event is shown or hidden for the value of a field, so a pattern is never
matched. All that counts is whether a text is one, which `isPattern` says. A
`State` is what is known between two items of a pattern, and `State.step`
takes the next item. There are no back-references, no look-around, no counted
repetitions and no classes by script or category, letter case can be ignored
among the letters of ASCII only, and a pattern is not nested too deeply.
-/

namespace Formulary.CommandLine.Log.Pattern

/-! ## Modes -/

/-- How a part of a pattern is to be read. -/
structure Mode where
  /-- White space and comments do not count. -/
  spaced : Bool
  /-- Letter case does not count. -/
  caseless : Bool
  /-- Classes hold bytes, not characters. -/
  bytes : Bool
deriving DecidableEq, Repr

namespace Mode

/-- The mode at the start of a pattern. -/
def standard : Mode := ⟨false, false, false⟩

/-- A switch after flags have been given: those before a minus sign turn it on, those after it
off. -/
def switched (flags : List Char) (flag : Char) (present : Bool) : Bool :=
  if (flags.takeWhile (· != '-')).contains flag then true
  else if flags.contains flag then false
  else present

/-- The mode after flags have been given. -/
def set (mode : Mode) (flags : List Char) : Mode where
  spaced := switched flags 'x' mode.spaced
  caseless := switched flags 'i' mode.caseless
  bytes := !switched flags 'u' !mode.bytes

/-- Characters can be compared: their case is ignored only among bytes. -/
def comparable (mode : Mode) : Bool := mode.bytes || !mode.caseless

end Mode

/-- Skip what does not count in spaced text: white space, and comments up to the end of the
line. -/
def skipSpace (inComment : Bool) : List Char → List Char
  | [] => []
  | c :: rest =>
    if inComment then skipSpace (c != '\n') rest
    else if Text.isBlank c then skipSpace false rest
    else if c == '#' then skipSpace true rest
    else c :: rest

/-- Skip what does not count. -/
def Mode.skip (mode : Mode) (text : List Char) : List Char :=
  if mode.spaced then skipSpace false text else text

/-! ## Escapes -/

/-- What an escape stands for. -/
inductive Escaped
  | character (c : Char)
  /-- A class of characters. -/
  | set
  /-- A place between characters. -/
  | place
deriving DecidableEq, Repr

/-- The value of a hexadecimal digit. -/
def digitValue? (c : Char) : Option Nat :=
  if c.isDigit then some (c.toNat - '0'.toNat)
  else if 'a' ≤ c.toLower && c.toLower ≤ 'f' then some (c.toLower.toNat - 'a'.toNat + 10)
  else none

/-- Read so many hexadecimal digits. -/
def digits? (mode : Mode) : Nat → Nat → List Char → Option (Nat × List Char)
  | 0, value, text => some (value, text)
  | count + 1, value, text =>
    match mode.skip text with
    | [] => none
    | c :: rest => do
      let digit ← digitValue? c
      digits? mode count (16 * value + digit) rest

/-- Read the number of a character. Among bytes, two digits number a byte, which must be ASCII. -/
def numbered? (mode : Mode) (count : Nat) (text : List Char) : Option (Escaped × List Char) := do
  let (point, rest) ← digits? mode count 0 text
  if point.isValidChar && !(mode.bytes && count == 2 && 0x80 ≤ point) then
    some (.character (Char.ofNat point), rest)
  else none

/-- Letters that stand for controls. -/
def controls : List (Char × Char) :=
  [('a', '\x07'), ('f', '\x0c'), ('n', '\n'), ('r', '\r'), ('t', '\t'), ('v', '\x0b')]

/-- Read what follows a backslash. -/
def escaped? (mode : Mode) : List Char → Option (Escaped × List Char)
  | [] => none
  | 'x' :: rest => numbered? mode 2 rest
  | 'u' :: rest => numbered? mode 4 rest
  | 'U' :: rest => numbered? mode 8 rest
  | 'A' :: rest | 'z' :: rest => some (.place, rest)
  | c :: rest =>
    if ['b', 'B', '<', '>'].contains c then if mode.bytes then some (.place, rest) else none
    else if ['d', 's', 'w'].contains c then if mode.bytes then some (.set, rest) else none
    else match controls.lookup c with
      | some control => some (.character control, rest)
      | none =>
        if c.toNat < 0x80 && !c.isAlphanum then some (.character c, rest) else none

/-! ## Nesting -/

/-- How deep the items of a sequence are nested. -/
structure Items where
  count : Nat
  /-- The greatest depth of an item before the last one. -/
  before : Nat
  /-- The depth of the last item. -/
  last : Nat
deriving DecidableEq, Repr

namespace Items

def empty : Items := ⟨0, 0, 0⟩

/-- Append an item. -/
def push (items : Items) (depth : Nat) : Items :=
  ⟨items.count + 1, max items.before items.last, depth⟩

/-- Put the last item into a repetition. -/
def wrap (items : Items) : Items := { items with last := items.last + 1 }

/-- The depth of the sequence, which counts if it has more than one item. -/
def depth (items : Items) : Nat :=
  if items.count ≤ 1 then items.last else max items.before items.last + 1

end Items

/-- How deep what has been read of a group or a class is nested. -/
structure Nest where
  /-- The depth of what stands before an operator. -/
  before : Option Nat
  /-- The sequence that is being read. -/
  items : Items
deriving DecidableEq, Repr

namespace Nest

def empty : Nest := ⟨none, .empty⟩

/-- The depth of all that has been read. -/
def depth (nest : Nest) : Nat :=
  match nest.before with
  | none => nest.items.depth
  | some before => max before nest.items.depth + 1

/-- Append an item. -/
def push (nest : Nest) (depth : Nat) : Nest := { nest with items := nest.items.push depth }

/-- Begin the next of several alternatives, which are all on one level. -/
def alternative (nest : Nest) : Nest := ⟨some (max (nest.before.getD 0) nest.items.depth), .empty⟩

/-- Begin the second operand of an operator, of which all before is the first. -/
def operand (nest : Nest) : Nest := ⟨some nest.depth, .empty⟩

/-- The greatest depth of a pattern. -/
def limit : Nat := 250

end Nest

/-! ## States -/

/-- Where in a class of characters, between brackets, a pattern is read. -/
inductive Place
  /-- Behind the opening bracket. -/
  | opened
  /-- Behind the sign of a complement. -/
  | negated
  /-- Behind hyphens at the start. -/
  | hyphens
  | inside
deriving DecidableEq, Repr

/-- What is known between two items of a pattern. -/
structure State where
  mode : Mode
  /-- What has been read of the innermost group. -/
  nest : Nest
  /-- The groups around it, and the modes to go back to at its end and theirs. -/
  groups : List (Mode × Nest)
  /-- The names of groups so far. -/
  names : List (List Char)
  /-- There is something that may be repeated. -/
  repeatable : Bool
  /-- What has been read of the open classes, the innermost first. -/
  classes : List Nest
  place : Place
deriving DecidableEq, Repr

/-- The state at the start of a pattern. -/
def State.start : State := ⟨.standard, .empty, [], [], false, [], .inside⟩

namespace State

/-- Append an item, which may be repeated. -/
def push (s : State) (depth : Nat) : State :=
  { s with nest := s.nest.push depth, repeatable := true }

/-! ## Classes -/

/-- Classes that have a name. -/
def classNames : List String :=
  ["alnum", "alpha", "ascii", "blank", "cntrl", "digit", "graph", "lower", "print", "punct",
    "space", "upper", "word", "xdigit"]

/-- Read a class by name behind its bracket, and whether the complement is meant. -/
def named? (text : List Char) : Option (Bool × List Char) :=
  classNames.findSome? fun name =>
    let itself := (s!":{name}:]").toList
    let complement := (s!":^{name}:]").toList
    if itself.isPrefixOf text then some (false, text.drop itself.length)
    else if complement.isPrefixOf text then some (true, text.drop complement.length)
    else none

/-- Read a member of a class, or one end of a range of them. -/
def member? (mode : Mode) (c : Char) (rest : List Char) : Option (Escaped × List Char) := do
  let (member, rest) ← if c == '\\' then escaped? mode rest else some (.character c, rest)
  match member with
  | .character c => if mode.bytes && 0x80 ≤ c.toNat then none else some (member, rest)
  | .set => some (member, rest)
  | .place => none

/-- Read a member of a class, or a range from one character to another that is not before it. -/
def range? (mode : Mode) (c : Char) (rest : List Char) : Option (List Char) := do
  let (first, rest) ← member? mode c rest
  match mode.skip rest with
  | '-' :: others =>
    match mode.skip others with
    | [] => none
    | d :: others =>
      if d == ']' || d == '-' then some rest
      else match first, ← member? mode d others with
        | .character c, (.character d, others) => if c ≤ d then some others else none
        | _, _ => none
  | _ => some rest

/-- Append a member to the innermost class, if characters can be compared. -/
def pushMember? (s : State) (place : Place) : Option State :=
  match s.classes with
  | nest :: outer =>
    if s.mode.comparable then some { s with classes := nest.push 0 :: outer, place } else none
  | [] => none

/-- End the innermost class, which is a member of the one around it. -/
def closeClass (s : State) : State :=
  let s := { s with place := .inside }
  match s.classes with
  | [] => s
  | [nest] => { s with classes := [] }.push (nest.depth + 1)
  | nest :: outer :: classes => { s with classes := outer.push (nest.depth + 1) :: classes }

/-- An operator between classes. -/
def operator (s : State) : State :=
  let classes := match s.classes with
    | [] => []
    | nest :: outer => nest.operand :: outer
  { s with classes, place := .inside }

/-- An item within a class, and the text behind it. -/
def stepClass (s : State) (c : Char) (rest : List Char) : Option (State × List Char) :=
  let first := s.place == .opened || s.place == .negated
  let double := rest.head? == some c && (c == '&' || c == '-' || c == '~')
  if c == '^' && s.place == .opened then
    if s.mode.bytes then none else some ({ s with place := .negated }, rest)
  else if c == ']' && first then (s.pushMember? .inside).map (·, rest)
  else if c == '-' && s.place != .inside then (s.pushMember? .hyphens).map (·, rest)
  else if c == '[' then
    match named? rest with
    | some (complement, rest) =>
      if complement && s.mode.bytes then none else (s.pushMember? .inside).map (·, rest)
    | none => some ({ s with classes := .empty :: s.classes, place := .opened }, rest)
  else if c == ']' then some (s.closeClass, rest)
  else if double then some (s.operator, rest.tail)
  else do
    let rest ← range? s.mode c rest
    (s.pushMember? .inside).map (·, rest)

/-! ## Groups -/

/-- Open a group with its own mode. -/
def openGroup (s : State) (mode : Mode) : State :=
  { s with mode, nest := .empty, groups := (s.mode, s.nest) :: s.groups, repeatable := false }

/-- Close the innermost group. -/
def closeGroup? (s : State) : Option State :=
  match s.groups with
  | [] => none
  | (mode, nest) :: groups => some ({ s with mode, nest, groups }.push (s.nest.depth + 1))

/-- The name of a group: a letter, then letters, numbers and a few signs. -/
def isGroupName : List Char → Bool
  | [] => false
  | c :: rest =>
    (c == '_' || Text.isAlphabetic c)
      && rest.all fun c => ['_', '.', '[', ']'].contains c || Text.isAlphanumeric c

/-- Read a name that no group has so far, up to the angle bracket behind it. -/
def stepName (s : State) (text : List Char) : Option (State × List Char) :=
  let name := text.takeWhile (· != '>')
  match text.drop name.length with
  | [] => none
  | _ :: rest =>
    if isGroupName name && !s.names.contains name then
      some ({ s.openGroup s.mode with names := name :: s.names }, rest)
    else none

/-- Flags, each given once, of which a minus sign is not the last. -/
def areFlags (flags : List Char) : Bool :=
  flags.all ['-', 'i', 'm', 's', 'U', 'u', 'R', 'x'].contains
    && flags.eraseDups.length == flags.length && flags.getLast? != some '-'

/-- Read flags: for a group if a colon is behind them, else for what follows. -/
def stepFlags (s : State) (text : List Char) : Option (State × List Char) :=
  let flags := text.takeWhile fun c => c != ':' && c != ')'
  if !areFlags flags then none
  else match text.drop flags.length with
    | ':' :: rest => some (s.openGroup (s.mode.set flags), rest)
    | _ :: rest =>
      if flags.isEmpty then none
      else some ({ s.push 0 with mode := s.mode.set flags, repeatable := false }, rest)
    | [] => none

/-- What follows a parenthesis. -/
def stepGroup (s : State) (text : List Char) : Option (State × List Char) :=
  match s.mode.skip text with
  | '?' :: '=' :: _ | '?' :: '!' :: _ | '?' :: '<' :: '=' :: _ | '?' :: '<' :: '!' :: _ => none
  | '?' :: 'P' :: '<' :: rest | '?' :: '<' :: rest => s.stepName rest
  | '?' :: rest => s.stepFlags rest
  | rest => some (s.openGroup s.mode, rest)

/-! ## Items -/

/-- Skip the mark of a repetition that takes as little as it can. -/
def skipLazy : List Char → List Char
  | '?' :: rest => rest
  | text => text

/-- An item outside of classes, and the text behind it. -/
def stepPlain (s : State) (c : Char) (rest : List Char) : Option (State × List Char) :=
  match c with
  | '(' => s.stepGroup rest
  | ')' => s.closeGroup?.map (·, rest)
  | '|' => some ({ s with nest := s.nest.alternative, repeatable := false }, rest)
  | '?' | '*' | '+' =>
    if s.repeatable then some ({ s with nest.items := s.nest.items.wrap }, skipLazy rest) else none
  | '\x7b' => none
  | '[' => some ({ s with classes := [.empty], place := .opened }, rest)
  | '.' => if s.mode.bytes then none else some (s.push 0, rest)
  | '^' | '$' => some (s.push 0, rest)
  | '\\' => do
    let (escaped, rest) ← escaped? s.mode rest
    match escaped with
    | .character _ => if s.mode.comparable then some (s.push 0, rest) else none
    | _ => some (s.push 0, rest)
  | _ => if s.mode.comparable then some (s.push 0, rest) else none

/-- The next item, and the text behind it. -/
def step (s : State) (c : Char) (rest : List Char) : Option (State × List Char) :=
  if s.classes.isEmpty then s.stepPlain c rest else s.stepClass c rest

/-- The rest of a pattern can be read, and closes what is open. -/
def accepts : Nat → State → List Char → Bool
  | 0, _, _ => false
  | fuel + 1, s, text =>
    match s.mode.skip text with
    | [] => s.classes.isEmpty && s.groups.isEmpty && s.nest.depth ≤ Nest.limit
    | c :: rest =>
      match s.step c rest with
      | none => false
      | some (s, rest) => accepts fuel s rest

end State

/-- The text is a pattern. Each step takes at least one character. -/
def isPattern (text : List Char) : Bool := State.start.accepts (text.length + 1) text

end Formulary.CommandLine.Log.Pattern
