import Formulary.CommandLine.Count
import Formulary.CommandLine.Log
import Formulary.CommandLine.Log.Pattern
import Formulary.Decimal.Numeral
import Formulary.Text.Bytes

/-!
# Formulary.CommandLine.Log.Filter

The filter that picks the log events to be shown.

A filter is a list of directives between commas, such as `warn`,
`reckon=debug` or `reckon[{options}]=off`. Each gives a level to the events
whose target begins with its own and which have its field, and the most
specific one decides (`Filter.admits`). A directive may also name a span, in
brackets, or ask for the value of a field. It then concerns no event, as there
are no spans and no values are compared, but it must be written correctly: a
filter with one wrong directive is none.
-/

namespace Formulary.CommandLine

/-! ## Thresholds -/

/-- What a directive lets through: the events of a level and of those above it, or none. -/
inductive Threshold
  | off
  | from (level : Level)
deriving DecidableEq, Repr

namespace Threshold

/-- The event is important enough. -/
def admits : Threshold → Level → Bool
  | .off, _ => false
  | .from least, level => least.rank ≤ level.rank

/-- The threshold of a number, from nothing up to everything. -/
def ofCount? : Nat → Option Threshold
  | 0 => some .off
  | 1 => some (.from .error)
  | 2 => some (.from .warn)
  | 3 => some (.from .info)
  | 4 => some (.from .debug)
  | 5 => some (.from .trace)
  | _ => none

/-- The threshold of a name, in any letter case, or of a number. -/
def ofText? (text : List Char) : Option Threshold :=
  match String.ofList (text.map Char.toLower) with
  | "off" => some .off
  | "error" => some (.from .error)
  | "warn" => some (.from .warn)
  | "info" => some (.from .info)
  | "debug" => some (.from .debug)
  | "trace" => some (.from .trace)
  | _ => (readCount text).toOption.bind ofCount?

end Threshold

/-! ## Directives -/

/-- A field that an event is to have. -/
structure FieldDemand where
  name : String
  /-- The value that is asked for, if one is. -/
  value : Option String
deriving DecidableEq, Repr

/-- The threshold of the events of a kind. -/
structure Directive where
  /-- How the targets of the events begin. -/
  target : List Char
  /-- The span within which the events are. -/
  span : Option String
  field : Option FieldDemand
  threshold : Threshold
deriving DecidableEq, Repr

namespace Directive

/-- The threshold of all targets that begin in the same way. -/
def ofTarget (target : List Char) (threshold : Threshold) : Directive :=
  ⟨target, none, none, threshold⟩

/-- The directive gives a threshold to the event. -/
def concerns (directive : Directive) (event : Event) : Bool :=
  directive.target.isPrefixOf event.target.toList && directive.span.isNone
    && match directive.field with
      | none => true
      | some ⟨name, value⟩ => value.isNone && event.fields.contains name

/-- The field comes first in order: none before any, else by name. -/
def fieldLess : Option FieldDemand → Option FieldDemand → Bool
  | none, some _ => true
  | some a, some b => a.name < b.name
  | _, none => false

/-- The directive is less specific: its target is shorter, or as long and its field comes
first. -/
def less (a b : Directive) : Bool :=
  a.target.length < b.target.length
    || (a.target.length == b.target.length && fieldLess a.field b.field)

end Directive

/-! ## Reading directives -/

/-- A part of a text, from one byte offset to another. -/
structure Extent where
  start : Nat
  stop : Nat
deriving DecidableEq, Repr

/-- How a directive is laid out. -/
inductive Layout
  /-- A level, or else a target. -/
  | word
  /-- Any of a target, a span and a field, and the offset of a level if there is an equals
  sign. -/
  | parts (target span field : Option Extent) (level : Option Nat)
deriving DecidableEq, Repr

namespace Layout

/-- A character that a target may begin with. -/
def isTargetStart (c : Char) : Bool :=
  Text.isAlphanumeric c || c == '_' || c == ':' || c == '-'

/-- The layout of what follows the brackets, at an offset. -/
def ofEnding? (target span field : Option Extent) (offset : Nat) : List Char → Option Layout
  | [] => some (.parts target span field none)
  | '=' :: _ => some (.parts target span field (some (offset + 1)))
  | _ => none

/-- The layout of what follows an opening bracket, at an offset: a span, or a field in braces
behind a span or none. -/
def ofBrackets? (target : Option Extent) (offset : Nat) (text : List Char) : Option Layout :=
  let name := text.takeWhile fun c => c != ']' && c != '\x7b'
  let stop := offset + Text.byteLength name
  match text.drop name.length with
  | [] => none
  | ']' :: rest => ofEnding? target (some ⟨offset, stop⟩) none (stop + 1) rest
  | _ :: rest =>
    let field := rest.takeWhile (· != '\x7d')
    let close := stop + 1 + Text.byteLength field
    match field, rest.drop field.length with
    | _ :: _, '\x7d' :: ']' :: rest =>
      let span := if name.isEmpty then none else some ⟨offset, stop⟩
      ofEnding? target span (some ⟨stop + 1, close⟩) (close + 2) rest
    | _, _ => none

/-- The layout of a directive without white space around it. -/
def ofText? (text : List Char) : Option Layout :=
  let head := text.takeWhile fun c => c != '=' && c != '['
  let stop := Text.byteLength head
  match head, text.drop head.length with
  | [], '[' :: rest => ofBrackets? none 1 rest
  | [], _ => none
  | c :: _, rest =>
    if !isTargetStart c then none
    else match rest with
      | [] => some .word
      | '[' :: rest => ofBrackets? (some ⟨0, stop⟩) (stop + 1) rest
      | _ => some (.parts (some ⟨0, stop⟩) none none (some (stop + 1)))

end Layout

/-- Read a field: its name, and a value behind an equals sign, which is a number or a pattern. -/
def FieldDemand.ofText? (text : List Char) : Option FieldDemand :=
  let name := text.takeWhile (· != '=')
  match text.drop name.length with
  | [] => some ⟨String.ofList name, none⟩
  | _ :: rest =>
    let value := rest.takeWhile (· != '=')
    if (readNumber value).isOk || Log.Pattern.isPattern value then
      some ⟨String.ofList name, some (String.ofList value)⟩
    else none

namespace Directive

/-- Take the parts of a directive out of its text. Without a level, all events are shown. -/
def ofLayout? (text : List Char) : Layout → Option Directive
  | .word =>
    match Threshold.ofText? text with
    | some threshold => some (ofTarget [] threshold)
    | none => some (ofTarget text (.from .trace))
  | .parts target span field level => do
    let slice := fun (extent : Extent) => Text.slice? text extent.start extent.stop
    let target ← target.mapM slice
    let span ← span.mapM slice
    let field ← (← field.mapM slice).mapM FieldDemand.ofText?
    let level ← level.mapM fun start => Text.slice? text start (Text.byteLength text)
    let threshold ← match level with
      | none | some [] => some (.from .trace)
      | some level => Threshold.ofText? level
    return ⟨target.getD [], span.map String.ofList, field, threshold⟩

/-- Read a directive. White space around it does not count for its layout, but it does for the
offsets at which the parts are taken. -/
def ofText? (text : List Char) : Option Directive :=
  Layout.ofText? (Text.trim text) >>= ofLayout? text

end Directive

/-! ## Filters -/

/-- Directives in the order in which they were given. -/
abbrev Filter := List Directive

/-- The parts of a text between the separators. -/
def splitAll (separator : Char) : List Char → List (List Char)
  | [] => [[]]
  | c :: rest =>
    if c = separator then [] :: splitAll separator rest
    else match splitAll separator rest with
      | [] => [[c]]
      | part :: parts => (c :: part) :: parts

namespace Filter

/-- The filter that shows the events of a level and of those above it. -/
def ofLevel (level : Level) : Filter := [.ofTarget [] (.from level)]

/-- Read a filter. Without any directive, errors are shown. -/
def ofText? (text : String) : Option Filter :=
  match (splitAll ',' text.toList).filter (!·.isEmpty) with
  | [] => some (ofLevel .error)
  | parts => parts.mapM Directive.ofText?

/-- The more specific directive, the second one of two equals. -/
def moreSpecific (a b : Directive) : Directive := if b.less a then a else b

/-- The event is to be shown. -/
def admits (filter : Filter) (event : Event) : Bool :=
  match List.filter (fun directive => directive.concerns event) filter with
  | [] => false
  | directive :: rest => (rest.foldl moreSpecific directive).threshold.admits event.level

end Filter

end Formulary.CommandLine
