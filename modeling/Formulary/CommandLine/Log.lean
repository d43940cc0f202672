import Formulary.Text.Quoted

/-!
# Formulary.CommandLine.Log

Log events and the lines that show them.
-/

namespace Formulary.CommandLine

/-! ## Levels -/

/-- How important an event is, from the least to the most. -/
inductive Level
  | trace
  | debug
  | info
  | warn
  | error
deriving DecidableEq, Repr

namespace Level

def name : Level → String
  | trace => "TRACE"
  | debug => "DEBUG"
  | info => "INFO"
  | warn => "WARN"
  | error => "ERROR"

def rank : Level → Nat
  | trace => 0
  | debug => 1
  | info => 2
  | warn => 3
  | error => 4

end Level

/-! ## Events -/

/-- Something that is worth a line in the log. -/
structure Event where
  level : Level
  /-- The part of the program that reports it. -/
  target : String
  message : String
  /-- What else there is to say, by name. -/
  details : List (String × String)
  /-- The names of what is known of the event besides and not shown. -/
  hidden : List String
deriving DecidableEq, Repr

namespace Event

/-- The names of all that is known of the event. -/
def fields (event : Event) : List String :=
  "message" :: event.details.map Prod.fst ++ event.hidden

/-! ## Lines -/

/-- The controls that act upon a terminal, from the bell to the escape and the delete. -/
def actsOnTerminal (c : Char) : Bool :=
  c == '\x07' || c == '\x08' || c == '\x0c' || c == '\x1b' || c == '\x7f'

/-- A character of a message. Controls that act upon a terminal are shown by number. -/
def shown (c : Char) : List Char :=
  let digits := Text.hexadecimal c.toNat
  if actsOnTerminal c then ['\\', 'x'] ++ List.replicate (2 - digits.length) '0' ++ digits
  else if 0x80 ≤ c.toNat && c.toNat ≤ 0x9F then ['\\', 'u', '\x7b'] ++ digits ++ ['\x7d']
  else [c]

/-- The line of an event, without its time. -/
def line (event : Event) : String :=
  let message := String.ofList (event.message.toList.flatMap shown)
  let details := event.details.map fun (name, value) => s!" {name}={value}"
  s!"{event.level.name} {event.target}: {message}{String.join details}"

end Event

end Formulary.CommandLine
