import Formulary.CommandLine.Count
import Formulary.CommandLine.Terminal
import Formulary.Formula
import Formulary.Text.Blank

/-!
# Formulary.CommandLine.Arguments

The arguments of the command line.

A command takes words and switches. A switch is written `--name`, some also
with a letter, and may take a value, written `--name=value` or in the argument
that follows. After `--` there are only words. A value is checked when the
next switch or word begins, so that of two mistakes the first is reported.
-/

namespace Formulary.CommandLine

/-! ## Values -/

/-- Read a binding, `NAME=VALUE`. White space around both does not count. -/
def readBinding (text : String) : Except String (String × Float) :=
  let chars := text.toList
  match chars.dropWhile (· != '=') with
  | [] => .error s!"expected NAME=VALUE, got '{text}'"
  | _ :: value =>
    let name := String.ofList (Text.trim (chars.takeWhile (· != '=')))
    if name = "" then .error s!"missing variable name in '{text}'"
    else match readNumber (Text.trim value) with
      | .ok value => .ok (name, value)
      | .error e => .error s!"invalid value for '{name}': {e.message}"

/-! ## Switches -/

/-- A switch of a command. -/
structure Switch where
  name : String
  letter : Option Char
  /-- What stands for the value in messages, if the switch takes a value. -/
  placeholder : Option String
  /-- The switch may be given more than once. -/
  repeatable : Bool
  /-- The reason to refuse a value, if there is one. -/
  refuse : String → Option String

namespace Switch

/-- A switch that is given or not. -/
def flag (name : String) (letter : Option Char) : Switch := ⟨name, letter, none, false, fun _ => none⟩

/-- A switch with a count. -/
def count (name placeholder : String) : Switch :=
  ⟨name, none, some placeholder, false, fun value =>
    match readCount value.toList with
    | .ok _ => none
    | .error e => some e.message⟩

/-- A switch with any value. -/
def text (name placeholder : String) : Switch := ⟨name, none, some placeholder, false, fun _ => none⟩

def verbose : Switch := flag "verbose" (some 'v')
def help : Switch := flag "help" (some 'h')
def version : Switch := flag "version" (some 'V')
def noFold : Switch := flag "no-fold" none
def json : Switch := flag "json" none
def repetitions : Switch := count "repeat" "REPEAT"
def maxDepth : Switch := count "max-depth" "MAX_DEPTH"
def strictDivide : Switch := text "strict-divide" "SYMBOL"
def binding : Switch := ⟨"var", none, some "NAME=VALUE", true, fun value =>
  match readBinding value with
  | .ok _ => none
  | .error reason => some reason⟩

/-- The switch as messages show it. -/
def usage (switch : Switch) : String :=
  match switch.placeholder with
  | none => s!"--{switch.name}"
  | some placeholder => s!"--{switch.name} <{placeholder}>"

end Switch

/-! ## Mistakes -/

/-- Why the arguments are wrong. A switch is given as messages show it. -/
inductive UsageError
  | invalidValue (value switch reason : String)
  | missingValue (switch : String)
  | needlessValue (value switch : String)
  | repeatedSwitch (switch : String)
  | unexpectedArgument (argument : String)
  | unknownCommand (name : String)
  | missingCommand
  | missingFormula
deriving DecidableEq, Repr

namespace UsageError

open Terminal in
/-- The wording of the error, styled. -/
def message : UsageError → String
  | invalidValue value switch reason =>
    s!"invalid value '{styled .faulty value}' for '{styled .literal switch}': {reason}"
  | missingValue switch =>
    s!"a value is required for '{styled .literal switch}' but none was supplied"
  | needlessValue value switch =>
    s!"unexpected value '{styled .faulty value}' for '{styled .literal switch}' found; " ++
      "no more were expected"
  | repeatedSwitch switch =>
    s!"the argument '{styled .faulty switch}' cannot be used multiple times"
  | unexpectedArgument argument => s!"unexpected argument '{styled .faulty argument}' found"
  | unknownCommand name => s!"unrecognized subcommand '{styled .faulty name}'"
  | missingCommand => "a subcommand is required but none was given"
  | missingFormula =>
    "the following required arguments were not provided:\n  " ++ styled .wanted "<FORMULA>"

open Terminal in
/-- The text of the error. An argument may hold control sequences, which are left out together
with the styles. -/
def text (e : UsageError) : String :=
  plain (styled .alarm "error:" ++ " " ++ e.message ++
    "\n\nFor more information, try '" ++ styled .literal "--help" ++ "'.")

end UsageError

/-! ## Collecting -/

/-- Why no command is run. -/
inductive Stop
  | help
  | version
  | usage (e : UsageError)
deriving DecidableEq, Repr

/-- The arguments that have been read. -/
structure Collected where
  words : List String
  /-- Switches by name with their values, the last one first. -/
  settings : List (String × String)
  /-- A switch that takes a value, and the value if it has been read. -/
  waiting : Option (Switch × Option String)

namespace Collected

def start : Collected := ⟨[], [], none⟩

/-- The switch was given. -/
def has (collected : Collected) (switch : Switch) : Bool :=
  (collected.settings.lookup switch.name).isSome

/-- The value of a switch that was given. -/
def value? (collected : Collected) (switch : Switch) : Option String :=
  collected.settings.lookup switch.name

/-- All values of a switch, in order. -/
def values (collected : Collected) (switch : Switch) : List String :=
  ((collected.settings.filter (·.1 == switch.name)).map Prod.snd).reverse

/-- Record a switch with its value. -/
def accept (collected : Collected) (switch : Switch) (value : String) : Except Stop Collected :=
  if collected.has switch && !switch.repeatable then
    .error (.usage (.repeatedSwitch switch.usage))
  else match switch.refuse value with
    | some reason => .error (.usage (.invalidValue value switch.usage reason))
    | none => .ok { collected with settings := (switch.name, value) :: collected.settings }

/-- Record the switch that was waiting for its value. -/
def settle (collected : Collected) : Except Stop Collected :=
  match collected.waiting with
  | none => .ok collected
  | some (switch, none) => .error (.usage (.missingValue switch.usage))
  | some (switch, some value) => { collected with waiting := none }.accept switch value

/-- A switch without a value was given. -/
def acceptFlag (collected : Collected) (switch : Switch) : Except Stop Collected := do
  let collected ← collected.settle
  if switch.name = Switch.help.name then throw .help
  else if switch.name = Switch.version.name then throw .version
  else collected.accept switch ""

/-- An argument that has no meaning here. -/
def unexpected (argument : String) : Stop := .usage (.unexpectedArgument argument)

/-- A word, of which there may be `most`. -/
def acceptWord (collected : Collected) (most : Nat) (word : String) : Except Stop Collected := do
  if most ≤ collected.words.length then throw (unexpected word)
  let collected ← collected.settle
  return { collected with words := collected.words ++ [word] }

/-- A switch by name, with the value after the equals sign if there is one. -/
def acceptLong (collected : Collected) (switches : List Switch) (text : List Char) :
    Except Stop Collected :=
  let name := String.ofList (text.takeWhile (· != '='))
  let attached := match text.dropWhile (· != '=') with
    | [] => none
    | _ :: value => some (String.ofList value)
  match switches.find? (·.name == name), attached with
  | none, _ => .error (unexpected s!"--{name}")
  | some switch, attached =>
    match switch.placeholder, attached with
    | none, none => collected.acceptFlag switch
    | none, some value => .error (.usage (.needlessValue value switch.usage))
    | some _, some value => do
      let collected ← collected.settle
      collected.accept switch value
    | some _, none => do
      let collected ← collected.settle
      return { collected with waiting := some (switch, none) }

/-- Switches by letter. -/
def acceptLetters (collected : Collected) (switches : List Switch) (letters : List Char) :
    Except Stop Collected :=
  letters.foldlM (fun collected letter =>
    match switches.find? (·.letter == some letter) with
    | none => throw (unexpected s!"-{letter}")
    | some switch => collected.acceptFlag switch) collected

/-- Read the arguments of a command that takes these switches and at most so many words. -/
def collect (switches : List Switch) (most : Nat) (collected : Collected) :
    List String → Except Stop Collected
  | [] => collected.settle
  | argument :: rest =>
    match argument.toList with
    | ['-', '-'] => do
      let collected ← rest.foldlM (fun collected word => collected.acceptWord most word) collected
      collected.settle
    | '-' :: '-' :: text => do
      let collected ← collected.acceptLong switches text
      collected.collect switches most rest
    | '-' :: letter :: letters => do
      let collected ← collected.acceptLetters switches (letter :: letters)
      collected.collect switches most rest
    | _ =>
      match collected.waiting with
      | some (switch, none) =>
        { collected with waiting := some (switch, some argument) }.collect switches most rest
      | _ => do
        let collected ← collected.acceptWord most argument
        collected.collect switches most rest

end Collected

/-! ## Commands -/

/-- What to do. -/
inductive Command
  /-- Evaluate a formula and print the result. -/
  | eval (formula : String) (bindings : List (String × Float)) (repetitions : Nat)
      (strictDivide : Option String) (options : Options)
  /-- Print the expression that a formula is parsed to. -/
  | ast (formula : String) (json : Bool)
  /-- Print the tokens of a formula. -/
  | tokens (formula : String)

/-- What to do, and how much to say about it. -/
structure Invocation where
  verbose : Bool
  command : Command

/-- The formula, which is the one word of every command. -/
def Collected.formula (collected : Collected) : Except Stop String :=
  match collected.words with
  | formula :: _ => .ok formula
  | [] => .error (.usage .missingFormula)

/-- The count given by a switch. -/
def Collected.count (collected : Collected) (switch : Switch) (default : Nat) : Nat :=
  match collected.value? switch with
  | none => default
  | some value => (readCount value.toList).toOption.getD default

/-- The switches of every command. -/
def commonSwitches : List Switch := [.verbose, .help]

/-- The command of a name, from its arguments. -/
def command (name : String) (arguments : List String) : Except Stop (Command × Bool) :=
  match name with
  | "eval" => do
    let switches :=
      [.binding, .repetitions, .strictDivide, .noFold, .maxDepth] ++ commonSwitches
    let collected ← Collected.start.collect switches 1 arguments
    let formula ← collected.formula
    let bindings := (collected.values .binding).filterMap (readBinding · |>.toOption)
    let options : Options :=
      ⟨.onDemand, !collected.has .noFold, collected.count .maxDepth Options.defaultMaxDepth⟩
    let repetitions := collected.count .repetitions 1
    return (.eval formula bindings repetitions (collected.value? .strictDivide) options,
      collected.has .verbose)
  | "ast" => do
    let collected ← Collected.start.collect (.json :: commonSwitches) 1 arguments
    let formula ← collected.formula
    return (.ast formula (collected.has .json), collected.has .verbose)
  | "tokens" => do
    let collected ← Collected.start.collect commonSwitches 1 arguments
    let formula ← collected.formula
    return (.tokens formula, collected.has .verbose)
  | "help" =>
    match arguments with
    | [] | ["eval"] | ["ast"] | ["tokens"] | ["help"] => .error .help
    | argument :: _ => .error (.usage (.unknownCommand argument))
  | name => .error (.usage (.unknownCommand name))

/-- An argument before the name of the command. -/
def isSwitch (argument : String) : Bool :=
  argument.toList.head? == some '-' && argument != "-"

/-- Read all arguments: switches, the name of a command, and its arguments. -/
def readArguments (arguments : List String) : Except Stop Invocation := do
  let switches := arguments.takeWhile isSwitch
  let collected ← Collected.start.collect (.version :: commonSwitches) 0 switches
  match arguments.dropWhile isSwitch with
  | [] => throw (.usage .missingCommand)
  | name :: rest =>
    if switches.contains "--" then throw (Collected.unexpected name)
    let (command, verbose) ← command name rest
    return ⟨collected.has .verbose || verbose, command⟩

/-! ## Messages -/

/-- How the program is used. -/
def helpText : String :=
  "Formula evaluation and inspection tool\n\n" ++
  "Usage: reckon [OPTIONS] <COMMAND>\n\n" ++
  "Commands:\n" ++
  "  eval    Evaluate a formula and print the result\n" ++
  "  ast     Print the parsed tree, fully parenthesized\n" ++
  "  tokens  Print the tokens of a formula with their offsets\n" ++
  "  help    Print this message\n\n" ++
  "Options:\n" ++
  "  -v, --verbose  Log compilation details\n" ++
  "  -h, --help     Print help\n" ++
  "  -V, --version  Print version"

/-- The name and the version of the program. -/
def versionText : String := "reckon 0.1.0"

end Formulary.CommandLine
