import Formulary.CommandLine.Arguments
import Formulary.CommandLine.Log.Filter
import Formulary.CommandLine.Report
import Formulary.Inspect
import Formulary.Json

/-!
# Formulary.CommandLine

The command line as a function from arguments to output.

`CommandLine.run` gives the exit code and, in order, the lines to print, the
log events to show and the failure to report.
-/

namespace Formulary.CommandLine

/-! ## Output -/

/-- Something to show. -/
inductive Output
  /-- A text on standard output, with the line break after it. -/
  | print (text : String)
  /-- A line of the log, on standard error. -/
  | log (event : Event)
  /-- A text on standard error, with the line break after it. -/
  | complain (text : String)
deriving DecidableEq, Repr

/-- What a run of the program shows and the code it exits with. -/
structure Outcome where
  exitCode : UInt8
  output : List Output

/-- What a command has shown so far, and its source of random numbers. -/
structure Progress where
  output : Array Output
  generator : Generator

/-- A part of a command, which may fail. -/
abbrev Run := EStateM Report Progress

namespace Run

def put (item : Output) : Run Unit :=
  modify fun progress => { progress with output := progress.output.push item }

def print (text : String) : Run Unit := Run.put (.print text)

def log (event : Event) : Run Unit := Run.put (.log event)

end Run

/-! ## Log messages -/

/-- An event that the command line reports itself. -/
def ownEvent (level : Level) (message : String) (details : List (String × String)) : Event :=
  ⟨level, "reckon", message, details, []⟩

/-- An event that a part of the library reports. It is also known where it comes from. -/
def partEvent (level : Level) (part message : String) : Event :=
  ⟨level, s!"reckon_formula::{part}", message, [],
    ["log.target", "log.module_path", "log.file", "log.line"]⟩

/-- Log that a formula passed from one stage to another. -/
def logPhase (text : String) (phase : Phase) : Run Unit :=
  Run.log (partEvent .trace "formula"
    s!"formula '{text}': {Phase.blank.inspect} -> {phase.inspect}")

/-- Log what compiling a formula did. -/
def logCompiled (text : String) (evaluator : Evaluator Generator) : Run Unit := do
  for (symbol, e) in evaluator.refused do
    Run.log (partEvent .trace "compiler" s!"not folding '{symbol}': {e.message}")
  Run.log (partEvent .debug "compiler"
    s!"compiled formula: {evaluator.slotCount} variable slots, {evaluator.folded} nodes folded")
  logPhase text .compiled

/-! ## Commands -/

/-- The built-in registry, with a strict division under a symbol if one is given. -/
def buildRegistry (strictDivide : Option String) : Run (Registry Generator) :=
  match strictDivide with
  | none => pure .builtin
  | some symbol => do
    let operator := Builtin.strictDivide symbol
    match Registry.builtin.register operator with
    | .ok registry =>
      Run.log (partEvent .trace "operators"
        s!"registering {operator.arity.name} operator '{operator.symbol}'")
      return registry
    | .error e => throw ⟨s!"Failed to register strict divide as '{symbol}'", [e.message]⟩

/-- Parse a formula. -/
def buildFormula (text : String) (registry : Registry Generator) (options : Options) :
    Run (Formula Generator) :=
  match Formula.ofText? text registry options with
  | .ok formula => do
    logPhase text formula.phase
    return formula
  | .error e => throw (located text e)

/-- Bind a variable, which the formula should use. -/
def bindVariable (formula : Formula Generator) (binding : String × Float) :
    Run (Formula Generator) := do
  let (name, value) := binding
  unless formula.referenced.contains name do
    Run.log (ownEvent .warn s!"variable '{name}' is not used by the formula" [])
  return formula.bind name (.static value)

/-- Evaluate a formula once and print the result. -/
def evaluateOnce (formula : Formula Generator) : Run (Formula Generator) := do
  let (result, evaluated, generator) := formula.evaluate (← get).generator
  modify fun progress => { progress with generator }
  match formula.stage, evaluated.stage with
  | .parsed _, .compiled _ evaluator => logCompiled formula.text evaluator
  | _, _ => pure ()
  match result with
  | .ok value =>
    Run.print (floatText .plain value)
    return evaluated
  | .error e => throw ((located formula.text e).within
      "Failed to evaluate formula (bind variables with --var NAME=VALUE)")

/-- Evaluate a formula again and again. -/
def evaluateTimes (formula : Formula Generator) : Nat → Run Unit
  | 0 => pure ()
  | times + 1 => do
    let formula ← evaluateOnce formula
    evaluateTimes formula times

/-- List the tokens of a text, up to an error if there is one. -/
def listTokens (text : String) : Run Unit := do
  let lexed := (Registry.builtin : Registry Generator).lexicon.tokens text
  for spanned in lexed.tokens do
    let digits := toString spanned.offset
    let blanks := String.ofList (List.replicate (4 - digits.length) ' ')
    Run.print s!"{blanks}{digits}  {spanned.token.describe}"
  match lexed.ending with
  | .ok _ => pure ()
  | .error e => throw (located text (.parse (.lexical e)))

/-- Run a command. -/
def execute : Command → Run Unit
  | .eval text bindings repetitions strictDivide options => do
    let registry ← buildRegistry strictDivide
    Run.log (ownEvent .debug "parsing formula" [("options", options.inspect)])
    let formula ← buildFormula text registry options
    let formula ← bindings.foldlM bindVariable formula
    unless formula.unbound.isEmpty do
      let names := ", ".intercalate formula.unbound
      Run.log (ownEvent .warn s!"unbound variables: {names}" [])
    evaluateTimes formula repetitions
  | .ast text json => do
    let formula ← buildFormula text .builtin .standard
    match formula.expr? with
    | none => throw ⟨"Formula has no syntax tree", []⟩
    | some expr => Run.print (if json then expr.toJson.text 0 else expr.render)
  | .tokens text => listTokens text

/-! ## Runs -/

/-- The filter of the log: the one that is asked for, if it can be read, else by level. -/
def logFilter (requested : Option String) (verbose : Bool) : Filter :=
  (requested.bind Filter.ofText?).getD (.ofLevel (if verbose then .debug else .info))

/-- The log has a line for the event. -/
def isShown (filter : Filter) : Output → Bool
  | .log event => filter.admits event
  | _ => true

/-- Run the program with its arguments and the filter of the log, if one is asked for. -/
def run (arguments : List String) (filter : Option String) (generator : Generator) : Outcome :=
  match readArguments arguments with
  | .error .help => ⟨0, [.print helpText]⟩
  | .error .version => ⟨0, [.print versionText]⟩
  | .error (.usage e) => ⟨2, [.complain e.text]⟩
  | .ok invocation =>
    let shown := fun (output : Array Output) =>
      output.toList.filter (isShown (logFilter filter invocation.verbose))
    match execute invocation.command ⟨#[], generator⟩ with
    | .ok _ progress => ⟨0, shown progress.output⟩
    | .error report progress => ⟨1, shown progress.output ++ [.complain report.text]⟩

end Formulary.CommandLine
