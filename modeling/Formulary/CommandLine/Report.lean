import Formulary.Formula
import Formulary.Text.Bytes

/-!
# Formulary.CommandLine.Report

Reports of failures: what failed, and why, cause after cause.

An error that points into the text of a formula is reported with the text and
a caret below the place.
-/

namespace Formulary.CommandLine

/-- A failure and its causes, from the outermost to the first. -/
structure Report where
  message : String
  causes : List String
deriving DecidableEq, Repr

namespace Report

/-- Say what was being done when the failure arose. -/
def within (report : Report) (context : String) : Report :=
  ⟨context, report.message :: report.causes⟩

/-- Put text before the first line of a message, and blanks before the others. -/
def indent (first : String) (blanks : Nat) (message : String) : String :=
  let margin := "\n" ++ String.ofList (List.replicate blanks ' ')
  first ++ String.join (message.toList.map fun c => if c = '\n' then margin else c.toString)

/-- One of several causes, by its number. -/
def numbered (cause : String) (number : Nat) : String :=
  let digits := toString number
  let blanks := String.ofList (List.replicate (5 - digits.length) ' ')
  indent (blanks ++ digits ++ ": ") 7 cause

/-- The text of a report. Several causes are numbered. -/
def text (report : Report) : String :=
  let causes := match report.causes with
    | [] => []
    | [cause] => ["", "Caused by:", indent "    " 4 cause]
    | causes => "" :: "Caused by:" :: causes.zipIdx.map fun (cause, i) => numbered cause i
  "\n".intercalate (("Error: " ++ report.message) :: causes)

end Report

/-! ## Places in a text -/

/-- The text with a caret below the place of a byte offset. -/
def caret (text : String) (offset : Nat) : String :=
  let column := (Text.column? text.toList offset).getD offset
  let blanks := String.ofList (List.replicate column ' ')
  s!"Invalid formula\n  {text}\n  {blanks}^"

/-- The report of an error of a formula with the given text. -/
def located (text : String) (e : FormulaError) : Report :=
  let report : Report := ⟨e.message, []⟩
  match e.offset? with
  | some offset => report.within (caret text offset)
  | none => report

end Formulary.CommandLine
