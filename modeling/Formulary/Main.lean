import Formulary.CommandLine
import Std.Time.Format

/-!
# Formulary.Main

The program: it runs the command line and shows what comes out.
-/

namespace Formulary.CommandLine

/-- The present time, as it stands at the front of a line of the log. -/
def timestamp : IO String := do
  let now ← Std.Time.Timestamp.now
  let time := (Std.Time.DateTime.ofTimestampWithZone now .UTC).toPlainDateTime
  return s!"{time}Z"

/-- Show one item. -/
def Output.write : Output → IO Unit
  | .print text => IO.println text
  | .log event => do
    let time ← timestamp
    let blanks := String.ofList (List.replicate (5 - event.level.name.length) ' ')
    IO.eprintln s!"{time} {blanks}{event.line}"
  | .complain text => IO.eprintln text

end Formulary.CommandLine

def main (arguments : List String) : IO UInt32 := do
  let filter ← IO.getEnv "RUST_LOG"
  let seed ← IO.rand 0 0x4000000000000000
  let outcome := Formulary.CommandLine.run arguments filter ⟨UInt64.ofNat seed⟩
  for item in outcome.output do
    item.write
  return outcome.exitCode.toUInt32
