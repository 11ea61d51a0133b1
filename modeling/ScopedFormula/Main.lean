import ScopedFormula.CommandLine

/- The program: arguments and input in, output, errors and exit code out. A dialogue is held
   line by line, so that each answer is seen before the next line is read. -/
namespace ScopedFormula

partial def converse (input output : IO.FS.Stream) (st : Store) : IO Unit := do
  output.putStr prompt
  output.flush
  let line ← input.getLine
  if line.isEmpty then output.putStr "\n"
  else
    let (text, st') := answerLine line st
    output.putStr text
    converse input output st'

def report (o : Outcome) : IO UInt32 := do
  (← IO.getStdout).putStr o.output
  (← IO.getStderr).putStr (o.errors.getD helpText)
  return UInt32.ofNat o.code

end ScopedFormula

def main (args : List String) : IO UInt32 := do
  match ScopedFormula.readArguments .start args with
  | .run r =>
      match r.task, ScopedFormula.startStore r with
      | .interactive, .ok st =>
          ScopedFormula.converse (← IO.getStdin) (← IO.getStdout) st
          return 0
      | _, _ => ScopedFormula.report (r.run "")
  | i => ScopedFormula.report (i.outcome "")
