import StepCondition.CommandLine

/-!
# The program

Reads the command line, the environment and the standard input, and writes the
outcome. A session at a terminal is answered line by line.
-/

namespace StepCondition

/-- The variables of this process. -/
def environment : IO (List (ByteArray × ByteArray)) :=
  try
    return variablesOfBytes (← IO.FS.readBinFile "/proc/self/environ").toList
  catch _ => return []

/-- All bytes of a stream. -/
partial def readAll (stream : IO.FS.Stream) (before : ByteArray) : IO ByteArray := do
  let chunk ← stream.read 65536
  if chunk.isEmpty then return before else readAll stream (before ++ chunk)

/-- Answers the lines of a terminal until one ends the session. -/
partial def converse (setting : Setting) (calls : List Call) : IO UInt32 := do
  let stdout ← IO.getStdout
  stdout.putStr prompt
  stdout.flush
  let line ← (← IO.getStdin).getLine
  if line.isEmpty then return 0
  match Session.reply setting calls line with
  | { reply := .leave, .. } => return 0
  | { reply, calls, .. } =>
    stdout.putStr reply.text
    converse setting calls

/-- Writes an outcome. -/
def finish (outcome : Outcome) : IO UInt32 := do
  (← IO.getStdout).putStr outcome.stdout
  (← IO.getStderr).putStr outcome.stderr
  return outcome.code.toUInt32

/-- Carries out the command line. -/
def runProcess (args : List String) : IO UInt32 := do
  let vars ← environment
  match Command.ofArgs args with
  | .ok command =>
    let stdin ← IO.getStdin
    if command.readsInput && (← stdin.isTty) then
      match command with
      | .check condition _ env _ =>
        finish ((Command.check condition (some "") env false).run vars .empty)
      | _ =>
        IO.println "Condition evaluator"
        converse { scope := (sessionScope (.ofVariables (decodedVariables vars))).get? } []
    else
      let input ← if command.readsInput then readAll stdin .empty else pure .empty
      finish (command.run vars input)
  | .error _ => finish (Command.runArgs args vars .empty)

end StepCondition

/-- The program. -/
def main (args : List String) : IO UInt32 := StepCondition.runProcess args
