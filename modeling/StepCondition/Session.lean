import StepCondition.Evaluation
import StepCondition.Unicode.Blank

/-!
# A session of conditions

A session reads conditions line by line and answers each with its canonical text
and its value, or with what is wrong with it. Blank lines are passed over; a line
that says `quit` or `exit` ends the session, as does a line that is no text. Each
line is answered on its own (`Session.reply`), and the transcript is the answers in
a row (`Session.run`).
-/

namespace StepCondition

/-- What is written before each line is read, if someone is there to see it. -/
def prompt : String := ">> "

/-- The answer to a line. -/
inductive Reply where
  | silence
  | leave
  | errors (found : List SyntaxError)
  | value (e : Expr) (v : Value)

/-- The text of an answer. -/
def Reply.text : Reply → String
  | silence | leave => ""
  | errors found =>
    "Parser errors:\n" ++ String.join (found.map fun e => "\t" ++ e.message ++ "\n")
  | value e v => "Expression: " ++ e.render ++ "\n" ++ v.display ++ "\n"

/-- An answer with what else came of it. -/
structure Answer where
  reply : Reply := .silence
  /-- The calls of host functions: those made before the line and its own. -/
  calls : List Call
  log : List LogEntry := []

/-- What a session leaves behind. -/
structure Transcript where
  output : String := ""
  /-- All calls of host functions, in order. -/
  calls : List Call := []
  log : List LogEntry := []
  /-- Whether the session ended at a line that is no text. -/
  invalidText : Bool := false

namespace Session

variable (setting : Setting)

/-- The answer to a line, after some calls made before it. -/
def reply (before : List Call) (line : String) : Answer :=
  let text := String.ofList (Unicode.trim line.toList)
  if text = "" then { calls := before }
  else if text = "quit" || text = "exit" then { reply := .leave, calls := before }
  else
    let (e, p) := (Parser.ofText text).parse
    match e, p.errors with
    | some e, [] =>
      let (v, after) := setting.evaluate e before
      { reply := .value e v, calls := after.calls, log := p.log ++ after.log }
    | none, [] => { calls := before, log := p.log }
    | _, errors => { reply := .errors errors, calls := before, log := p.log }

/-- The lines of a text in bytes, each without its line feed. What follows the last
line feed is a line if it is not empty. -/
def lines : List UInt8 → List (List UInt8)
  | [] => []
  | b :: bs =>
    if b = '\n'.toUInt8 then [] :: lines bs
    else
      match lines bs with
      | [] => [[b]]
      | line :: more => (b :: line) :: more

/-- Answers lines until one ends the session. -/
def answer (interactive : Bool) (t : Transcript) : List (List UInt8) → Transcript
  | [] => { t with output := t.output ++ ask }
  | line :: more =>
    let asked := { t with output := t.output ++ ask }
    match String.fromUTF8? ⟨line.toArray⟩ with
    | none => { asked with invalidText := true }
    | some text =>
      match reply setting t.calls text with
      | { reply := .leave, .. } => asked
      | { reply, calls, log } =>
        answer interactive
          { asked with output := asked.output ++ reply.text, calls, log := asked.log ++ log } more
where
  /-- What is written before a line is read. -/
  ask : String := if interactive then prompt else ""

/-- The transcript of a session on some input. -/
def run (interactive : Bool) (input : List UInt8) : Transcript :=
  answer setting interactive {} (lines input)

end Session

end StepCondition
