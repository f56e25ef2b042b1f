import StepCondition.Evaluation
import StepCondition.Json.Reader
import StepCondition.Struct
import StepCondition.Unicode.Blank

/-!
# Checking one condition

A check parses a condition and, unless only its form is of interest, evaluates it
in a scope made of a JSON text and of environment variables (`Check.run`). There
are no host functions in such a scope.
-/

namespace StepCondition

/-- What to check. -/
structure Check where
  condition : String
  /-- A JSON object whose members are the scope. A blank text stands for an empty
  one. -/
  input : Option String := none
  /-- Variables that the name `env` is bound to, whatever the input binds it to. -/
  env : Option Struct := none
  /-- Whether to parse the condition only. -/
  syntaxOnly : Bool := false

/-- What a check finds. -/
inductive Finding where
  | syntaxValid (e : Expr)
  | value (e : Expr) (v : Value)

/-- Why a command fails. -/
inductive CommandError where
  | parse (errors : List SyntaxError)
  /-- The condition has no value. -/
  | evaluation (message : String)
  | json (fault : Json.Fault)
  | scope (error : ScopeError)
  /-- The standard input is no text. -/
  | invalidText
  deriving DecidableEq

/-- The message for an error. -/
def CommandError.message : CommandError → String
  | parse errors => "Parse error: " ++ "; ".intercalate (errors.map SyntaxError.message)
  | evaluation message => "Evaluation error: " ++ message
  | json fault => "Invalid JSON: " ++ fault.message
  | scope error => "Invalid scope: " ++ error.message
  | invalidText => "IO error: stream did not contain valid UTF-8"

namespace Check

/-- The JSON value that the input of a check spells, unless it is blank. -/
def inputJson (check : Check) : Except CommandError (Option Json) :=
  match check.input.filter fun text => Unicode.trim text.toList ≠ [] with
  | none => .ok none
  | some text => ((Json.read text).mapError .json).map some

/-- The scope of a check. -/
def scope (check : Check) : Except CommandError Struct := do
  let s ← match ← check.inputJson with
    | none => .ok ∅
    | some json => (Struct.ofJson json).mapError .scope
  return match check.env with
    | some env => s.insert "env" (.struct env)
    | none => s

/-- Carries out a check. -/
def run (check : Check) : Except CommandError Finding :=
  match parse check.condition with
  | .error errors => .error (.parse errors)
  | .ok e =>
    if check.syntaxOnly then .ok (.syntaxValid e)
    else do
      let setting : Setting := { scope := (← check.scope).get? }
      match (setting.evaluate e []).1 with
      | .error message => .error (.evaluation message)
      | v => .ok (.value e v)

/-- What a check notes on the way: the errors in its condition, or what is left out
of its input and then the calls. -/
def notes (check : Check) : List LogEntry :=
  (Parser.ofText check.condition).parse.2.log ++
    match parse check.condition, check.syntaxOnly, check.inputJson, check.scope with
    | .ok e, false, .ok json, .ok s =>
      (json.map Json.omissions).getD [] ++
        (Setting.evaluate { scope := s.get? } e []).2.log
    | _, _, _, _ => []

end Check

end StepCondition
