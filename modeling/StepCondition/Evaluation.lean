import StepCondition.Expr.Parser
import StepCondition.Value

/-!
# Evaluating a condition

A condition is evaluated in a setting: a scope that binds its names, a host that
answers its calls, and a limit on nesting. Evaluation goes from left to right and
stops at the first error. It keeps count of its depth and writes down every call
that it makes (`Evaluator`); nothing else is remembered, so an evaluator can be
used again (`Setting.eval`). `Setting.evaluate` turns an error into a value.

A failure that the scope holds or that the host answers is an error at once: no
operator, array or call ever meets one.
-/

namespace StepCondition

/-- The deepest tree that is evaluated. -/
def maxEvalDepth : Nat := 2 * maxDepth

/-- The operands of an operator. -/
inductive Side where
  | left
  | right
  deriving DecidableEq, Repr

/-- What can go wrong in an evaluation. -/
inductive EvalError where
  | undefinedIdentifier (name : String)
  | missingProperty (name : String)
  | notAFunction (name : String)
  /-- An operand of a kind that the operator does not take. -/
  | unexpectedKind (wanted : Kind) (side : Side) (op : BinaryOp) (found : Kind)
  /-- An access to something that is no name. -/
  | notAName (right : Expr)
  | unknownOperator (op : UnaryOp) (kind : Kind)
  | invalidRegexp (pattern : String) (fault : Pattern.Fault)
  | tooDeep (limit : Nat)
  /-- The negation of an integer that has none. -/
  | overflow (n : Int64)
  /-- A failure that came from the scope or the host. -/
  | raised (message : String)
  deriving DecidableEq, Repr

/-- The name of a side. -/
def Side.name : Side → String
  | left => "left"
  | right => "right"

/-- The message for an error. -/
def EvalError.message : EvalError → String
  | undefinedIdentifier name => "identifier not found: " ++ name
  | missingProperty name => "struct has no property \"" ++ name ++ "\""
  | notAFunction name => "not a function: " ++ name
  | unexpectedKind wanted side op found =>
    "expected " ++ wanted.name ++ " on " ++ side.name ++ " side of " ++
      String.ofList op.symbol ++ ", got " ++ found.name
  | notAName right => "expected identifier on right side of ., got " ++ right.render
  | unknownOperator op kind =>
    "unknown operator: " ++ String.singleton op.symbol ++ kind.name
  | invalidRegexp pattern fault => "invalid regexp /" ++ pattern ++ "/: " ++ fault.message
  | tooDeep limit => "expression nesting exceeds maximum depth of " ++ toString limit
  | overflow n => "integer overflow: -" ++ String.ofList (Text.decimal n.toInt)
  | raised message => message

/-- What the names of a condition mean. -/
abbrev Scope := String → Option Value

/-- The scope that a struct makes. -/
def Struct.scope (s : Struct) : Scope := s.get?

/-- A call of a host function: the name it was called by, the function and its
arguments. -/
structure Call where
  name : String
  function : Function
  args : List Value

/-- How the host answers a call. The answer may depend on the calls before. -/
abbrev Host := List Call → Function → List Value → Value

/-- A host without functions. -/
def noHost : Host := fun _ _ _ => .null

/-- Where a condition is evaluated. -/
structure Setting where
  scope : Scope
  host : Host := noHost
  /-- The deepest tree that is evaluated, if there is a limit. -/
  limit : Option Nat := some maxEvalDepth

/-- An evaluator in the course of its work. -/
structure Evaluator where
  /-- How many trees around the current one are being evaluated. -/
  depth : Nat := 0
  /-- The calls made so far, in order. -/
  calls : List Call := []
  /-- What has been noted for the operator. -/
  log : List LogEntry := []

/-- The evaluator after a call, which it writes down and notes. -/
def Evaluator.record (e : Evaluator) (call : Call) : Evaluator :=
  { e with
    calls := e.calls ++ [call]
    log := e.log ++ [⟨.trace,
      "calling " ++ call.name ++ " with " ++ toString call.args.length ++ " argument(s)"⟩] }

/-- A part of an evaluation. -/
abbrev Eval (α : Type) := ExceptT EvalError (StateM Evaluator) α

/-- A value from outside, unless it is a failure. -/
def raise (v : Value) : Eval Value :=
  match v with
  | .error message => throw (.raised message)
  | v => return v

/-- A truth value. -/
def yields (b : Bool) : Eval Value := return .boolean b

namespace Setting

variable (setting : Setting)

/-- Does a part one level deeper if the limit permits. Whatever comes of it, the
depth is the same after it. -/
def nested {α : Type} (part : Eval α) : Eval α := fun s =>
  match setting.limit.filter (· ≤ s.depth) with
  | some limit => (.error (.tooDeep limit), s)
  | none =>
    let (result, after) := part { s with depth := s.depth + 1 }
    (result, { after with depth := s.depth })

/-- The value of a name. -/
def lookup (name : String) : Eval Value :=
  match setting.scope name with
  | some v => raise v
  | none => throw (.undefinedIdentifier name)

/-- Calls a function of the host. -/
def invoke (call : Call) : Eval Value := do
  let before ← getThe Evaluator
  set (before.record call)
  raise (setting.host before.calls call.function call.args)

end Setting

/-- Applies an operator before its operand. -/
def UnaryOp.apply (op : UnaryOp) (v : Value) : Eval Value :=
  match op, v with
  | .not, v => yields !v.isTruthy
  | .negate, .integer n => if n = Int64.minValue then throw (.overflow n) else return .integer (-n)
  | .negate, v => throw (.unknownOperator .negate v.kind)

/-- Whether the pattern on the right of a match is found in a text. -/
def matchAgainst (op : BinaryOp) (text : String) (right : Value) : Eval Bool :=
  match right with
  | .regexp pattern => return pattern.isMatch text
  | v => throw (.unexpectedKind .regexp .right op v.kind)

/-- Applies an operator between its operands: the value on the left, and the tree
on the right with its evaluation, which takes place only if the left side calls
for it. -/
def BinaryOp.apply (op : BinaryOp) (left : Value) (tree : Expr) (right : Eval Value) :
    Eval Value :=
  match op, left with
  | .and, left => if left.isTruthy then do yields (← right).isTruthy else yields false
  | .or, left => if left.isTruthy then yields true else do yields (← right).isTruthy
  | .equal, left => do yields (left.same (← right))
  | .notEqual, left => do yields !(left.same (← right))
  | .matching, .string text => do yields (← matchAgainst .matching text (← right))
  | .notMatching, .string text => do yields !(← matchAgainst .notMatching text (← right))
  | .contains, .array items => do
    let v ← right
    yields (items.any (·.same v))
  | .access, .struct fields =>
    match tree with
    | .identifier name =>
      match fields.get? name with
      | some v => raise v
      | none => throw (.missingProperty name)
    | tree => throw (.notAName tree)
  | .matching, v => throw (.unexpectedKind .string .left .matching v.kind)
  | .notMatching, v => throw (.unexpectedKind .string .left .notMatching v.kind)
  | .contains, v => throw (.unexpectedKind .array .left .contains v.kind)
  | .access, v => throw (.unexpectedKind .struct .left .access v.kind)

mutual

/-- The value of a tree. -/
def Setting.eval (setting : Setting) (e : Expr) : Eval Value :=
  setting.nested <|
    match e with
    | .integer n => return .integer n
    | .string s => return .string s
    | .boolean b => return .boolean b
    | .regexp pattern =>
      match Pattern.compile pattern with
      | .ok p => return .regexp p
      | .error fault => throw (.invalidRegexp pattern fault)
    | .identifier name => setting.lookup name
    | .unary op operand => do op.apply (← setting.eval operand)
    | .binary op left right => do op.apply (← setting.eval left) right (setting.eval right)
    | .call name args => do
      match ← setting.lookup name with
      | .function f => setting.invoke ⟨name, f, ← setting.evalAll args⟩
      | _ => throw (.notAFunction name)
    | .array items => return .array (← setting.evalAll items)

/-- The values of trees, from left to right. -/
def Setting.evalAll (setting : Setting) : List Expr → Eval (List Value)
  | [] => return []
  | e :: es => do
    let v ← setting.eval e
    return v :: (← setting.evalAll es)

end

namespace Setting

variable (setting : Setting)

/-- Evaluates a tree with an evaluator, which can be used again. -/
def run (e : Expr) (evaluator : Evaluator) : Except EvalError Value × Evaluator :=
  (setting.eval e).run.run evaluator

/-- The value of a tree, which is a failure if the evaluation has an error, and
the evaluator after it, which starts with some calls made before. -/
def evaluate (e : Expr) (before : List Call) : Value × Evaluator :=
  match setting.run e { calls := before } with
  | (.ok v, after) => (v, after)
  | (.error error, after) => (.error error.message, after)

end Setting

end StepCondition
