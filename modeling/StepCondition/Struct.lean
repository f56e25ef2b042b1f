import StepCondition.Json
import StepCondition.Log
import StepCondition.Unicode.Lowercase
import StepCondition.Value

/-!
# Structs from outside

The values that a host, a JSON text or a process environment puts into a scope.
Texts, truth values, integers of 64 bits and objects have a value
(`Value.ofJson?`). Everything else found in an object is left out, and noted
(`Json.omissions`).
-/

namespace StepCondition

/-- The integer of 64 bits that equals a whole number. -/
def integerOfInt? (n : Int) : Option Int64 :=
  if Int64.minValue.toInt ≤ n ∧ n ≤ Int64.maxValue.toInt then some (Int64.ofInt n) else none

mutual

/-- The value of a JSON value, if it has one. -/
def Value.ofJson? : Json → Option Value
  | .null | .array _ | .decimal .. => none
  | .boolean b => some (.boolean b)
  | .integer n => (integerOfInt? n).map .integer
  | .string s => some (.string s)
  | .object members => some (.struct (Struct.ofMembers members))

/-- The members of an object that have a value. -/
def Struct.ofMembers {bound : Option String} : Bindings Json bound → Bindings Value bound
  | .nil => .nil
  | .cons name above json rest =>
    match Value.ofJson? json with
    | some v => .cons name above v (Struct.ofMembers rest)
    | none => (Struct.ofMembers rest).lower above

end

/-- Why a JSON value makes no struct. -/
inductive ScopeError where
  | notARecord (kind : Json.Kind)
  deriving DecidableEq, Repr

/-- The message for an error. -/
def ScopeError.message : ScopeError → String
  | notARecord kind => "expected a record or map, got " ++ kind.name

/-- The struct of a JSON object. -/
def Struct.ofJson : Json → Except ScopeError Struct
  | .object members => .ok (Struct.ofMembers members)
  | json => .error (.notARecord json.kind)

/-- The note that a member of an object is left out. -/
def omission (name : String) (kind : Json.Kind) : LogEntry :=
  ⟨.debug, "omitting property " ++ Text.quoted name ++ " of unsupported kind " ++ kind.name⟩

mutual

/-- The notes on what is left out of a JSON value, in the order of names. -/
def Json.omissions : Json → List LogEntry
  | .object members => Json.memberOmissions members
  | .null | .boolean _ | .integer _ | .decimal .. | .string _ | .array _ => []

/-- The notes on what is left out of the members of an object. -/
def Json.memberOmissions {bound : Option String} : Bindings Json bound → List LogEntry
  | .nil => []
  | .cons name _ json rest =>
    (if (Value.ofJson? json).isNone then [omission name json.kind] else json.omissions) ++
      Json.memberOmissions rest

end

/-- The struct of some variables, each a text. The last value of a variable
counts. -/
def Struct.ofVariables (vars : List (String × String)) : Struct :=
  .ofList (vars.map fun (name, text) => (name, .string text))

/-- The variables whose name and value are texts. -/
def decodedVariables (vars : List (ByteArray × ByteArray)) : List (String × String) :=
  vars.filterMap fun (name, value) => do
    return (← String.fromUTF8? name, ← String.fromUTF8? value)

/-- The name of the property for a field of a host's record: its tag, or its own
name in lower case if it has none. -/
def propertyName (field : String) (tag : Option String) : String :=
  match tag.filter (!·.isEmpty) with
  | some tag => tag
  | none => Unicode.lowercase field

end StepCondition
