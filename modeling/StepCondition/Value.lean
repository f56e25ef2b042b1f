import StepCondition.Pattern
import StepCondition.Record
import StepCondition.Text.Plain
import StepCondition.Text.Quoted

/-!
# Values

What a condition works on and yields. A failure is a value too, so that it can take
the place of a result.

Values are compared kind by kind (`Value.same`): arrays item by item, structs by the
names they bind, regular expressions by their text and functions by their identity. The
comparison does not look at what a regular expression matches, which its text alone does
not tell.
-/

namespace StepCondition

/-- A function of the host, known to a condition by its identity alone. -/
structure Function where
  name : String
  tag : String := ""
  deriving DecidableEq, Repr

/-- A value of a condition. -/
inductive Value where
  | null
  | boolean (value : Bool)
  | integer (value : Int64)
  | string (text : String)
  | regexp (pattern : Pattern)
  | array (items : List Value)
  | struct (fields : Bindings Value none)
  | function (function : Function)
  | error (message : String)
  deriving Inhabited

/-- Named values: what a struct holds, and what a condition is evaluated in. -/
abbrev Struct := Record Value

/-- The kinds of values. -/
inductive Kind where
  | null
  | boolean
  | integer
  | string
  | regexp
  | array
  | struct
  | function
  | error
  deriving DecidableEq, Repr

/-- A kind as messages name it. -/
def Kind.name : Kind → String
  | null => "NULL"
  | boolean => "BOOLEAN"
  | integer => "INTEGER"
  | string => "STRING"
  | regexp => "REGEXP"
  | array => "ARRAY"
  | struct => "STRUCT"
  | function => "FUNCTION"
  | error => "ERROR"

namespace Value

/-- The kind of a value. -/
def kind : Value → Kind
  | null => .null
  | boolean _ => .boolean
  | integer _ => .integer
  | string _ => .string
  | regexp _ => .regexp
  | array _ => .array
  | struct _ => .struct
  | function _ => .function
  | error _ => .error

/-- Whether a value counts as true: all do but null and false. -/
def isTruthy : Value → Bool
  | null | boolean false => false
  | _ => true

/-- Whether a value is a failure. -/
def isError : Value → Bool
  | error _ => true
  | _ => false

/-- The truth value, of a value that is one. -/
def asBoolean? : Value → Option Bool
  | boolean b => some b
  | _ => none

/-- The integer, of a value that is one. -/
def asInteger? : Value → Option Int64
  | integer n => some n
  | _ => none

/-- The text, of a value that is one. -/
def asString? : Value → Option String
  | string s => some s
  | _ => none

/-! ## Text -/

mutual

/-- A value as it is shown. -/
def display : Value → String
  | null => "null"
  | boolean b => String.ofList (Text.truth b)
  | integer n => String.ofList (Text.decimal n.toInt)
  | string s => Text.quoted s
  | regexp p => "/" ++ p.source ++ "/"
  | array items => "[" ++ ", ".intercalate (displayItems items) ++ "]"
  | struct fields => "\x7b" ++ ", ".intercalate (displayFields fields) ++ "\x7d"
  | function _ => "function"
  | error message => "ERROR: " ++ message

/-- Values as they are shown. -/
def displayItems : List Value → List String
  | [] => []
  | v :: vs => v.display :: displayItems vs

/-- Bindings as they are shown. -/
def displayFields {bound : Option String} : Bindings Value bound → List String
  | .nil => []
  | .cons name _ value rest => (name ++ ": " ++ value.display) :: displayFields rest

end

/-! ## Equality -/

mutual

/-- Whether two values are the same. -/
def same : Value → Value → Bool
  | null, null => true
  | boolean a, boolean b => a == b
  | integer m, integer n => m == n
  | string s, string t => s == t
  | regexp p, regexp q => p.source == q.source
  | array vs, array ws => sameItems vs ws
  | struct r, struct s => sameFields r s
  | function f, function g => f == g
  | error m, error n => m == n
  | _, _ => false

/-- Whether two lists hold the same values. -/
def sameItems : List Value → List Value → Bool
  | [], [] => true
  | v :: vs, w :: ws => v.same w && sameItems vs ws
  | _, _ => false

/-- Whether bindings bind the same names to the same values. -/
def sameFields {b c : Option String} : Bindings Value b → Bindings Value c → Bool
  | .nil, .nil => true
  | .cons m _ v r, .cons n _ w s => m == n && v.same w && sameFields r s
  | _, _ => false

end

mutual

theorem same_self : ∀ v : Value, v.same v = true
  | null => rfl
  | boolean _ | integer _ | string _ | regexp _ | function _ | error _ => by simp [same]
  | array vs => by simp [same, sameItems_self vs]
  | struct r => by simp [same, sameFields_self r]

theorem sameItems_self : ∀ vs : List Value, sameItems vs vs = true
  | [] => rfl
  | v :: vs => by simp [sameItems, same_self v, sameItems_self vs]

theorem sameFields_self {b : Option String} : ∀ r : Bindings Value b, sameFields r r = true
  | .nil => rfl
  | .cons _ _ v r => by simp [sameFields, same_self v, sameFields_self r]

end

end Value

/-- A struct as it is shown. -/
def Struct.display (s : Struct) : String := (Value.struct s).display

end StepCondition
