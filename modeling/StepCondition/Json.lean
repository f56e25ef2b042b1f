import StepCondition.Record

/-!
# JSON

A JSON value. An object binds each name once. A number is an integer if it is
written as one and fits 64 bits, with a sign or without; any other number is a
decimal.
-/

namespace StepCondition

/-- A JSON value. -/
inductive Json where
  | null
  | boolean (value : Bool)
  | integer (value : Int)
  /-- The number `mantissa` times ten to the power `exponent`. -/
  | decimal (mantissa exponent : Int)
  | string (text : String)
  | array (items : List Json)
  | object (members : Bindings Json none)
  deriving Inhabited

namespace Json

/-- The kinds of JSON values. -/
inductive Kind where
  | null
  | boolean
  | number
  | string
  | array
  | object
  deriving DecidableEq, Repr

/-- A kind as messages name it. -/
def Kind.name : Kind → String
  | null => "null"
  | boolean => "boolean"
  | number => "number"
  | string => "string"
  | array => "array"
  | object => "object"

/-- The kind of a value. -/
def kind : Json → Kind
  | null => .null
  | boolean _ => .boolean
  | integer _ | decimal .. => .number
  | string _ => .string
  | array _ => .array
  | object _ => .object

end Json

end StepCondition
