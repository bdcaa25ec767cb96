import AppLinks.Json.Value

/-!
TOML values, and the JSON values that say the same.

Dates and times are kept as their text in one form. Floating-point values that are not numbers
have nothing that says the same in JSON and become null.
-/

namespace AppLinks.Toml

inductive Value where
  | string (s : String)
  | integer (n : Int)
  | float (b : Decimal.Binary64)
  | boolean (b : Bool)
  /-- A date, a time, or both. -/
  | moment (text : String)
  | array (items : List Value)
  | table (fields : List (String × Value))
  deriving Repr

namespace Value

mutual

def toJson : Value → Json.Value
  | .string s => .string s
  | .integer n => .number (.int n)
  | .float b => if b.isFinite then .number (.fraction b) else .null
  | .boolean b => .bool b
  | .moment text => .string text
  | .array items => .array (itemsToJson items)
  | .table fields => .ofFields (fieldsToJson fields)

def itemsToJson : List Value → List Json.Value
  | [] => []
  | v :: vs => v.toJson :: itemsToJson vs

def fieldsToJson : List (String × Value) → List (String × Json.Value)
  | [] => []
  | (k, v) :: r => (k, v.toJson) :: fieldsToJson r

end

end Value

end AppLinks.Toml
