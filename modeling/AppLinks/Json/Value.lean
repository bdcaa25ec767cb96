import AppLinks.Decimal.Binary64

/-!
JSON values.

The fields of an object are kept in the order of their names and no name comes twice, so two
objects with the same fields are equal.
-/

namespace AppLinks.Json

/-- Numbers: whole ones of 64 bits, and binary fractions. -/
inductive Number where
  | int (n : Int)
  | fraction (b : Decimal.Binary64)
  deriving DecidableEq, Repr

inductive Value where
  | null
  | bool (b : Bool)
  | number (n : Number)
  | string (s : String)
  | array (items : List Value)
  | object (fields : List (String × Value))
  deriving Repr

namespace Value

/-- Fields by name, in the order of the names. -/
abbrev Fields := List (String × Value)

def setField (k : String) (v : Value) : Fields → Fields
  | [] => [(k, v)]
  | (a, b) :: r =>
    if k = a then (k, v) :: r
    else if k < a then (k, v) :: (a, b) :: r
    else (a, b) :: setField k v r

/-- The object of fields in any order; the last field of a name wins. -/
def ofFields (fields : Fields) : Value :=
  .object (fields.foldl (fun fs kv => setField kv.1 kv.2 fs) [])

mutual

/-- One value laid over another: objects field by field, and anything else in place of what is
below it. -/
def overlay (base : Value) : Value → Value
  | .object fields => match base with
    | .object below => .object (overlayFields below fields)
    | _ => .object fields
  | v => v

def overlayFields (below : Fields) : Fields → Fields
  | [] => below
  | (k, v) :: r =>
    let merged := match below.lookup k with
      | some b => overlay b v
      | none => v
    overlayFields (setField k merged below) r

end

end Value

end AppLinks.Json
