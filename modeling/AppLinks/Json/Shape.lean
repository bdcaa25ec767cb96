import AppLinks.Decimal.Shortest
import AppLinks.Json.Value
import AppLinks.Unicode.Property

/-!
Values that do not have the shape that is asked for, and texts in quotes as messages have them.
-/

namespace AppLinks.Text.Quoted

def hex (n : Nat) : List Char := Nat.toDigits 16 n

/-- Characters that cannot be seen by themselves: controls, blanks other than the space,
characters that are not assigned, and characters that extend the one before. -/
def isHidden (c : Char) : Bool :=
  Unicode.Property.graphemeExtend.holds c ||
    match Unicode.Category.of c with
    | .spaceSeparator => c ≠ ' '
    | k => Unicode.Category.other.contains k || k = .lineSeparator || k = .paragraphSeparator

def encodeChar (c : Char) : List Char :=
  match c with
  | '"' => ['\\', '"']
  | '\\' => ['\\', '\\']
  | '\n' => ['\\', 'n']
  | '\r' => ['\\', 'r']
  | '\t' => ['\\', 't']
  | '\x00' => ['\\', '0']
  | c => if isHidden c then ['\\', 'u', '\x7b'] ++ hex c.toNat ++ ['\x7d'] else [c]

def encode (s : List Char) : List Char := '"' :: s.flatMap encodeChar ++ ['"']

end AppLinks.Text.Quoted

def AppLinks.quoted (s : String) : String := String.ofList (Text.Quoted.encode s.toList)

namespace AppLinks.Json

inductive Expected where
  | boolean
  | string
  | routerConfig
  | settings
  deriving DecidableEq, Repr

def Expected.name : Expected → String
  | .boolean => "a boolean"
  | .string => "a string"
  | .routerConfig => "struct RouterConfig"
  | .settings => "struct Settings"

/-- How numbers are written in messages: with an exponent from the seventeenth digit before the
point and from the sixth zero after it on. -/
def Number.style : Decimal.Style where
  largest := 15
  smallest := -5
  plus := "+"

/-- A value as messages name it. -/
def Value.describe : Value → String
  | .null => "null"
  | .bool b => "boolean `" ++ (if b then "true" else "false") ++ "`"
  | .number (.int n) => "integer `" ++ toString n ++ "`"
  | .number (.fraction b) => "floating point `" ++ Number.style.render b ++ "`"
  | .string s => "string " ++ quoted s
  | .array _ => "sequence"
  | .object _ => "map"

inductive ShapeError where
  | type (found : Value) (expected : Expected)
  /-- An array of `n` items has more of them than there are fields. -/
  | tooMany (n : Nat)
  deriving Repr

def ShapeError.message : ShapeError → String
  | .type found expected => "invalid type: " ++ found.describe ++ ", expected " ++ expected.name
  | .tooMany n => "invalid length " ++ toString n ++ ", expected fewer elements in array"

def Value.asBool : Value → Except ShapeError Bool
  | .bool b => .ok b
  | v => .error (.type v .boolean)

def Value.asString : Value → Except ShapeError String
  | .string s => .ok s
  | v => .error (.type v .string)

/-- The value of a string that may be missing; null stands for none. -/
def Value.asOptionalString : Value → Except ShapeError (Option String)
  | .null => .ok none
  | .string s => .ok (some s)
  | v => .error (.type v .string)

/-- Reads a record whose fields are set one by one. The fields of an object come in the order of
their names; the items of an array belong to the names in `names`, and missing ones leave `start`
as it is. -/
def Value.readRecord {α : Type} (expected : Expected) (names : List String)
    (set : α → String → Value → Except ShapeError α) (start : α) : Value → Except ShapeError α
  | .object fields => fields.foldlM (fun r (name, v) => set r name v) start
  | .array items => do
    let r ← (names.zip items).foldlM (fun r (name, v) => set r name v) start
    if names.length < items.length then throw (.tooMany items.length)
    return r
  | v => .error (.type v expected)

end AppLinks.Json
