import AppLinks.Json.Value
import AppLinks.Text.Percent

/-!
Reading JSON.

Every reader takes the text that is left and gives a value with the text after it. Arrays and
objects may be nested up to a limit, which is also what the reading of nested values recurs on.
-/

namespace AppLinks.Json

inductive SyntaxError where
  | endOfText
  | unexpected (c : Char)
  | number
  | numberOutOfRange
  | escape
  | control
  | tooDeep
  | trailing
  deriving DecidableEq, Repr

def SyntaxError.message : SyntaxError → String
  | .endOfText => "EOF while parsing a value"
  | .unexpected _ => "expected value"
  | .number => "invalid number"
  | .numberOutOfRange => "number out of range"
  | .escape => "invalid escape"
  | .control => "control character found while parsing a string"
  | .tooDeep => "recursion limit exceeded"
  | .trailing => "trailing characters"

/-- How deeply arrays and objects may be nested. -/
def nestingLimit : Nat := 127

def isBlank (c : Char) : Bool := c = ' ' || c = '\t' || c = '\n' || c = '\r'

def skip (s : List Char) : List Char := s.dropWhile isBlank

/-- The error at a place where something else should stand. -/
def misplaced {α : Type} : List Char → Except SyntaxError α
  | [] => .error .endOfText
  | c :: _ => .error (.unexpected c)

/-! ### Numbers -/

def maxWhole : Nat := 0xFFFFFFFFFFFFFFFF

/-- The powers of ten that are divided or multiplied by at once go up to this one. -/
def greatestPower : Nat := 308

/-- `n · 10 ^ e` in steps of at most the greatest power, each of which rounds; `none` if it
leaves the range. The fuel is the number of steps. -/
def scale : Nat → Decimal.Binary64 → Int → Option Decimal.Binary64
  | 0, _, _ => none
  | fuel + 1, b, e =>
    if e.natAbs ≤ greatestPower then
      let power := Decimal.Binary64.ofScientific 1 false e.natAbs
      if 0 ≤ e then
        let r := b.mul power
        if r.isFinite then some r else none
      else some (b.div power)
    else if b = 0 then some b
    else if 0 ≤ e then none
    else
      scale fuel (b.div (Decimal.Binary64.ofScientific 1 false greatestPower)) (e + greatestPower)

def fraction (negative : Bool) (n : Nat) (e : Int) : Except SyntaxError Number :=
  match scale (e.natAbs / greatestPower + 1) (Decimal.Binary64.ofNat n) e with
  | some b => .ok (.fraction (if negative then b.negate else b))
  | none => .error .numberOutOfRange

/-- The whole number of digits `n`, or a fraction if it has more than 64 bits. Minus zero is a
fraction. -/
def whole (negative : Bool) (n : Nat) : Number :=
  if negative then
    if n = 0 || 0x8000000000000000 < n then .fraction (Decimal.Binary64.ofNat n).negate
    else .int (-n)
  else .int n

/-- Digits collected into a number as long as it does not pass the greatest whole one, and how
many digits came after that. -/
structure Digits where
  value : Nat
  taken : Nat := 0
  dropped : Nat := 0

def Digits.push (d : Digits) (c : Char) : Digits :=
  let n := d.value * 10 + (c.toNat - 48)
  if d.dropped = 0 && n ≤ maxWhole then { d with value := n, taken := d.taken + 1 }
  else { d with dropped := d.dropped + 1 }

def readExponent (negative : Bool) (n : Nat) (e : Int) (s : List Char) :
    Except SyntaxError (Number × List Char) :=
  let (minus, s) := match s with
    | '+' :: r => (false, r)
    | '-' :: r => (true, r)
    | r => (false, r)
  let ds := s.takeWhile (·.isDigit)
  let rest := s.drop ds.length
  if ds.isEmpty then .error .number
  else
    let x : Nat := ds.foldl (fun x c => x * 10 + (c.toNat - 48)) 0
    if x < 0x80000000 then do
      return (← fraction negative n (if minus then e - x else e + x), rest)
    else if n = 0 || minus then
      .ok (.fraction (if negative then (0 : Decimal.Binary64).negate else 0), rest)
    else .error .numberOutOfRange

/-- Reads what may follow the digits before the point. -/
def readFraction (negative : Bool) (d : Digits) (s : List Char) :
    Except SyntaxError (Number × List Char) :=
  match s with
  | '.' :: r =>
    let ds := r.takeWhile (·.isDigit)
    let rest := r.drop ds.length
    if ds.isEmpty then .error .number
    else
      let after := ds.foldl Digits.push { value := d.value }
      let e : Int := (d.dropped : Int) - after.taken
      match rest with
      | 'e' :: x | 'E' :: x => readExponent negative after.value e x
      | _ => do return (← fraction negative after.value e, rest)
  | 'e' :: x | 'E' :: x => readExponent negative d.value d.dropped x
  | _ =>
    if d.dropped = 0 then .ok (whole negative d.value, s)
    else do return (← fraction negative d.value d.dropped, s)

def readNumber (s : List Char) : Except SyntaxError (Number × List Char) :=
  let (negative, s) := match s with
    | '-' :: r => (true, r)
    | r => (false, r)
  let ds := s.takeWhile (·.isDigit)
  if ds.isEmpty || (1 < ds.length && ds.head? = some '0') then .error .number
  else readFraction negative (ds.foldl Digits.push { value := 0 }) (s.drop ds.length)

/-! ### Strings -/

def readHex : List Char → Except SyntaxError (Nat × List Char)
  | a :: b :: c :: d :: r => match [a, b, c, d].mapM Text.Percent.hexValue? with
    | some ds => .ok (ds.foldl (fun n x => n * 16 + x) 0, r)
    | none => .error .escape
  | _ => .error .endOfText

/-- Reads an escape after its backslash. Two escapes together write a character for which four
digits are too few. -/
def readEscape (s : List Char) : Except SyntaxError (Char × List Char) :=
  match s with
  | '"' :: r => .ok ('"', r)
  | '\\' :: r => .ok ('\\', r)
  | '/' :: r => .ok ('/', r)
  | 'b' :: r => .ok ('\x08', r)
  | 'f' :: r => .ok ('\x0c', r)
  | 'n' :: r => .ok ('\n', r)
  | 'r' :: r => .ok ('\r', r)
  | 't' :: r => .ok ('\t', r)
  | 'u' :: r => do
    let (n, r) ← readHex r
    -- the first half of a character, which the second half has to follow
    if 0xD800 ≤ n ∧ n < 0xDC00 then
      match r with
      | '\\' :: 'u' :: r =>
        let (m, r) ← readHex r
        if 0xDC00 ≤ m ∧ m < 0xE000 then
          return (Char.ofNat (0x10000 + (n - 0xD800) * 0x400 + (m - 0xDC00)), r)
        else throw .escape
      | _ => throw .escape
    else if 0xDC00 ≤ n ∧ n < 0xE000 then throw .escape
    else return (Char.ofNat n, r)
  | [] => .error .endOfText
  | _ => .error .escape

/-- Reads a string after its opening quote; `done` is what was read of it, the last first. The
fuel is the length of the text. -/
def readString : Nat → List Char → List Char → Except SyntaxError (String × List Char)
  | 0, _, _ => .error .endOfText
  | fuel + 1, done, s => match s with
    | [] => .error .endOfText
    | '"' :: r => .ok (String.ofList done.reverse, r)
    | '\\' :: r => do
      let (c, r) ← readEscape r
      readString fuel (c :: done) r
    | c :: r => if c.toNat < 0x20 then .error .control else readString fuel (c :: done) r

def readText (s : List Char) : Except SyntaxError (String × List Char) :=
  match s with
  | '"' :: r => readString (r.length + 1) [] r
  | s => misplaced s

/-! ### Values -/

def expectWord (word : List Char) (v : Value) (s : List Char) :
    Except SyntaxError (Value × List Char) :=
  if word.isPrefixOf s then .ok (v, s.drop word.length) else misplaced s

/-- Reads items with commas between them up to a bracket; there is at least one. The fuel bounds
their number. -/
def readItems (item : List Char → Except SyntaxError (Value × List Char)) :
    Nat → List Char → Except SyntaxError (List Value × List Char)
  | 0, _ => .error .endOfText
  | fuel + 1, s => do
    let (v, s) ← item (skip s)
    match skip s with
    | ']' :: r => return ([v], r)
    | ',' :: r =>
      let (vs, r) ← readItems item fuel r
      return (v :: vs, r)
    | s => misplaced s

/-- Reads fields with commas between them up to a brace; there is at least one. The fuel bounds
their number. -/
def readFields (item : List Char → Except SyntaxError (Value × List Char)) :
    Nat → List Char → Except SyntaxError (Value.Fields × List Char)
  | 0, _ => .error .endOfText
  | fuel + 1, s => do
    let (k, s) ← readText (skip s)
    match skip s with
    | ':' :: r =>
      let (v, s) ← item (skip r)
      match skip s with
      | '\x7d' :: r => return ([(k, v)], r)
      | ',' :: r =>
        let (vs, r) ← readFields item fuel r
        return ((k, v) :: vs, r)
      | s => misplaced s
    | s => misplaced s

/-- Reads a value that may hold `depth` more levels of arrays and objects. -/
def readValue (depth : Nat) (s : List Char) : Except SyntaxError (Value × List Char) :=
  match s with
  | 'n' :: _ => expectWord "null".toList .null s
  | 't' :: _ => expectWord "true".toList (.bool true) s
  | 'f' :: _ => expectWord "false".toList (.bool false) s
  | '"' :: _ => do
    let (t, r) ← readText s
    return (.string t, r)
  | '[' :: r => match depth with
    | 0 => .error .tooDeep
    | d + 1 => match skip r with
      | ']' :: r => .ok (.array [], r)
      | r => do
        let (vs, r) ← readItems (readValue d) r.length r
        return (.array vs, r)
  | '\x7b' :: r => match depth with
    | 0 => .error .tooDeep
    | d + 1 => match skip r with
      | '\x7d' :: r => .ok (.object [], r)
      | r => do
        let (fs, r) ← readFields (readValue d) r.length r
        return (Value.ofFields fs, r)
  | c :: _ =>
    if c = '-' || c.isDigit then do
      let (n, r) ← readNumber s
      return (.number n, r)
    else .error (.unexpected c)
  | [] => .error .endOfText

def parse (text : String) : Except SyntaxError Value := do
  let (v, r) ← readValue nestingLimit (skip text.toList)
  if (skip r).isEmpty then return v else throw .trailing

end AppLinks.Json
