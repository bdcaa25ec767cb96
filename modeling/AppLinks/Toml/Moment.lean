import AppLinks.Toml.Number

/-!
Dates and times.

They are written back in one form: `T` between date and time, `Z` for the zone of Greenwich if it
was given by its letter, and no more than nine digits of a second, without zeros at their end.

A table may stand in the place of a date or time, if its first key is the one that is kept for this.
-/

namespace AppLinks.Toml

/-- Reads a number of a fixed count of digits, within bounds. -/
def readField (digits low high : Nat) (s : List Char) : Option (List Char × List Char) :=
  let ds := s.take digits
  let n := digitsValue 10 ds
  if ds.length = digits && ds.all Char.isDigit && low ≤ n && n ≤ high then some (ds, s.drop digits)
  else none

def expect? (c : Char) : List Char → Option (List Char)
  | d :: r => if c = d then some r else none
  | [] => none

def isLeapYear (y : Nat) : Bool := y % 4 = 0 && (y % 100 ≠ 0 || y % 400 = 0)

def daysOfMonth (year month : Nat) : Nat :=
  if month = 2 then if isLeapYear year then 29 else 28
  else if month ∈ [4, 6, 9, 11] then 30
  else 31

def readDate (s : List Char) : Option (List Char × List Char) := do
  let (year, s) ← readField 4 0 9999 s
  let s ← expect? '-' s
  let (month, s) ← readField 2 1 12 s
  let s ← expect? '-' s
  let (day, s) ← readField 2 1 (daysOfMonth (digitsValue 10 year) (digitsValue 10 month)) s
  return (year ++ '-' :: month ++ '-' :: day, s)

def dropZeros (ds : List Char) : List Char := (ds.reverse.dropWhile (· = '0')).reverse

def readSplit : List Char → Option (List Char × List Char)
  | '.' :: r =>
    let ds := r.takeWhile Char.isDigit
    let kept := dropZeros (ds.take 9)
    if ds.isEmpty then none
    else some (if kept.isEmpty then [] else '.' :: kept, r.drop ds.length)
  | s => some ([], s)

/-- Reads a time. A minute may have a leap second. -/
def readTime (s : List Char) : Option (List Char × List Char) := do
  let (hour, s) ← readField 2 0 23 s
  let s ← expect? ':' s
  let (minute, s) ← readField 2 0 59 s
  let s ← expect? ':' s
  let (second, s) ← readField 2 0 60 s
  let (split, s) ← readSplit s
  return (hour ++ ':' :: minute ++ ':' :: second ++ split, s)

/-- Reads how far a zone is from that of Greenwich, if that is given. No distance is written with
a plus. -/
def readZone : List Char → Option (List Char × List Char)
  | 'Z' :: r | 'z' :: r => some (['Z'], r)
  | '+' :: r => distance '+' r
  | '-' :: r => distance '-' r
  | s => some ([], s)
where
  distance (sign : Char) (s : List Char) : Option (List Char × List Char) := do
    let (hours, s) ← readField 2 0 23 s
    let s ← expect? ':' s
    let (minutes, s) ← readField 2 0 59 s
    let sign := if (hours ++ minutes).all (· = '0') then '+' else sign
    return (sign :: hours ++ ':' :: minutes, s)

def readAfterDate (s : List Char) : Option (List Char × List Char) := do
  let (time, s) ← readTime s
  let (zone, s) ← readZone s
  return ('T' :: time ++ zone, s)

/-- Reads a date, a time, or both with one of `T`, `t` and a blank between them. -/
def readMoment (s : List Char) : Option (Value × List Char) := do
  let moment (text : List Char) : Value := .moment (String.ofList text)
  if s[2]? = some ':' then
    let (time, r) ← readTime s
    return (moment time, r)
  else
    let (date, r) ← readDate s
    match r with
    | c :: t =>
      if c = 'T' || c = 't' || c = ' ' then
        match readAfterDate t with
        | some (time, t) => return (moment (date ++ time), t)
        | none => return (moment date, r)
      else return (moment date, r)
    | [] => return (moment date, r)

def beginsMoment (s : List Char) : Bool :=
  ((s.take 4).all Char.isDigit && s[4]? = some '-') ||
    ((s.take 2).all Char.isDigit && s[2]? = some ':')

/-! ### Tables in the place of moments -/

/-- The key of a moment in a table that stands for it. -/
def momentKey : String := "$__toml_private_datetime"

/-- The moment for which the fields of a table stand: that of the first one, which has to be a
string that writes it. The fields after it do not count. -/
def momentOfFields : List (String × Value) → Option Value
  | (_, .string t) :: _ =>
    match readMoment t.toList with
    | some (v, []) => some v
    | _ => none
  | _ => none

namespace Value

mutual

/-- A value with moments in place of the tables that stand for one. -/
def withMoments : Value → Option Value
  | .array items => return .array (← itemsWithMoments items)
  | .table fields =>
    if fields.head?.any (·.1 = momentKey) then momentOfFields fields
    else return .table (← fieldsWithMoments fields)
  | v => some v

def itemsWithMoments : List Value → Option (List Value)
  | [] => some []
  | v :: vs => return (← v.withMoments) :: (← itemsWithMoments vs)

def fieldsWithMoments : List (String × Value) → Option (List (String × Value))
  | [] => some []
  | (k, v) :: r => return (k, ← v.withMoments) :: (← fieldsWithMoments r)

end

end Value

end AppLinks.Toml
