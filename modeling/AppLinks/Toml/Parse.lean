import AppLinks.Toml.Moment
import AppLinks.Toml.Table
import AppLinks.Toml.Text

/-!
Reading documents.
-/

namespace AppLinks.Toml

/-- How many levels of arrays and tables in braces there may be. -/
def nestingLimit : Nat := 79

def expectWord (word : List Char) (v : Value) (s : List Char) : Option (Value × List Char) :=
  if word.isPrefixOf s then some (v, s.drop word.length) else none

/-- Reads the items of an array up to its bracket. A comma may stand after the last one. The fuel
bounds their number. -/
def readItems (item : List Char → Option (Value × List Char)) :
    Nat → List Char → Option (List Value × List Char)
  | 0, _ => none
  | fuel + 1, s => match skipLines s.length s with
    | ']' :: r => some ([], r)
    | s => do
      let (v, s) ← item s
      match skipLines s.length s with
      | ']' :: r => return ([v], r)
      | ',' :: r =>
        let (vs, r) ← readItems item fuel r
        return (v :: vs, r)
      | _ => none

def readPair (item : List Char → Option (Value × List Char)) (s : List Char) :
    Option ((List String × Value) × List Char) := do
  let (path, s) ← readKey s
  let s ← expect? '=' s
  let (v, s) ← item (skipBlanks s)
  return ((path, v), s)

/-- Reads the fields of a table in braces; there is at least one. The fuel bounds their number. -/
def readPairs (item : List Char → Option (Value × List Char)) :
    Nat → List Char → Option (List (List String × Value) × List Char)
  | 0, _ => none
  | fuel + 1, s => do
    let (p, s) ← readPair item s
    match skipBlanks s with
    | '\x7d' :: r => return ([p], r)
    | ',' :: r =>
      let (ps, r) ← readPairs item fuel r
      return (p :: ps, r)
    | _ => none

def readValue (depth : Nat) (s : List Char) : Option (Value × List Char) :=
  match s with
  | '"' :: _ => do
    let (t, r) ← readString '"' s
    return (.string t, r)
  | '\'' :: _ => do
    let (t, r) ← readString '\'' s
    return (.string t, r)
  | '[' :: r => match depth with
    | 0 => none
    | d + 1 => do
      let (vs, r) ← readItems (readValue d) s.length r
      return (.array vs, r)
  | '\x7b' :: r => match depth with
    | 0 => none
    | d + 1 => match skipBlanks r with
      | '\x7d' :: r => some (.table [], r)
      | r => do
        let (ps, r) ← readPairs (readValue d) s.length r
        return (← ofPairs ps, r)
  | 't' :: _ => expectWord "true".toList (.boolean true) s
  | 'f' :: _ => expectWord "false".toList (.boolean false) s
  | _ => if beginsMoment s then readMoment s else readNumber s

def readHeader (make : List String → Statement) (close : List Char) (s : List Char) :
    Option (Statement × List Char) := do
  let (path, s) ← readKey s
  if close.isPrefixOf s then some (make path, s.drop close.length) else none

def readStatement (s : List Char) : Option (Statement × List Char) :=
  match s with
  | '[' :: '[' :: r => readHeader .item [']', ']'] r
  | '[' :: r => readHeader .header [']'] r
  | s => do
    let ((path, v), s) ← readPair (readValue nestingLimit) s
    return (.field path v, s)

def readStatements : Nat → List Char → Option (List Statement)
  | 0, _ => none
  | fuel + 1, s => match skipLines s.length s with
    | [] => some []
    | s => do
      let (statement, s) ← readStatement s
      return statement :: (← readStatements fuel (← endLine s))

def dropMark : List Char → List Char
  | '\uFEFF' :: r => r
  | s => s

/-- The value that a text describes: a table, or a moment if the text is all of a table that stands
for one. -/
def parse (text : String) : Option Value := do
  let s := foldLines (dropMark text.toList)
  let v ← ofStatements (← readStatements (s.length + 1) s)
  v.withMoments

end AppLinks.Toml
