import AppLinks.Text.Percent

/-!
Strings and keys.

The text is read with every line end as one line feed. No other control character than the
tabulator may stand in a string or in a comment.
-/

namespace AppLinks.Toml

/-- A text with a line feed for each carriage return and line feed. -/
def foldLines : List Char → List Char
  | '\r' :: '\n' :: r => '\n' :: foldLines r
  | c :: r => c :: foldLines r
  | [] => []

def isBlank (c : Char) : Bool := c = ' ' || c = '\t'

def skipBlanks (s : List Char) : List Char := s.dropWhile isBlank

def isPlain (c : Char) : Bool := c = '\t' || (0x20 ≤ c.toNat && c.toNat != 0x7F)

def skipComment : List Char → List Char
  | '#' :: r => r.dropWhile isPlain
  | s => s

def endLine (s : List Char) : Option (List Char) :=
  match skipComment (skipBlanks s) with
  | [] => some []
  | '\n' :: r => some r
  | _ => none

/-- The text after blanks, line ends and comments. The fuel bounds the number of lines. -/
def skipLines : Nat → List Char → List Char
  | 0, s => s
  | fuel + 1, s => match skipComment (skipBlanks s) with
    | '\n' :: r => skipLines fuel r
    | r => r

/-! ### Strings -/

def readCode (digits : Nat) (s : List Char) : Option (Char × List Char) := do
  let ds ← (s.take digits).mapM Text.Percent.hexValue?
  if ds.length < digits then none
  else
    let n : Nat := ds.foldl (fun n d => n * 16 + d) 0
    if n.isValidChar then some (Char.ofNat n, s.drop digits) else none

def readEscape : List Char → Option (Char × List Char)
  | 'b' :: r => some ('\x08', r)
  | 't' :: r => some ('\t', r)
  | 'n' :: r => some ('\n', r)
  | 'f' :: r => some ('\x0c', r)
  | 'r' :: r => some ('\r', r)
  | '"' :: r => some ('"', r)
  | '\\' :: r => some ('\\', r)
  | 'u' :: r => readCode 4 r
  | 'U' :: r => readCode 8 r
  | _ => none

/-- Reads a string of one line after its opening quote; with escapes if `escapes`. `done` is what
was read of it, the last first, and the fuel is the length of the text. -/
def readLine (quote : Char) (escapes : Bool) : Nat → List Char → List Char →
    Option (String × List Char)
  | 0, _, _ => none
  | fuel + 1, done, s => match s with
    | [] => none
    | c :: r =>
      if c = quote then some (String.ofList done.reverse, r)
      else if c = '\\' && escapes then do
        let (d, r) ← readEscape r
        readLine quote escapes fuel (d :: done) r
      else if isPlain c then readLine quote escapes fuel (c :: done) r
      else none

/-- The text after a line end that was escaped, and after all blanks and line ends that follow. -/
def foldedLine? (s : List Char) : Option (List Char) :=
  match skipBlanks s with
  | '\n' :: r => some (r.dropWhile fun c => isBlank c || c = '\n')
  | _ => none

/-- Reads a string of several lines after its opening quotes. Three quotes end it; up to two more
before them belong to it. -/
def readBlock (quote : Char) (escapes : Bool) : Nat → List Char → List Char →
    Option (String × List Char)
  | 0, _, _ => none
  | fuel + 1, done, s => match s with
    | [] => none
    | c :: r =>
      if c = quote then
        let n := (s.takeWhile (· = quote)).length
        if n < 3 then readBlock quote escapes fuel (c :: done) r
        else if n ≤ 5 then
          some (String.ofList (done.reverse ++ List.replicate (n - 3) quote), s.drop n)
        else none
      else if c = '\\' && escapes then
        match foldedLine? r with
        | some r => readBlock quote escapes fuel done r
        | none => do
          let (d, r) ← readEscape r
          readBlock quote escapes fuel (d :: done) r
      else if isPlain c || c = '\n' then readBlock quote escapes fuel (c :: done) r
      else none

def dropLineEnd : List Char → List Char
  | '\n' :: r => r
  | s => s

def readString (quote : Char) (s : List Char) : Option (String × List Char) :=
  let escapes := quote = '"'
  if [quote, quote, quote].isPrefixOf s then
    readBlock quote escapes s.length [] (dropLineEnd (s.drop 3))
  else readLine quote escapes s.length [] (s.drop 1)

/-! ### Keys -/

def isBare (c : Char) : Bool := c.isAlphanum || c = '_' || c = '-'

def readKeyPart (s : List Char) : Option (String × List Char) :=
  match s with
  | '"' :: r => readLine '"' true s.length [] r
  | '\'' :: r => readLine '\'' false s.length [] r
  | s =>
    let name := s.takeWhile isBare
    if name.isEmpty then none else some (String.ofList name, s.dropWhile isBare)

/-- How many parts a key has fewer than. -/
def keyLimit : Nat := 80

def readParts : Nat → List Char → Option (List String × List Char)
  | 0, _ => none
  | fuel + 1, s => do
    let (part, s) ← readKeyPart (skipBlanks s)
    match skipBlanks s with
    | '.' :: r =>
      let (parts, r) ← readParts fuel r
      some (part :: parts, r)
    | r => some ([part], r)

def readKey (s : List Char) : Option (List String × List Char) := readParts (keyLimit - 1) s

end AppLinks.Toml
