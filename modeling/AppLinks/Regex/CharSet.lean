import AppLinks.Unicode.CaseFold
import AppLinks.Unicode.Property
import AppLinks.Unicode.Script

/-!
Sets of characters, as expressions name them.

A set is its membership test. The sets come from single characters, ranges, the classes `\d`,
`\s` and `\w`, the bracket names such as `[:alpha:]`, and the properties behind `\p`.
-/

namespace AppLinks.Regex

abbrev CharSet := Char → Bool

namespace CharSet

def nothing : CharSet := fun _ => false

def single (a : Char) : CharSet := fun c => c == a

def range (a b : Char) : CharSet := fun c => a.toNat ≤ c.toNat && c.toNat ≤ b.toNat

def union (s t : CharSet) : CharSet := fun c => s c || t c

def inter (s t : CharSet) : CharSet := fun c => s c && t c

def diff (s t : CharSet) : CharSet := fun c => s c && !t c

def symmDiff (s t : CharSet) : CharSet := fun c => s c != t c

def compl (s : CharSet) : CharSet := fun c => !s c

def negateIf (negated : Bool) (s : CharSet) : CharSet := if negated then s.compl else s

/-- What is the same as a member but for case. -/
def foldCase (s : CharSet) : CharSet := fun c => (Unicode.CaseFold.orbit c).any s

/-- What is the same as a member but for the case of an ASCII letter. -/
def foldCaseAscii (s : CharSet) : CharSet := fun c => s c || s c.toLower || s c.toUpper

/-! ### The classes that are written with one letter -/

/-- The classes `\d`, `\s` and `\w`. -/
inductive Shorthand where
  | digit
  | space
  | word
  deriving DecidableEq, Repr

def Shorthand.ascii : Shorthand → CharSet
  | .digit => fun c => c.isDigit
  | .space => fun c => c = ' ' || (9 ≤ c.toNat && c.toNat ≤ 13)
  | .word => fun c => c.isAlphanum || c = '_'

def Shorthand.full : Shorthand → CharSet
  | .digit => fun c => Unicode.Category.of c == .decimalNumber
  | .space => Unicode.Property.isBlank
  | .word => Unicode.Property.isWord

/-! ### The classes with a name in brackets -/

def bracketNames : List (String × CharSet) :=
  [("alnum", (·.isAlphanum)),
   ("alpha", (·.isAlpha)),
   ("ascii", range '\x00' '\x7f'),
   ("blank", fun c => c = ' ' || c = '\t'),
   ("cntrl", fun c => c.toNat < 0x20 || c = '\x7f'),
   ("digit", (·.isDigit)),
   ("graph", range '!' '~'),
   ("lower", range 'a' 'z'),
   ("print", range ' ' '~'),
   ("punct", fun c => range '!' '~' c && !c.isAlphanum),
   ("space", Shorthand.space.ascii),
   ("upper", range 'A' 'Z'),
   ("word", Shorthand.word.ascii),
   ("xdigit", fun c => c.isDigit || range 'A' 'F' c || range 'a' 'f' c)]

/-- The names with what is written around them after the opening bracket, whether they are
negated, and their members. -/
def bracketForms : List (List Char × Bool × CharSet) :=
  bracketNames.flatMap fun (name, set) =>
    [((":" ++ name ++ ":]").toList, false, set), ((":^" ++ name ++ ":]").toList, true, set)]

/-! ### Properties -/

/-- The name of a property or of a value, reduced to what distinguishes it: a leading `is` is
dropped, as are blanks, `_`, `-` and all that is not ASCII, and letters are put in lower case. -/
def plainName (name : List Char) : String :=
  let lower (c : Char) : Char := c.toLower
  let clean (s : List Char) : List Char :=
    (s.filter fun c => c ≠ ' ' && c ≠ '_' && c ≠ '-' && c.toNat < 0x80).map lower
  match name with
  | a :: b :: r =>
    if lower a = 'i' && lower b = 's' then
      if clean r = ['c'] then "isc" else String.ofList (clean r)
    else String.ofList (clean name)
  | _ => String.ofList (clean name)

def ofCategory? : String → Option CharSet
  | "any" => some fun _ => true
  | "ascii" => some (range '\x00' '\x7f')
  | "assigned" => some fun c => Unicode.Category.of c != .unassigned
  | "isc" => some fun c => Unicode.Category.other.contains (Unicode.Category.of c)
  | name => (Unicode.Category.named? name).map fun l c => l.contains (Unicode.Category.of c)

/-- The set that a bare name stands for: a property, a category or a script. -/
def ofName? (name : List Char) : Option CharSet :=
  let plain := plainName name
  match Unicode.Property.named? plain with
  | some t => some t.holds
  | none => match ofCategory? plain with
    | some s => some s
    | none => (Unicode.Script.named? plain).map Unicode.Script.holds

def ofNameValue? (name value : List Char) : Option CharSet :=
  let v := plainName value
  match plainName name with
  | "gc" | "generalcategory" => ofCategory? v
  | "sc" | "script" => (Unicode.Script.named? v).map Unicode.Script.holds
  | "scx" | "scriptextensions" => (Unicode.Script.named? v).map Unicode.Script.extensionHolds
  | "age" => (Unicode.Property.ages.findIdx? (·.contains v)).map fun k =>
      Unicode.Property.assignedBy (k + 1)
  | _ => none

def cutAt? (sep : List Char) : List Char → Option (List Char × List Char)
  | [] => none
  | c :: r =>
    if sep.isPrefixOf (c :: r) then some ([], (c :: r).drop sep.length)
    else (cutAt? sep r).map fun p => (c :: p.1, p.2)

/-- The set that the text of a property stands for: `Name`, `name=value`, `name:value`, or
`name!=value`, which is the complement. -/
def ofProperty? (text : List Char) : Option CharSet :=
  match cutAt? ['!', '='] text with
  | some (n, v) => (ofNameValue? n v).map compl
  | none => match cutAt? [':'] text with
    | some (n, v) => ofNameValue? n v
    | none => match cutAt? ['='] text with
      | some (n, v) => ofNameValue? n v
      | none => ofName? text

end CharSet

end AppLinks.Regex
