import AppLinks.Regex.Basic

/-!
The vocabulary of written expressions: what can be wrong with one, and the flags that govern how
the text after them is read.
-/

namespace AppLinks.Regex

inductive SyntaxError where
  | groupUnclosed
  | groupUnopened
  | groupName
  | groupNameTwice (name : String)
  | flagUnknown (c : Char)
  | flagTwice
  | flagDangling
  | lookAround
  | backreference
  | nothingToRepeat
  | repeatCount
  | escapeUnknown (c : Char)
  | escapeUnfinished
  | hexadecimal
  | property
  | wordBoundary
  | classUnclosed
  | classRange
  | classEscape
  | notUnicode
  | notText
  | nestingTooDeep
  | tooLarge
  deriving DecidableEq, Repr

def SyntaxError.message : SyntaxError → String
  | .tooLarge => "Compiled regex exceeds size limit of 10485760 bytes."
  | e => "regex parse error: " ++ match e with
    | .groupUnclosed => "unclosed group"
    | .groupUnopened => "unopened group"
    | .groupName => "invalid capture group name"
    | .groupNameTwice n => "duplicate capture group name " ++ n
    | .flagUnknown c => "unrecognized flag " ++ c.toString
    | .flagTwice => "duplicate flag"
    | .flagDangling => "dangling flag negation operator"
    | .lookAround => "look-around is not supported"
    | .backreference => "backreferences are not supported"
    | .nothingToRepeat => "repetition operator missing expression"
    | .repeatCount => "invalid repetition count"
    | .escapeUnknown c => "unrecognized escape sequence " ++ c.toString
    | .escapeUnfinished => "incomplete escape sequence"
    | .hexadecimal => "invalid hexadecimal character"
    | .property => "Unicode property not found"
    | .wordBoundary => "invalid word boundary"
    | .classUnclosed => "unclosed character class"
    | .classRange => "invalid character class range"
    | .classEscape => "invalid escape sequence in character class"
    | .notUnicode => "Unicode not allowed here"
    | .notText => "pattern can match invalid text"
    | _ => "exceeds the maximum number of nested groups"

structure Flags where
  ignoreCase : Bool := false
  /-- `^` and `$` also match at the lines of a text. -/
  multiLine : Bool := false
  dotAll : Bool := false
  /-- Lines end in a carriage return and a line feed, or in either. -/
  crlf : Bool := false
  /-- Classes and boundaries know all characters, not only ASCII. -/
  unicode : Bool := true
  verbose : Bool := false
  /-- Repetitions prefer to be short, and those with a `?` after them to be long. -/
  lazy : Bool := false
  deriving DecidableEq, Repr

def Flags.set? (f : Flags) (letter : Char) (on : Bool) : Option Flags :=
  match letter with
  | 'i' => some { f with ignoreCase := on }
  | 'm' => some { f with multiLine := on }
  | 's' => some { f with dotAll := on }
  | 'R' => some { f with crlf := on }
  | 'u' => some { f with unicode := on }
  | 'x' => some { f with verbose := on }
  | 'U' => some { f with lazy := on }
  | _ => none

structure Written where
  char : Char
  /-- Whether it was written as an octet, `\x` and two digits. -/
  octet : Bool := false

/-- What an escape, or a character without one, stands for. -/
inductive Primitive where
  | literal (w : Written)
  | shorthand (s : CharSet.Shorthand) (negated : Bool)
  | property (text : List Char) (negated : Bool)
  | look (l : Look)

def Flags.propertySet (f : Flags) (text : List Char) (negated : Bool) :
    Except SyntaxError CharSet :=
  if !f.unicode then .error .notUnicode
  else match CharSet.ofProperty? text with
    | none => .error .property
    | some s => .ok ((if f.ignoreCase then s.foldCase else s).negateIf negated)

/-- The set of `\d`, `\s`, `\w` or of its complement. Without the Unicode flag a complement
would hold octets that are no text. -/
def Flags.shorthandSet (f : Flags) (s : CharSet.Shorthand) (negated : Bool) :
    Except SyntaxError CharSet :=
  if f.unicode then .ok (s.full.negateIf negated)
  else if negated then .error .notText
  else .ok s.ascii

def Flags.literalSet (f : Flags) (w : Written) : Except SyntaxError CharSet :=
  if f.unicode then
    .ok (if f.ignoreCase then (CharSet.single w.char).foldCase else .single w.char)
  else if w.octet && 0x80 ≤ w.char.toNat then .error .notText
  else .ok (if f.ignoreCase then (CharSet.single w.char).foldCaseAscii else .single w.char)

def Flags.dotSet (f : Flags) : Except SyntaxError CharSet :=
  if !f.unicode then .error .notText
  else if f.dotAll then .ok fun _ => true
  else if f.crlf then .ok fun c => c ≠ '\n' && c ≠ '\r'
  else .ok fun c => c ≠ '\n'

def Flags.caret (f : Flags) : Look := if f.multiLine then .lineStart f.crlf else .textStart

def Flags.dollar (f : Flags) : Look := if f.multiLine then .lineEnd f.crlf else .textEnd

end AppLinks.Regex
