import AppLinks.Regex.Syntax
import AppLinks.Text.Percent

/-!
Escapes: what may follow a backslash, read one character at a time.
-/

namespace AppLinks.Regex

inductive Escape where
  | start
  /-- `\x`, `\u` or `\U`; `digits` counts the digits it takes without braces. -/
  | hex (digits : Nat) (octet : Bool)
  /-- Some of the digits of a character, and how many are still to come. -/
  | hexDigits (value : Nat) (owed : Nat) (octet : Bool)
  | hexBraces (value : Nat) (any : Bool)
  | property (negated : Bool)
  /-- An opening brace after `\p`, with the text so far, the last character first. -/
  | propertyName (text : List Char) (negated : Bool)

inductive Escape.Result where
  | done (p : Primitive)
  | more (e : Escape)

namespace Escape

def isMeta (c : Char) : Bool :=
  c ∈ ['\\', '.', '+', '*', '?', '(', ')', '|', '[', ']', '\x7b', '\x7d', '^', '$', '#', '&',
    '-', '~']

/-- Characters that stand for themselves when they are escaped: all of ASCII but letters,
digits, and the two angle brackets. -/
def isEscapable (c : Char) : Bool :=
  isMeta c || (c.toNat < 0x80 && !c.isAlphanum && c ≠ '<' && c ≠ '>')

def charOf? (n : Nat) : Option Char := if h : n.isValidChar then some (Char.ofNatAux n h) else none

def finishHex (value : Nat) (octet : Bool) : Except SyntaxError Result :=
  match charOf? value with
  | some c => .ok (.done (.literal ⟨c, octet⟩))
  | none => .error .hexadecimal

/-- A code point that is too large stays too large, whatever digits follow. -/
def pushHex (value digit : Nat) : Nat := if value < 0x110000 then value * 16 + digit else value

def hexValue? (c : Char) : Option Nat := Text.Percent.hexValue? c

def ofChar (f : Flags) (c : Char) : Except SyntaxError Result :=
  let literal (d : Char) : Except SyntaxError Result := .ok (.done (.literal ⟨d, false⟩))
  let look (l : Look) : Except SyntaxError Result := .ok (.done (.look l))
  if isEscapable c then literal c
  else match c with
    | 'x' => .ok (.more (.hex 2 true))
    | 'u' => .ok (.more (.hex 4 false))
    | 'U' => .ok (.more (.hex 8 false))
    | 'p' => .ok (.more (.property false))
    | 'P' => .ok (.more (.property true))
    | 'd' => .ok (.done (.shorthand .digit false))
    | 'D' => .ok (.done (.shorthand .digit true))
    | 's' => .ok (.done (.shorthand .space false))
    | 'S' => .ok (.done (.shorthand .space true))
    | 'w' => .ok (.done (.shorthand .word false))
    | 'W' => .ok (.done (.shorthand .word true))
    | 'a' => literal '\x07'
    | 'f' => literal '\x0c'
    | 't' => literal '\t'
    | 'n' => literal '\n'
    | 'r' => literal '\r'
    | 'v' => literal '\x0b'
    | 'A' => look .textStart
    | 'z' => look .textEnd
    | 'b' => look (.word f.unicode .boundary)
    | 'B' => look (.word f.unicode .inside)
    | '<' => look (.word f.unicode .start)
    | '>' => look (.word f.unicode .finish)
    | c => if c.isDigit then .error .backreference else .error (.escapeUnknown c)

def step (f : Flags) (e : Escape) (c : Char) : Except SyntaxError Result :=
  match e with
  | .start => ofChar f c
  | .hex digits octet =>
    if c = '\x7b' then .ok (.more (.hexBraces 0 false))
    else match hexValue? c with
      | some d => .ok (.more (.hexDigits d (digits - 1) octet))
      | none => .error .hexadecimal
  | .hexDigits value owed octet =>
    match hexValue? c with
    | none => .error .hexadecimal
    | some d =>
      if owed ≤ 1 then finishHex (pushHex value d) octet
      else .ok (.more (.hexDigits (pushHex value d) (owed - 1) octet))
  | .hexBraces value any =>
    if c = '\x7d' then if any then finishHex value false else .error .hexadecimal
    else match hexValue? c with
      | some d => .ok (.more (.hexBraces (pushHex value d) true))
      | none => .error .hexadecimal
  | .property negated =>
    if c = '\x7b' then .ok (.more (.propertyName [] negated))
    else if c = '\\' then .error .property
    else .ok (.done (.property [c] negated))
  | .propertyName text negated =>
    if c = '\x7d' then .ok (.done (.property text.reverse negated))
    else .ok (.more (.propertyName (c :: text) negated))

/-- Whether blanks and comments are skipped here in verbose text. -/
def skipsBlanks : Escape → Bool
  | .start => false
  | _ => true

end Escape

/-- The text of an expression that matches a given text and nothing else. -/
def quote (s : List Char) : List Char :=
  s.flatMap fun c => if Escape.isMeta c then ['\\', c] else [c]

end AppLinks.Regex
