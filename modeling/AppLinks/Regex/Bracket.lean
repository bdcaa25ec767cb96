import AppLinks.Regex.Escape

/-!
Character classes in brackets, read one character at a time.

A class is a union of items: characters, ranges, named classes and inner classes. Unions may be
joined by `&&`, `--` and `~~`, which bind alike and to the left. Where the meaning of a
character hangs on the next one (a `-` between two characters, the first `&` of `&&`, a `[` that
may begin `[:alpha:]`), the reader keeps it back until the next one is known.
-/

namespace AppLinks.Regex

inductive SetOp where
  | inter
  | diff
  | symmDiff
  deriving DecidableEq, Repr

def SetOp.ofChar? : Char → Option SetOp
  | '&' => some .inter
  | '-' => some .diff
  | '~' => some .symmDiff
  | _ => none

def SetOp.apply : SetOp → CharSet → CharSet → CharSet
  | .inter => CharSet.inter
  | .diff => CharSet.diff
  | .symmDiff => CharSet.symmDiff

structure Union where
  set : CharSet := .nothing
  count : Nat := 0
  depth : Nat := 0

def Union.add (u : Union) (s : CharSet) (depth : Nat) : Union :=
  ⟨u.set.union s, u.count + 1, max u.depth depth⟩

/-- How deeply a union nests; a lone item is not counted as a union. -/
def Union.nesting (u : Union) : Nat := if u.count ≤ 1 then u.depth else u.depth + 1

structure OpenClass where
  negated : Bool := false
  /-- The left side of an operator, with how deeply it nests, if an operator was read. -/
  left : Option (CharSet × Nat × SetOp) := none
  union : Union := {}

inductive BracketMode where
  /-- The start of a class: `^`, then any number of `-`, then perhaps a `]` that is a member. -/
  | opening (caret : Bool)
  | item
  | operator (c : Char)
  | afterItem (p : Primitive)
  /-- What follows an item and `-`; `adjacent` says that nothing was skipped since. -/
  | dash (p : Primitive) (adjacent : Bool)
  /-- The first character after an item, `-` and `#` in verbose text; `ended` says that the line
  of the comment has ended. -/
  | dashComment (p : Primitive) (ended : Bool)
  | rangeEnd (p : Primitive)
  /-- More of an escape, which perhaps ends a range. -/
  | escape (e : Escape) (first : Option Primitive)
  | inner
  /-- More of what may be a named class; `text` is what follows its `[`, the last first. -/
  | named (text : List Char)

/-- The reader of a class: the innermost open class and those around it. -/
structure Bracket where
  current : OpenClass
  around : List OpenClass
  mode : BracketMode
  comment : Bool := false

inductive Bracket.Result where
  | more (b : Bracket)
  | done (set : CharSet) (depth : Nat)

namespace Bracket

def start : Bracket := { current := {}, around := [], mode := .opening true }

def foldCase (f : Flags) (s : CharSet) : CharSet :=
  if f.ignoreCase then if f.unicode then s.foldCase else s.foldCaseAscii else s

/-- The character of an item that ends a range or stands alone. Without the Unicode flag a
class holds ASCII characters only. -/
def literalChar (f : Flags) (w : Written) : Except SyntaxError Char :=
  if f.unicode || w.char.toNat < 0x80 then .ok w.char
  else .error (if w.octet then .notText else .notUnicode)

def itemSet (f : Flags) : Primitive → Except SyntaxError CharSet
  | .literal w => (literalChar f w).map CharSet.single
  | .shorthand s negated => f.shorthandSet s negated
  | .property text negated => f.propertySet text negated
  | .look _ => .error .classEscape

def rangeSet (f : Flags) : Primitive → Primitive → Except SyntaxError CharSet
  | .literal a, .literal b =>
    if a.char.toNat ≤ b.char.toNat then do
      return .range (← literalChar f a) (← literalChar f b)
    else .error .classRange
  | _, _ => .error .classRange

def add (b : Bracket) (s : CharSet) (depth : Nat) : Bracket :=
  { b with current := { b.current with union := b.current.union.add s depth } }

def addItem (f : Flags) (b : Bracket) (p : Primitive) (mode : BracketMode) :
    Except SyntaxError Bracket :=
  return { b.add (← itemSet f p) 0 with mode }

/-- The set of a class up to here, with how deeply it nests. -/
def combined (f : Flags) (c : OpenClass) : CharSet × Nat :=
  match c.left with
  | none => (c.union.set, c.union.nesting)
  | some (left, depth, op) =>
    (op.apply (foldCase f left) (foldCase f c.union.set), max depth c.union.nesting + 1)

def addOperator (f : Flags) (b : Bracket) (op : SetOp) : Bracket :=
  let (set, depth) := combined f b.current
  { b with current := { b.current with left := some (set, depth, op), union := {} }, mode := .item }

/-- Ends the innermost class. Without the Unicode flag a complement would hold octets that are
no text. -/
def close (f : Flags) (b : Bracket) : Except SyntaxError Result :=
  let (set, depth) := combined f b.current
  if b.current.negated && !f.unicode then .error .notText
  else
    let set := (foldCase f set).negateIf b.current.negated
    match b.around with
    | [] => .ok (.done set (depth + 1))
    | c :: around =>
      .ok (.more (add { b with current := c, around, mode := .item } set (depth + 1)))

def plain (c : Char) : Primitive := .literal ⟨c, false⟩

def readItem (f : Flags) (b : Bracket) (c : Char) : Except SyntaxError Result :=
  if c = '[' then .ok (.more { b with mode := .inner })
  else if c = ']' then close f b
  else if (SetOp.ofChar? c).isSome then .ok (.more { b with mode := .operator c })
  else if c = '\\' then .ok (.more { b with mode := .escape .start none })
  else .ok (.more { b with mode := .afterItem (plain c) })

def readOpening (f : Flags) (b : Bracket) (caret : Bool) (c : Char) : Except SyntaxError Result :=
  if c = '^' && caret then
    .ok (.more { b with current := { b.current with negated := true }, mode := .opening false })
  else if c = '-' then (addItem f b (plain '-') (.opening false)).map .more
  else if c = ']' && b.current.union.count = 0 then (addItem f b (plain ']') .item).map .more
  else readItem f { b with mode := .item } c

def readAfterItem (f : Flags) (b : Bracket) (p : Primitive) (c : Char) :
    Except SyntaxError Result :=
  if c = '-' then .ok (.more { b with mode := .dash p true })
  else do readItem f (← addItem f b p .item) c

def readRangeEnd (f : Flags) (b : Bracket) (p : Primitive) (c : Char) : Except SyntaxError Result :=
  if c = '\\' then .ok (.more { b with mode := .escape .start (some p) })
  else do return .more { b.add (← rangeSet f p (plain c)) 0 with mode := .item }

/-- Reads the first character after an item and `-`. Before `]` and before another `-` the item
stands alone. -/
def readDash (f : Flags) (b : Bracket) (p : Primitive) (adjacent : Bool) (c : Char) :
    Except SyntaxError Result :=
  if c = ']' then do close f (← addItem f (← addItem f b p .item) (plain '-') .item)
  else if c = '-' then do
    let b ← addItem f b p .item
    if adjacent then return .more (addOperator f b .diff)
    else readAfterItem f b (plain '-') c
  else readRangeEnd f b p c

/-- What may follow an inner `[` when `text` is read is not the start of any named class. -/
def isNamedStart (text : List Char) : Bool :=
  CharSet.bracketForms.any fun (form, _) => text.isPrefixOf form

def namedSet? (f : Flags) (text : List Char) : Option (Except SyntaxError CharSet) :=
  (CharSet.bracketForms.find? (·.1 == text)).map fun (_, negated, set) =>
    if negated && !f.unicode then .error .notText
    else .ok ((foldCase f set).negateIf negated)

def openInner (b : Bracket) : Bracket :=
  { b with current := {}, around := b.current :: b.around, mode := .opening true }

/-- Takes the characters after an inner `[`, which name no class, as items of an inner class;
the last one may still begin a range. -/
def reopen (f : Flags) (b : Bracket) (text : List Char) :
    Except SyntaxError (Bracket × Primitive) :=
  match text with
  | [] => .ok (b.openInner, plain ':')
  | last :: before => do
    let inner ← before.reverse.foldlM (fun b c => addItem f b (plain c) .item) b.openInner
    return (inner, plain last)

def readPrimitive (f : Flags) (b : Bracket) (first : Option Primitive) (p : Primitive) :
    Except SyntaxError Bracket :=
  match first, p with
  | _, .look _ => .error .classEscape
  | none, p => .ok { b with mode := .afterItem p }
  | some a, p => do return { b.add (← rangeSet f a p) 0 with mode := .item }

/-- Settles what was kept back until the next character was known. The result says whether that
character was used up in doing so. -/
def settle (f : Flags) (b : Bracket) (c : Char) : Except SyntaxError (Bracket × Bool) :=
  match b.mode with
  | .operator d =>
    match SetOp.ofChar? c with
    | some op =>
      if c = d then .ok (addOperator f b op, true)
      else .ok ({ b with mode := .afterItem (plain d) }, false)
    | none => .ok ({ b with mode := .afterItem (plain d) }, false)
  | .inner =>
    if c = ':' then .ok ({ b with mode := .named [':'] }, true) else .ok (b.openInner, false)
  | .named text =>
    let longer := (c :: text).reverse
    match namedSet? f longer with
    | some s => do return ({ b.add (← s) 0 with mode := .item }, true)
    | none =>
      if isNamedStart longer then .ok ({ b with mode := .named (c :: text) }, true)
      else do
        let (inner, p) ← reopen f b text
        return ({ inner with mode := .afterItem p }, false)
  | _ => .ok (b, false)

/-- Looks into a comment after an item and `-` for its first character that is not blank, which
decides like a character outside a comment whether the item stands alone. -/
def readDashComment (f : Flags) (b : Bracket) (p : Primitive) (ended : Bool) (c : Char) :
    Except SyntaxError Result := do
  if Unicode.Property.isBlank c then
    return .more { b with mode := .dashComment p (ended || c = '\n') }
  let b ← if c = ']' || c = '-' then addItem f b p (.afterItem (plain '-'))
    else pure { b with mode := .rangeEnd p }
  if !ended || c = '#' then return .more { b with comment := true }
  match b.mode with
  | .rangeEnd p => readRangeEnd f b p c
  | _ => readAfterItem f b (plain '-') c

def skipsBlanks (b : Bracket) : Bool :=
  match b.mode with
  | .escape e _ => e.skipsBlanks
  | .dashComment _ _ => false
  | _ => true

def skip (b : Bracket) (c : Char) : Bracket :=
  match b.mode with
  | .dash p _ => { b with mode := if c = '#' then .dashComment p false else .dash p false }
  | _ => { b with comment := c = '#' }

def read (f : Flags) (b : Bracket) (c : Char) : Except SyntaxError Result :=
  match b.mode with
  | .opening caret => readOpening f b caret c
  | .afterItem p => readAfterItem f b p c
  | .dash p adjacent => readDash f b p adjacent c
  | .dashComment p ended => readDashComment f b p ended c
  | .rangeEnd p => readRangeEnd f b p c
  | .escape e first => do
    match ← e.step f c with
    | .more e => return .more { b with mode := .escape e first }
    | .done p => return .more (← readPrimitive f b first p)
  | _ => readItem f b c

def step (f : Flags) (b : Bracket) (c : Char) : Except SyntaxError Result := do
  if b.comment then return .more { b with comment := c ≠ '\n' }
  let (b, used) ← settle f b c
  if used then return .more b
  if f.verbose && b.skipsBlanks && (Unicode.Property.isBlank c || c = '#') then
    return .more (skip b c)
  read f b c

end Bracket

end AppLinks.Regex
