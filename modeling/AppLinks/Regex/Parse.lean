import AppLinks.Regex.Bracket

/-!
Reading a text as an expression.

The reader takes one character at a time and keeps a stack of open groups, so reading a text
and then another one is reading the two joined (`Reader.run_append`). Flags that are set inside
a group end with it. In verbose text, blanks and comments between the parts are skipped.
-/

namespace AppLinks.Regex

def nestingLimit : Nat := 250

/-- How many octets an expression may weigh when every repetition is written out. -/
def weightLimit : Nat := 10485760

def stepWeight : Nat := 32

/-- The weight of a set of characters that is not a single one, as far as it is bounded here. -/
def setWeight (f : Flags) : Primitive → Nat
  | .literal w => stepWeight * (Text.Utf8.encodeChar w.char).length
  | .shorthand .word _ => if f.unicode then 48000 else stepWeight
  | .shorthand .digit _ => if f.unicode then 5000 else stepWeight
  | .shorthand .space _ => if f.unicode then 800 else stepWeight
  | .property _ _ => 20000
  | .look _ => stepWeight

structure Part where
  expr : Expr
  depth : Nat := 0
  weight : Nat := 0
  /-- Whether it may match a stretch that is not empty. -/
  consumes : Bool := false
  /-- Whether a repetition may follow; none may follow a setting of flags. -/
  repeatable : Bool := true

/-- Parts one after another, from their list with the last first. -/
def Part.sequence : List Part → Part
  | [] => { expr := .empty }
  | [p] => p
  | p :: ps =>
    { expr := ps.foldl (fun e q => .seq q.expr e) p.expr
      depth := (p :: ps).foldl (fun d q => max d q.depth) 0 + 1
      weight := (p :: ps).foldl (fun w q => w + q.weight) 0
      consumes := (p :: ps).any (·.consumes) }

def Part.alternatives : List Part → Part
  | [] => { expr := .empty }
  | [p] => p
  | p :: ps =>
    { expr := ps.foldl (fun e q => .alt q.expr e) p.expr
      depth := (p :: ps).foldl (fun d q => max d q.depth) 0 + 1
      weight := (p :: ps).foldl (fun w q => w + q.weight) stepWeight
      consumes := (p :: ps).any (·.consumes) }

/-- A repetition of a part. Copies of a part that consumes nothing are not written out. -/
def Part.times (p : Part) (least : Nat) (most : Option Nat) (greedy : Bool) : Part :=
  let copies := if p.consumes then most.getD (max least 1) else 1
  { expr := .times p.expr least most greedy
    depth := p.depth + 1
    weight := copies * (p.weight + stepWeight)
    consumes := p.consumes && most != some 0 }

/-- A repetition that prefers the opposite. -/
def Part.turn (p : Part) : Part :=
  match p.expr with
  | .times a least most greedy => { p with expr := .times a least most !greedy }
  | _ => p

/-- An open group; the whole text is the outermost one. -/
structure Group where
  /-- The flags that hold again after the group. -/
  outer : Flags := {}
  name : Option String := none
  /-- The finished alternatives, the last first. -/
  branches : List Part := []
  parts : List Part := []

def Group.whole (g : Group) : Part := Part.alternatives (Part.sequence g.parts :: g.branches)

def Group.close (g : Group) : Part :=
  let whole := g.whole
  { whole with
    expr := match g.name with
      | some name => .capture name whole.expr
      | none => whole.expr
    depth := whole.depth + 1
    repeatable := true }

/-- What follows an opening `(?`: flags so far, and what has been set. -/
structure FlagList where
  flags : Flags
  letters : List Char := []
  negated : Bool := false
  /-- Whether the last character was that `-`. -/
  dangling : Bool := false

inductive Mode where
  | part
  /-- Perhaps the `?` that turns what a repetition prefers; with `skips`, blanks may come before
  it. -/
  | preference (skips : Bool)
  | escape (e : Escape)
  | boundary
  | boundaryBrace
  /-- More of the name in the braces after `\b`, the last character first. -/
  | boundaryName (name : List Char)
  | bracket (b : Bracket)
  | group
  | groupMark
  | groupP
  | groupAngle
  | groupName (name : List Char)
  | flags (l : FlagList)
  /-- The least count of a repetition; `ended` says that a blank followed its digits. -/
  | least (digits : Option Nat) (ended : Bool)
  /-- The greatest count of a repetition; `blank` says that a blank came first. -/
  | most (least : Option Nat) (digits : Option Nat) (blank : Bool) (ended : Bool)

structure Reader where
  flags : Flags := {}
  current : Group := {}
  around : List Group := []
  names : List String := []
  comment : Bool := false
  mode : Mode := .part

namespace Reader

def add (r : Reader) (p : Part) : Reader :=
  { r with current := { r.current with parts := p :: r.current.parts }, mode := .part }

def addChar (r : Reader) (s : Except SyntaxError CharSet) (weight : Nat) :
    Except SyntaxError Reader :=
  return r.add { expr := .char (← s), weight, consumes := true }

def addLook (r : Reader) (l : Look) : Reader := r.add { expr := .look l, weight := stepWeight }

/-- Adds what an escape stands for; a brace after `\b` may still change its meaning. -/
def addPrimitive (r : Reader) : Primitive → Except SyntaxError Reader
  | p@(.literal w) => r.addChar (r.flags.literalSet w) (setWeight r.flags p)
  | p@(.shorthand s negated) => r.addChar (r.flags.shorthandSet s negated) (setWeight r.flags p)
  | p@(.property text negated) => r.addChar (r.flags.propertySet text negated) (setWeight r.flags p)
  | .look (.word _ .boundary) => .ok { r with mode := .boundary }
  | .look l => .ok (r.addLook l)

def repeatLast (r : Reader) (least : Nat) (most : Option Nat) (skips : Bool) :
    Except SyntaxError Reader :=
  match r.current.parts with
  | p :: ps =>
    if p.repeatable then
      .ok { r with
        current := { r.current with
          parts := p.times least most (!r.flags.lazy) :: ps }
        mode := .preference skips }
    else .error .nothingToRepeat
  | [] => .error .nothingToRepeat

def startCount (r : Reader) : Except SyntaxError Reader :=
  match r.current.parts with
  | p :: _ =>
    if p.repeatable then .ok { r with mode := .least none false } else .error .nothingToRepeat
  | [] => .error .nothingToRepeat

def turnLast (r : Reader) : Reader :=
  match r.current.parts with
  | p :: ps => { r with current := { r.current with parts := p.turn :: ps }, mode := .part }
  | [] => { r with mode := .part }

def openGroup (r : Reader) (flags : Flags) (name : Option String) : Reader :=
  { r with
    flags
    current := { outer := r.flags, name }
    around := r.current :: r.around
    mode := .part }

def closeGroup (r : Reader) : Except SyntaxError Reader :=
  match r.around with
  | [] => .error .groupUnopened
  | g :: around =>
    .ok ({ r with flags := r.current.outer, current := g, around }.add r.current.close)

def nextBranch (r : Reader) : Reader :=
  { r with current := { r.current with
      branches := Part.sequence r.current.parts :: r.current.branches
      parts := [] } }

def readPart (r : Reader) (c : Char) : Except SyntaxError Reader :=
  if c = '(' then .ok { r with mode := .group }
  else if c = ')' then r.closeGroup
  else if c = '|' then .ok r.nextBranch
  else if c = '[' then .ok { r with mode := .bracket .start }
  else if c = '?' then r.repeatLast 0 (some 1) false
  else if c = '*' then r.repeatLast 0 none false
  else if c = '+' then r.repeatLast 1 none false
  else if c = '\x7b' then r.startCount
  else if c = '\\' then .ok { r with mode := .escape .start }
  else if c = '.' then r.addChar r.flags.dotSet (16 * stepWeight)
  else if c = '^' then .ok (r.addLook r.flags.caret)
  else if c = '$' then .ok (r.addLook r.flags.dollar)
  else r.addPrimitive (.literal ⟨c, false⟩)

def readFlag (r : Reader) (l : FlagList) (c : Char) : Except SyntaxError Reader :=
  if c = ':' || c = ')' then
    if l.dangling then .error .flagDangling
    else if c = ':' then .ok (r.openGroup l.flags none)
    else if l.letters.isEmpty then .error .nothingToRepeat
    else .ok ({ r with flags := l.flags }.add { expr := .empty, repeatable := false })
  else if c = '-' then
    if l.negated then .error .flagTwice
    else
      let l := { l with letters := c :: l.letters, negated := true, dangling := true }
      .ok { r with mode := .flags l }
  else match l.flags.set? c (!l.negated) with
    | none => .error (.flagUnknown c)
    | some flags =>
      if l.letters.contains c then .error .flagTwice
      else
        let l := { l with flags, letters := c :: l.letters, dangling := false }
        .ok { r with mode := .flags l }

/-- Whether a character may stand in the name of a group, and at its start. -/
def isNameChar (c : Char) (first : Bool) : Bool :=
  if first then c = '_' || Unicode.Property.isAlphabetic c
  else c ∈ ['_', '.', '[', ']'] || Unicode.Property.isAlphanumeric c

def readName (r : Reader) (name : List Char) (c : Char) : Except SyntaxError Reader :=
  if c = '>' then
    let text := String.ofList name.reverse
    if name.isEmpty then .error .groupName
    else if r.names.contains text then .error (.groupNameTwice text)
    else .ok ({ r with names := text :: r.names }.openGroup r.flags (some text))
  else if isNameChar c name.isEmpty then .ok { r with mode := .groupName (c :: name) }
  else .error .groupName

def countLimit : Nat := 0x100000000

def pushDigit (digits : Option Nat) (c : Char) : Except SyntaxError (Option Nat) :=
  let n := digits.getD 0 * 10 + (c.toNat - 48)
  if n < countLimit then .ok (some n) else .error .repeatCount

def readLeast (r : Reader) (digits : Option Nat) (ended : Bool) (c : Char) :
    Except SyntaxError Reader :=
  if c.isDigit && !ended then do return { r with mode := .least (← pushDigit digits c) false }
  else if Unicode.Property.isBlank c then .ok { r with mode := .least digits digits.isSome }
  else if c = ',' then .ok { r with mode := .most digits none false false }
  else match digits with
    | some n => if c = '\x7d' then r.repeatLast n (some n) true else .error .repeatCount
    | none => .error .repeatCount

def readMost (r : Reader) (least digits : Option Nat) (blank ended : Bool) (c : Char) :
    Except SyntaxError Reader :=
  if c.isDigit && !ended then do
    return { r with mode := .most least (← pushDigit digits c) blank false }
  else if Unicode.Property.isBlank c then
    .ok { r with mode := .most least digits true digits.isSome }
  else if c ≠ '\x7d' then .error .repeatCount
  else match least, digits with
    | some n, some m => if n ≤ m then r.repeatLast n (some m) true else .error .repeatCount
    | some n, none => if blank then .error .repeatCount else r.repeatLast n none true
    | none, _ => .error .repeatCount

def boundaryNames : List (String × WordEdge) :=
  [("start", .start), ("end", .finish), ("start-half", .startHalf), ("end-half", .finishHalf)]

def isBoundaryChar (c : Char) : Bool := c.isAlpha || c = '-'

def readBoundary (r : Reader) (name : List Char) (c : Char) : Except SyntaxError Reader :=
  if isBoundaryChar c then .ok { r with mode := .boundaryName (c :: name) }
  else if c = '\x7d' then
    match boundaryNames.lookup (String.ofList name.reverse) with
    | some edge => .ok (r.addLook (.word r.flags.unicode edge))
    | none => .error .wordBoundary
  else .error .wordBoundary

def boundaryLook (r : Reader) : Look := .word r.flags.unicode .boundary

/-- Settles what was kept back until the next character was known. The result says whether that
character was used up in doing so. -/
def settle (r : Reader) (c : Char) : Except SyntaxError (Reader × Bool) :=
  match r.mode with
  | .preference skips =>
    if c = '?' then .ok (r.turnLast, true)
    else if skips then .ok (r, false)
    else .ok ({ r with mode := .part }, false)
  | .boundary =>
    if c = '\x7b' then .ok ({ r with mode := .boundaryBrace }, true)
    else .ok (r.addLook r.boundaryLook, false)
  | _ => .ok (r, false)

/-- Whether blanks and comments are skipped here in verbose text. -/
def skipsBlanks (r : Reader) : Bool :=
  match r.mode with
  | .escape e => e.skipsBlanks
  | .groupMark | .groupP | .groupAngle | .groupName _ | .flags _ | .bracket _ => false
  | _ => true

def read (r : Reader) (c : Char) : Except SyntaxError Reader :=
  match r.mode with
  | .escape e => do
    match ← e.step r.flags c with
    | .more e => return { r with mode := .escape e }
    | .done p => r.addPrimitive p
  | .boundaryBrace =>
    if isBoundaryChar c then .ok { r with mode := .boundaryName [c] }
    -- no name of a boundary, so the braces count how often `\b` is repeated
    else do readLeast (← (r.addLook r.boundaryLook).startCount) none false c
  | .boundaryName name => r.readBoundary name c
  | .bracket b => do
    match ← b.step r.flags c with
    | .more b => return { r with mode := .bracket b }
    | .done set depth =>
      return r.add { expr := .char set, depth, weight := 16 * stepWeight, consumes := true }
  | .group =>
    if c = '?' then .ok { r with mode := .groupMark } else (r.openGroup r.flags none).readPart c
  | .groupMark =>
    if c = 'P' then .ok { r with mode := .groupP }
    else if c = '<' then .ok { r with mode := .groupAngle }
    else if c = '=' || c = '!' then .error .lookAround
    else r.readFlag { flags := r.flags } c
  | .groupP => if c = '<' then .ok { r with mode := .groupName [] } else .error (.flagUnknown 'P')
  | .groupAngle => if c = '=' || c = '!' then .error .lookAround else r.readName [] c
  | .groupName name => r.readName name c
  | .flags l => r.readFlag l c
  | .least digits ended => r.readLeast digits ended c
  | .most least digits blank ended => r.readMost least digits blank ended c
  | _ => { r with mode := .part }.readPart c

def step (r : Reader) (c : Char) : Except SyntaxError Reader := do
  if r.comment then return { r with comment := c ≠ '\n' }
  let (r, used) ← r.settle c
  if used then return r
  if r.flags.verbose && r.skipsBlanks && (Unicode.Property.isBlank c || c = '#') then
    return { r with comment := c = '#' }
  r.read c

def run (r : Reader) (s : List Char) : Except SyntaxError Reader := s.foldlM step r

theorem run_append (r : Reader) (s t : List Char) :
    r.run (s ++ t) = (r.run s).bind fun r => r.run t := List.foldlM_append

def finish (r : Reader) : Except SyntaxError Expr :=
  let finished (r : Reader) : Except SyntaxError Expr :=
    if r.around.isEmpty then
      let whole := r.current.whole
      if nestingLimit < whole.depth then .error .nestingTooDeep
      else if weightLimit < whole.weight then .error .tooLarge
      else .ok whole.expr
    else .error .groupUnclosed
  match r.mode with
  | .part | .preference _ => finished r
  | .boundary => finished (r.addLook r.boundaryLook)
  | .escape _ => .error .escapeUnfinished
  | .boundaryBrace | .boundaryName _ => .error .wordBoundary
  | .bracket _ => .error .classUnclosed
  | .group | .groupMark | .groupP | .groupAngle | .groupName _ | .flags _ => .error .groupUnclosed
  | .least _ _ | .most _ _ _ _ => .error .repeatCount

end Reader

def parse (text : String) : Except SyntaxError Expr := do
  (← ({} : Reader).run text.toList).finish

/-! ### Expressions for whole texts

The text of such an expression is put between anchors and read in that form. A text that is an
expression only between the anchors, such as one that closes their group itself, is not read
this way unless it is an expression by itself.
-/

def anchor (text : String) : String := "^(?:" ++ text ++ ")$"

def parseAnchored (text : String) : Except SyntaxError Expr := parse (anchor text)

/-- The anchored expression of a text that is an expression by itself. -/
def parseWhole (text : String) : Except SyntaxError Expr := do
  let _ ← parse text
  parseAnchored text

def Expr.accepts (e : Expr) (text : List Char) : Bool := e.isMatch text

end AppLinks.Regex
