import AppLinks.Regex.CharSet

/-!
Regular expressions over texts, and what they match.

`Spans` says which stretches of a text an expression matches; which of several ways to match is
preferred plays no part in it. `Plan.reach` computes all ends of such stretches from a whole set of
starts at once. A set of positions is a numeral whose bits are the positions, so the cost grows with
the text and the expression and never with the number of ways to match.
-/

namespace AppLinks.Regex

inductive WordEdge where
  | boundary
  | inside
  | start
  | finish
  | startHalf
  | finishHalf
  deriving DecidableEq, Repr

inductive Look where
  | textStart
  | textEnd
  | lineStart (crlf : Bool)
  | lineEnd (crlf : Bool)
  | word (unicode : Bool) (edge : WordEdge)
  deriving DecidableEq, Repr

/-- Whether a condition holds between two neighbours; at an end of the text there is none. -/
def Look.holds (l : Look) (before after : Option Char) : Bool :=
  match l with
  | .textStart => before.isNone
  | .textEnd => after.isNone
  | .lineStart false => before.all (· == '\n')
  | .lineEnd false => after.all (· == '\n')
  | .lineStart true => before.all (· == '\n') || (before == some '\r' && after != some '\n')
  | .lineEnd true => after.all (· == '\r') || (after == some '\n' && before != some '\r')
  | .word unicode edge =>
    let isWord : CharSet :=
      if unicode then CharSet.Shorthand.word.full else CharSet.Shorthand.word.ascii
    let b := before.any isWord
    let a := after.any isWord
    match edge with
    | .boundary => b != a
    | .inside => b == a
    | .start => !b && a
    | .finish => b && !a
    | .startHalf => !b
    | .finishHalf => !a

inductive Expr where
  | empty
  | char (set : CharSet)
  | look (l : Look)
  | seq (a b : Expr)
  | alt (a b : Expr)
  /-- At least `least` times an expression, and at most `most` times if that is given; `greedy` says
  that more times are preferred to fewer. -/
  | times (a : Expr) (least : Nat) (most : Option Nat) (greedy : Bool)
  | capture (name : String) (a : Expr)

/-! ### What an expression matches -/

def before (text : List Char) (i : Nat) : Option Char := if i = 0 then none else text[i - 1]?

/-- `Spans text e i j` says that `e` matches the stretch of `text` from `i` to `j`. -/
inductive Spans (text : List Char) : Expr → Nat → Nat → Prop where
  | empty {i : Nat} : i ≤ text.length → Spans text .empty i i
  | char {set : CharSet} {i : Nat} {c : Char} :
      text[i]? = some c → set c = true → Spans text (.char set) i (i + 1)
  | look {l : Look} {i : Nat} : i ≤ text.length → l.holds (before text i) text[i]? = true →
      Spans text (.look l) i i
  | seq {a b : Expr} {i j k : Nat} : Spans text a i j → Spans text b j k → Spans text (.seq a b) i k
  | altLeft {a b : Expr} {i j : Nat} : Spans text a i j → Spans text (.alt a b) i j
  | altRight {a b : Expr} {i j : Nat} : Spans text b i j → Spans text (.alt a b) i j
  | timesEnd {a : Expr} {most : Option Nat} {greedy : Bool} {i : Nat} : i ≤ text.length →
      Spans text (.times a 0 most greedy) i i
  | timesMore {a : Expr} {least : Nat} {most : Option Nat} {greedy : Bool} {i j k : Nat} :
      Spans text a i j → most ≠ some 0 →
      Spans text (.times a (least - 1) (most.map (· - 1)) greedy) j k →
      Spans text (.times a least most greedy) i k
  | capture {name : String} {a : Expr} {i j : Nat} : Spans text a i j →
      Spans text (.capture name a) i j

/-! ### Computing the ends -/

/-- The positions of the characters in a set, as a numeral. -/
def CharSet.mask (set : CharSet) : List Char → Nat
  | [] => 0
  | c :: r => (if set c then 1 else 0) + 2 * CharSet.mask set r

def Look.mask (l : Look) (prev : Option Char) : List Char → Nat
  | [] => if l.holds prev none then 1 else 0
  | c :: r => (if l.holds prev (some c) then 1 else 0) + 2 * Look.mask l (some c) r

/-- Applies `f` exactly `n` times; a set that `f` keeps is not worked over again. -/
def applyTimes (f : Nat → Nat) : Nat → Nat → Nat
  | 0, s => s
  | n + 1, s => let t := f s; if t = s then s else applyTimes f n t

/-- Applies `f` at most `n` times and keeps every set on the way; stops when nothing is new. -/
def growTimes (f : Nat → Nat) : Nat → Nat → Nat
  | 0, s => s
  | n + 1, s => let t := s ||| f s; if t = s then s else growTimes f n t

/-- An expression made ready for one text: the sets and conditions are positions of the text. -/
inductive Plan where
  | empty
  | char (mask : Nat)
  | look (mask : Nat)
  | seq (a b : Plan)
  | alt (a b : Plan)
  | times (a : Plan) (least more : Nat)
  | none
  deriving Repr

/-- Makes an expression ready for a text. Beyond the length of the text no repetition finds new
ends. -/
def Expr.plan (text : List Char) : Expr → Plan
  | .empty => .empty
  | .char set => .char (set.mask text)
  | .look l => .look (l.mask none text)
  | .seq a b => .seq (a.plan text) (b.plan text)
  | .alt a b => .alt (a.plan text) (b.plan text)
  | .times a least none _ => .times (a.plan text) least (text.length + 1)
  | .times a least (some most) _ =>
    if least ≤ most then .times (a.plan text) least (most - least) else .none
  | .capture _ a => a.plan text

/-- The ends of the stretches that a plan finds from the starts in `s`. -/
def Plan.reach : Plan → Nat → Nat
  | .empty, s => s
  | .char mask, s => 2 * (s &&& mask)
  | .look mask, s => s &&& mask
  | .seq a b, s => b.reach (a.reach s)
  | .alt a b, s => a.reach s ||| b.reach s
  | .times a least more, s => growTimes a.reach more (applyTimes a.reach least s)
  | .none, _ => 0

def everywhere (text : List Char) : Nat := Nat.pow 2 (text.length + 1) - 1

/-- Whether an expression matches some stretch of a text. -/
def Expr.isMatch (e : Expr) (text : List Char) : Bool := (e.plan text).reach (everywhere text) != 0

end AppLinks.Regex
