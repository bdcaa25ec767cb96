import AppLinks.Error
import AppLinks.Regex.Parse

/-!
Route patterns: what paths look like that lead to one handler.

A pattern is a list of segments with slashes between them; one slash at its start and one at its
end do not count. A segment is a text that stands for itself, a parameter such as `:id` or
`:id([0-9]+)`, or, as the last one, `*` for the rest of the path. Within the parentheses of a
parameter slashes do not separate, and a backslash takes the meaning of the next character away.
-/

namespace AppLinks.Route

inductive Segment where
  | literal (text : String)
  | parameter (name : String) (constraint : Option String)
  | wildcard
  deriving DecidableEq, Repr

namespace Segment

def text : Segment → String
  | .literal t => t
  | .parameter name none => ":" ++ name
  | .parameter name (some c) => ":" ++ name ++ "(" ++ c ++ ")"
  | .wildcard => "*"

def name? : Segment → Option String
  | .parameter name _ => some name
  | _ => none

/-- A parameter with its name and the text of its constraint, which has to be an expression;
`part` is the segment as it was written. -/
def checked (part name : List Char) (constraint : Option (List Char)) :
    Except PatternFault Segment :=
  if name.isEmpty || name.contains ')' then .error (.parameterName (String.ofList part))
  else match constraint with
    | none => .ok (.parameter (String.ofList name) none)
    | some c =>
      if c.isEmpty then .error (.emptyConstraint (String.ofList name))
      else match Regex.parse (String.ofList c) with
        | .ok _ => .ok (.parameter (String.ofList name) (some (String.ofList c)))
        | .error e => .error (.constraint (String.ofList name) e)

/-- Reads a segment. The constraint of a parameter goes from the first parenthesis to the end. -/
def parse : List Char → Except PatternFault Segment
  | ['*'] => .ok .wildcard
  | ':' :: spec =>
    let name := spec.takeWhile (· ≠ '(')
    match spec.dropWhile (· ≠ '(') with
    | [] => checked (':' :: spec) name none
    | _ :: inner =>
      if inner.getLast? = some ')' then checked (':' :: spec) name (some inner.dropLast)
      else .error (.constraintNotLast (String.ofList (':' :: spec)))
  | s => .ok (.literal (String.ofList s))

end Segment

def consFirst (c : Char) : List (List Char) → List (List Char)
  | [] => [[c]]
  | s :: ss => (c :: s) :: ss

def beginsParameter (s : List Char) : Bool := s.head? = some ':'

/-- Cuts a pattern at the slashes that separate. `depth` counts open parentheses, `escaped` says
that a backslash came before, and `parameter` that the segment is a parameter; there is no
result if the parentheses of a parameter do not pair up. -/
def split (depth : Nat) (escaped parameter : Bool) : List Char → Option (List (List Char))
  | [] => if depth = 0 then some [[]] else none
  | c :: r =>
    if escaped then (split depth false parameter r).map (consFirst c)
    else if c = '\\' && 0 < depth then (split depth true parameter r).map (consFirst c)
    else if c = '(' && parameter then (split (depth + 1) false parameter r).map (consFirst c)
    else if c = ')' && parameter then
      if depth = 0 then none else (split (depth - 1) false parameter r).map (consFirst c)
    else if c = '/' && depth = 0 then (split 0 false (beginsParameter r) r).map ([] :: ·)
    else (split depth false parameter r).map (consFirst c)

def dropLeadingSlash : List Char → List Char
  | '/' :: r => r
  | s => s

def dropTrailingSlash (s : List Char) : List Char :=
  if s.getLast? = some '/' then s.dropLast else s

/-- A pattern without the slashes around it. -/
def body (raw : String) : List Char := dropTrailingSlash (dropLeadingSlash raw.toList)

def parts (raw : String) : Except PatternFault (List (List Char)) :=
  let b := body raw
  if b.isEmpty then .error .empty
  else match split 0 false (beginsParameter b) b with
    | none => .error .unbalanced
    | some ps => if ps.any (·.isEmpty) then .error .emptySegment else .ok ps

/-- Reads segments one after another. A wildcard has to be the last one, and a name that is among
the `seen` ones may not come again. -/
def readSegments (seen : List String) : List (List Char) → Except PatternFault (List Segment)
  | [] => .ok []
  | p :: ps => do
    let s ← Segment.parse p
    if s = .wildcard && !ps.isEmpty then throw .wildcardNotLast
    match s.name? with
    | some n => if seen.contains n then throw (.duplicateName n)
    | none => pure ()
    return s :: (← readSegments (s.name?.toList ++ seen) ps)

structure Pattern where
  raw : String
  segments : List Segment
  deriving DecidableEq, Repr

namespace Pattern

def parse (raw : String) : Except LinkError Pattern :=
  match parts raw >>= readSegments [] with
  | .ok segments => .ok { raw, segments }
  | .error fault => .error (.invalidPattern raw fault)

def names (p : Pattern) : List String := p.segments.filterMap Segment.name?

def hasWildcard (p : Pattern) : Bool := p.segments.getLast? == some .wildcard

end Pattern

end AppLinks.Route
