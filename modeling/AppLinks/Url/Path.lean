import AppLinks.Text.Percent

/-!
Paths: lists of segments, in which `.` and `..` have been resolved.
-/

namespace AppLinks.Url.Path

def isSingleDot (s : List Char) : Bool := (s.map Char.toLower) ∈ [['.'], ['%', '2', 'e']]

def isDoubleDot (s : List Char) : Bool :=
  (s.map Char.toLower) ∈ [['.', '.'], ['%', '2', 'e', '.'], ['.', '%', '2', 'e'],
    ['%', '2', 'e', '%', '2', 'e']]

/-- Whether a text is a letter and `:` or `|`, which names a drive. -/
def isDrive : List Char → Bool
  | [a, b] => a.isAlpha && (b = ':' || b = '|')
  | _ => false

def beginsWithDrive (s : List Char) : Bool :=
  isDrive (s.take 2) && (s.drop 2).head?.all (· = '\\')

/-- Goes back by one segment. A segment that begins with the name of a drive stays. -/
def back (done : List (List Char)) : List (List Char) :=
  match done.getLast? with
  | some s => if beginsWithDrive s then done else done.dropLast
  | none => done

/-- Resolves the dots of segments as they were written; `done` are the segments so far. A path
that ends in dots ends in an empty segment. -/
def resolve (done : List (List Char)) : List (List Char) → List (List Char)
  | [] => done
  | s :: rest =>
    let last := rest.isEmpty
    let t := Text.Percent.encode Text.Percent.path s
    if isDoubleDot t then resolve (back done ++ if last then [[]] else []) rest
    else if isSingleDot t then resolve (done ++ if last then [[]] else []) rest
    else resolve (done ++ [t]) rest

def split (special : Bool) (s : List Char) : List (List Char) :=
  Text.Form.splitOn '/' (if special then s.map fun c => if c = '\\' then '/' else c else s)

def read (special : Bool) (s : List Char) : List (List Char) := resolve [] (split special s)

/-- The segments of a path of a file, and whether the first one names a drive. The name of a
drive is given a colon, and empty segments at the start are dropped. -/
def readFile (s : List Char) : List (List Char) × Bool :=
  let (list, drive) := match read true s with
    | [] => ([], false)
    | f :: r => if isDrive f then ((f.take 1 ++ [':']) :: r, true) else (f :: r, false)
  let list := list.dropWhile (·.isEmpty)
  (if list.isEmpty then [[]] else list, drive)

def render (segments : List (List Char)) : List Char := segments.flatMap ('/' :: ·)

end AppLinks.Url.Path
