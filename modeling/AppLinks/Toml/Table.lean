import AppLinks.Toml.Value

/-!
Tables while they are built from lines.

A table comes from its own header, from a longer header that passes through it, or from dotted
keys. A header may still name a table that only longer headers implied. Dotted keys may add to
tables of dotted keys, and new tables below implied ones, but not fields to a table that has or
may have a header.
-/

namespace AppLinks.Toml

inductive Origin where
  | header
  | implied
  | dotted
  deriving DecidableEq, Repr

inductive Node where
  | value (v : Value)
  | table (origin : Origin) (fields : List (String × Node))
  /-- The tables of an array of tables; the last one is still open. -/
  | tables (closed : List (List (String × Node))) (last : List (String × Node))

/-- Fields in the order in which they came. -/
abbrev Fields := List (String × Node)

def Fields.replace (k : String) (n : Node) : Fields → Fields
  | [] => []
  | (a, b) :: r => if a = k then (a, n) :: r else (a, b) :: Fields.replace k n r

/-- Changes the fields of the table to which a path leads, and makes the tables of the path that
do not exist; they come from dotted keys if `dotted`. -/
def descend (dotted : Bool) (change : Origin → Fields → Option Fields) :
    List String → Origin → Fields → Option Fields
  | [], origin, fields => change origin fields
  | k :: path, _, fields => match fields.lookup k with
    | none => do
      let origin := if dotted then .dotted else .implied
      return fields ++ [(k, .table origin (← descend dotted change path origin []))]
    | some (.value _) => none
    | some (.tables closed last) => do
      return Fields.replace k (.tables closed (← descend dotted change path .header last)) fields
    | some (.table origin below) =>
      if dotted && origin = .header then none
      else do
        return Fields.replace k (.table origin (← descend dotted change path origin below)) fields

/-- Adds a value under a key, which may be a dotted one. -/
def addValue (path : List String) (v : Value) (fields : Fields) : Option Fields :=
  match path.getLast? with
  | none => none
  | some k =>
    let add (origin : Origin) (fs : Fields) : Option Fields :=
      if 1 < path.length && origin ≠ .dotted then none
      else if (fs.lookup k).isSome then none
      else some (fs ++ [(k, .value v)])
    descend true add path.dropLast .header fields

def openTable (path : List String) (fields : Fields) : Option Fields :=
  match path.getLast? with
  | none => none
  | some k =>
    let start (_ : Origin) (fs : Fields) : Option Fields :=
      match fs.lookup k with
      | none => some (fs ++ [(k, .table .header [])])
      | some (.table .implied below) => some (Fields.replace k (.table .header below) fs)
      | some _ => none
    descend false start path.dropLast .header fields

def openItem (path : List String) (fields : Fields) : Option Fields :=
  match path.getLast? with
  | none => none
  | some k =>
    let start (_ : Origin) (fs : Fields) : Option Fields :=
      match fs.lookup k with
      | none => some (fs ++ [(k, .tables [] [])])
      | some (.tables closed last) => some (Fields.replace k (.tables (closed ++ [last]) []) fs)
      | some _ => none
    descend false start path.dropLast .header fields

mutual

def Node.toValue : Node → Value
  | .value v => v
  | .table _ fields => .table (fieldsToValue fields)
  | .tables closed last => .array (tablesToValue closed ++ [.table (fieldsToValue last)])

def fieldsToValue : List (String × Node) → List (String × Value)
  | [] => []
  | (k, n) :: r => (k, n.toValue) :: fieldsToValue r

def tablesToValue : List (List (String × Node)) → List Value
  | [] => []
  | fs :: r => .table (fieldsToValue fs) :: tablesToValue r

end

/-! ### Documents -/

inductive Statement where
  | header (path : List String)
  | item (path : List String)
  | field (path : List String) (v : Value)

/-- A document as far as it is read: its fields, and the table to which the next ones belong. -/
structure Draft where
  fields : Fields := []
  current : List String := []

def Draft.add (d : Draft) : Statement → Option Draft
  | .header path => return { fields := ← openTable path d.fields, current := path }
  | .item path => return { fields := ← openItem path d.fields, current := path }
  | .field path v => do
    let fields ← descend false (fun _ fs => addValue path v fs) d.current .header d.fields
    return { d with fields }

def ofStatements (statements : List Statement) : Option Value := do
  let d ← statements.foldlM Draft.add {}
  return .table (fieldsToValue d.fields)

def ofPairs (pairs : List (List String × Value)) : Option Value := do
  let fields ← pairs.foldlM (fun fs (path, v) => addValue path v fs) []
  return .table (fieldsToValue fields)

end AppLinks.Toml
