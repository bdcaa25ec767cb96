/-!
Parameters: values by name, in the order in which their names first came.

No name comes twice. `get?` is the view: what each operation does is said through it.
-/

namespace AppLinks

structure Params where
  entries : List (String × String)
  nodup : (entries.map Prod.fst).Nodup
  deriving DecidableEq, Repr

namespace Params

def empty : Params := ⟨[], .nil⟩

/-- Sets the value of a name in a list; a new name comes last. -/
def setIn (k v : String) : List (String × String) → List (String × String)
  | [] => [(k, v)]
  | (a, b) :: r => if a = k then (k, v) :: r else (a, b) :: setIn k v r

theorem mem_keys_setIn {k v x : String} {l : List (String × String)} :
    x ∈ (setIn k v l).map Prod.fst ↔ x = k ∨ x ∈ l.map Prod.fst := by
  induction l with
  | nil => simp [setIn]
  | cons p r ih =>
    obtain ⟨a, b⟩ := p
    by_cases h : a = k
    · subst h; simp [setIn]
    · simp only [setIn, if_neg h, List.map_cons, List.mem_cons, ih]
      exact or_left_comm

theorem nodup_setIn (k v : String) {l : List (String × String)} (h : (l.map Prod.fst).Nodup) :
    ((setIn k v l).map Prod.fst).Nodup := by
  induction l with
  | nil => simp [setIn]
  | cons p r ih =>
    obtain ⟨a, b⟩ := p
    rw [List.map_cons, List.nodup_cons] at h
    by_cases hk : a = k
    · subst hk
      simpa [setIn] using h
    · simp only [setIn, if_neg hk, List.map_cons, List.nodup_cons, mem_keys_setIn]
      exact ⟨fun hm => hm.elim hk h.1, ih h.2⟩

def insert (p : Params) (k v : String) : Params := ⟨setIn k v p.entries, nodup_setIn k v p.nodup⟩

def get? (p : Params) (k : String) : Option String := p.entries.lookup k

def size (p : Params) : Nat := p.entries.length

def insertAll (p : Params) (pairs : List (String × String)) : Params :=
  pairs.foldl (fun p kv => p.insert kv.1 kv.2) p

/-- The values of pairs; the last pair of a name wins. -/
def ofPairs (pairs : List (String × String)) : Params := empty.insertAll pairs

/-- The values of both; those of `q` win. -/
def merge (p q : Params) : Params := p.insertAll q.entries

/-! ### What the operations do -/

theorem lookup_entry {β : Type} (a : String) (b : β) (x : String) (r : List (String × β)) :
    ((a, b) :: r).lookup x = if x = a then some b else r.lookup x := by
  rw [List.lookup_cons]
  by_cases h : x = a
  · simp [h]
  · simp [beq_eq_false_iff_ne.2 h, h]

theorem lookup_setIn (k v x : String) (l : List (String × String)) :
    (setIn k v l).lookup x = if x = k then some v else l.lookup x := by
  induction l with
  | nil => simp only [setIn, lookup_entry]
  | cons p r ih =>
    obtain ⟨a, b⟩ := p
    by_cases h : a = k
    · subst h
      simp only [setIn, reduceIte, lookup_entry]
      by_cases hx : x = a <;> simp [hx]
    · simp only [setIn, if_neg h, lookup_entry, ih]
      by_cases hx : x = a
      · subst hx; simp [h]
      · simp [hx]

theorem lookup_of_notMem {β : Type} {x : String} {l : List (String × β)}
    (h : x ∉ l.map Prod.fst) : l.lookup x = none :=
  List.lookup_eq_none_iff.2 fun _ hp => bne_iff_ne.2 fun hx => h (hx ▸ List.mem_map_of_mem hp)

theorem mem_of_lookup {β : Type} {x : String} {v : β} {l : List (String × β)}
    (h : l.lookup x = some v) : (x, v) ∈ l := by
  obtain ⟨before, after, rfl, -⟩ := List.lookup_eq_some_iff.1 h
  simp

/-- Where no name comes twice, the value of a name is found. -/
theorem lookup_of_mem {β : Type} {x : String} {v : β} {l : List (String × β)}
    (hl : (l.map Prod.fst).Nodup) (h : (x, v) ∈ l) : l.lookup x = some v := by
  induction l with
  | nil => cases h
  | cons p r ih =>
    obtain ⟨a, b⟩ := p
    rw [List.map_cons, List.nodup_cons] at hl
    rw [lookup_entry]
    rcases List.mem_cons.1 h with heq | hmem
    · cases heq
      rw [if_pos rfl]
    · rw [if_neg, ih hl.2 hmem]
      rintro rfl
      exact hl.1 (List.mem_map.2 ⟨(x, v), hmem, rfl⟩)

@[simp] theorem get?_empty (x : String) : empty.get? x = none := rfl

/-- A name has the value that was set last. -/
theorem get?_insert (p : Params) (k v x : String) :
    (p.insert k v).get? x = if x = k then some v else p.get? x :=
  lookup_setIn k v x p.entries

/-- Of pairs with the same name the last one counts. -/
theorem get?_insertAll (p : Params) (pairs : List (String × String)) (x : String) :
    (p.insertAll pairs).get? x = (pairs.reverse.lookup x).or (p.get? x) := by
  induction pairs generalizing p with
  | nil => rfl
  | cons kv r ih =>
    obtain ⟨k, v⟩ := kv
    rw [insertAll, List.foldl_cons, ← insertAll, ih, get?_insert, List.reverse_cons,
      List.lookup_append, lookup_entry]
    by_cases h : x = k <;> simp [h]

theorem get?_ofPairs (pairs : List (String × String)) (x : String) :
    (ofPairs pairs).get? x = pairs.reverse.lookup x := by
  rw [ofPairs, get?_insertAll, get?_empty, Option.or_none]

theorem lookup_reverse {β : Type} {x : String} {l : List (String × β)}
    (h : (l.map Prod.fst).Nodup) : l.reverse.lookup x = l.lookup x := by
  induction l with
  | nil => rfl
  | cons p r ih =>
    obtain ⟨a, b⟩ := p
    rw [List.map_cons, List.nodup_cons] at h
    rw [List.reverse_cons, List.lookup_append, ih h.2, lookup_entry, lookup_entry]
    by_cases hx : x = a
    · subst hx
      simp [lookup_of_notMem h.1]
    · simp [hx]

/-- The parameters that are laid over others win. -/
theorem get?_merge (p q : Params) (x : String) :
    (p.merge q).get? x = (q.get? x).or (p.get? x) := by
  rw [merge, get?_insertAll, lookup_reverse q.nodup]
  rfl

end Params

end AppLinks
