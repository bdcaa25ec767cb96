import AppLinks.Json.Parse
import AppLinks.Params
import AppLinks.Proofs.Result
import AppLinks.Toml.Value
import Mathlib.Data.String.Basic

/-!
The order of fields.

In a value that was read, be it from JSON or from TOML, the names of every object increase. So no
name comes twice, and laying fields over others is known from what each name stands for.
-/

namespace AppLinks.Json

open Params Result

namespace Value

/-- Fields whose names increase. -/
def InOrder (fields : Fields) : Prop := fields.Pairwise fun a b => a.1 < b.1

/-- Values in which the names of every object increase. -/
inductive Ordered : Value → Prop where
  | null : Ordered .null
  | bool (b : Bool) : Ordered (.bool b)
  | number (n : Number) : Ordered (.number n)
  | string (s : String) : Ordered (.string s)
  | array {items : List Value} : (∀ v ∈ items, Ordered v) → Ordered (.array items)
  | object {fields : Fields} :
      InOrder fields → (∀ kv ∈ fields, Ordered kv.2) → Ordered (.object fields)

/-! ### Setting fields -/

lemma InOrder.nodup {fields : Fields} (h : InOrder fields) : (fields.map Prod.fst).Nodup :=
  List.Pairwise.map _ (fun _ _ => ne_of_lt) h

/-- Nothing has a name before the first one. -/
lemma InOrder.lookup_eq_none {k : String} {v : Value} {r : Fields} (h : InOrder ((k, v) :: r))
    {n : String} (hn : n < k) : ((k, v) :: r).lookup n = none := by
  refine List.lookup_eq_none_iff.2 fun kv hkv => bne_iff_ne.2 ?_
  rcases List.mem_cons.1 hkv with rfl | hkv
  · exact hn.ne
  · exact (hn.trans ((List.pairwise_cons.1 h).1 kv hkv)).ne

lemma lookup_setField (k : String) (v : Value) (x : String) (fields : Fields) :
    (setField k v fields).lookup x = if x = k then some v else fields.lookup x := by
  induction fields with
  | nil => exact lookup_entry k v x []
  | cons kv r ih =>
    obtain ⟨a, b⟩ := kv
    unfold setField
    split_ifs with hka hlt <;> simp only [lookup_entry, ih] <;> split_ifs <;> simp_all

lemma mem_setField {k : String} {v : Value} {fields : Fields} {kv : String × Value}
    (h : kv ∈ setField k v fields) : kv = (k, v) ∨ kv ∈ fields := by
  induction fields with
  | nil => exact .inl (List.mem_singleton.1 h)
  | cons p r ih =>
    obtain ⟨a, b⟩ := p
    unfold setField at h
    split_ifs at h
    · rcases List.mem_cons.1 h with h | h
      · exact .inl h
      · exact .inr (List.mem_cons_of_mem _ h)
    · exact List.mem_cons.1 h
    · rcases List.mem_cons.1 h with h | h
      · exact .inr (h ▸ List.mem_cons_self)
      · exact (ih h).imp_right (List.mem_cons_of_mem _)

/-- A field that is set goes where its name belongs. -/
lemma InOrder.setField {fields : Fields} (h : InOrder fields) (k : String) (v : Value) :
    InOrder (setField k v fields) := by
  induction fields with
  | nil => exact List.pairwise_singleton _ _
  | cons p r ih =>
    obtain ⟨a, b⟩ := p
    obtain ⟨hfirst, hrest⟩ := List.pairwise_cons.1 h
    unfold Value.setField
    split_ifs with hka hlt
    · subst hka
      exact List.pairwise_cons.2 ⟨hfirst, hrest⟩
    · refine List.pairwise_cons.2 ⟨fun kv hkv => ?_, h⟩
      rcases List.mem_cons.1 hkv with rfl | hkv
      · exact hlt
      · exact lt_trans hlt (hfirst kv hkv)
    · refine List.pairwise_cons.2 ⟨fun kv hkv => ?_, ih hrest⟩
      rcases mem_setField hkv with rfl | hkv
      · exact lt_of_le_of_ne (not_lt.1 hlt) (Ne.symm hka)
      · exact hfirst kv hkv

/-- Fields that are set one after another are in order, and the last one of a name counts. -/
lemma foldl_setField (fs : Fields) {fields : Fields} (h : InOrder fields) :
    let set := fs.foldl (fun fields kv => setField kv.1 kv.2 fields) fields
    InOrder set ∧ (∀ x, set.lookup x = (fs.reverse.lookup x).or (fields.lookup x)) ∧
      ∀ kv ∈ set, kv ∈ fs ∨ kv ∈ fields := by
  induction fs generalizing fields with
  | nil => exact ⟨h, fun _ => rfl, fun _ => .inr⟩
  | cons p fs ih =>
    obtain ⟨k, v⟩ := p
    obtain ⟨horder, hlookup, hmem⟩ := ih (h.setField k v)
    refine ⟨horder, fun x => ?_, fun kv hkv => ?_⟩
    · rw [List.foldl_cons, hlookup, lookup_setField, List.reverse_cons, List.lookup_append,
        lookup_entry]
      by_cases hx : x = k <;> simp [hx]
    · rcases hmem kv hkv with hkv | hkv
      · exact .inl (List.mem_cons_of_mem _ hkv)
      · rcases mem_setField hkv with rfl | hkv
        · exact .inl List.mem_cons_self
        · exact .inr hkv

lemma ofFields_eq (fs : Fields) :
    ∃ fields, ofFields fs = .object fields ∧ InOrder fields ∧
      ∀ x, fields.lookup x = fs.reverse.lookup x := by
  obtain ⟨horder, hlookup, -⟩ := foldl_setField fs (List.Pairwise.nil : InOrder [])
  exact ⟨_, rfl, horder, fun x => by rw [hlookup, List.lookup_nil, Option.or_none]⟩

lemma ordered_ofFields {fs : Fields} (h : ∀ kv ∈ fs, kv.2.Ordered) : (ofFields fs).Ordered := by
  obtain ⟨horder, -, hmem⟩ := foldl_setField fs (List.Pairwise.nil : InOrder [])
  exact .object horder fun kv hkv => h kv ((hmem kv hkv).resolve_right List.not_mem_nil)

lemma Ordered.inOrder {fields : Fields} (h : (Value.object fields).Ordered) : InOrder fields := by
  cases h with
  | object horder _ => exact horder

lemma Ordered.lookup {fields : Fields} (h : (Value.object fields).Ordered) {k : String} {v : Value}
    (hv : fields.lookup k = some v) : v.Ordered := by
  cases h with
  | object _ hvalues =>
    exact hvalues (k, v) (mem_of_lookup hv)

/-! ### Laying fields over others -/

lemma inOrder_overlayFields {below : Fields} (h : InOrder below) (fields : Fields) :
    InOrder (overlayFields below fields) := by
  induction fields generalizing below with
  | nil => exact h
  | cons kv r ih => exact ih (h.setField _ _)

/-- Of fields that are laid over others each is laid over the one of its name. -/
lemma lookup_overlayFields {fields : Fields} (h : (fields.map Prod.fst).Nodup) (below : Fields)
    (x : String) : (overlayFields below fields).lookup x =
      ((fields.lookup x).map fun v => (below.lookup x).elim v (overlay · v)).or
        (below.lookup x) := by
  induction fields generalizing below with
  | nil => rfl
  | cons kv r ih =>
    obtain ⟨k, v⟩ := kv
    obtain ⟨hk, hr⟩ := List.nodup_cons.1 h
    rw [overlayFields, ih hr, lookup_setField, lookup_entry]
    by_cases hx : x = k
    · subst hx
      rw [lookup_of_notMem hk]
      cases below.lookup x <;> simp
    · simp [hx]

end Value

/-! ### Values that are read -/

lemma misplaced_ne_ok {α : Type} {s : List Char} {a : α} : misplaced s ≠ .ok a := by
  cases s <;> exact fun h => nomatch h

lemma eq_of_expectWord {word s r : List Char} {v w : Value}
    (h : expectWord word v s = .ok (w, r)) : w = v := by
  unfold expectWord at h
  split at h
  · cases h
    rfl
  · exact absurd h misplaced_ne_ok

lemma ordered_readItems {item : List Char → Except SyntaxError (Value × List Char)}
    (hitem : ∀ s v r, item s = .ok (v, r) → v.Ordered) {fuel : Nat} {s r : List Char}
    {vs : List Value} (h : readItems item fuel s = .ok (vs, r)) : ∀ v ∈ vs, v.Ordered := by
  induction fuel generalizing s r vs with
  | zero => cases h
  | succ fuel ih =>
    obtain ⟨⟨v, s'⟩, hv, h⟩ := bind_eq_ok.1 h
    dsimp only at h
    split at h
    · cases h
      simpa using hitem _ _ _ hv
    · obtain ⟨⟨vs', r'⟩, hvs, h⟩ := bind_eq_ok.1 h
      cases h
      exact List.forall_mem_cons.2 ⟨hitem _ _ _ hv, ih hvs⟩
    · exact absurd h misplaced_ne_ok

lemma ordered_readFields {item : List Char → Except SyntaxError (Value × List Char)}
    (hitem : ∀ s v r, item s = .ok (v, r) → v.Ordered) {fuel : Nat} {s r : List Char}
    {fs : Value.Fields} (h : readFields item fuel s = .ok (fs, r)) :
    ∀ kv ∈ fs, kv.2.Ordered := by
  induction fuel generalizing s r fs with
  | zero => cases h
  | succ fuel ih =>
    obtain ⟨⟨k, s'⟩, -, h⟩ := bind_eq_ok.1 h
    dsimp only at h
    split at h
    · obtain ⟨⟨v, s'⟩, hv, h⟩ := bind_eq_ok.1 h
      dsimp only at h
      split at h
      · cases h
        simpa using hitem _ _ _ hv
      · obtain ⟨⟨fs', r'⟩, hfs, h⟩ := bind_eq_ok.1 h
        cases h
        exact List.forall_mem_cons.2 ⟨hitem _ _ _ hv, ih hfs⟩
      · exact absurd h misplaced_ne_ok
    · exact absurd h misplaced_ne_ok

lemma ordered_readValue {depth : Nat} {s r : List Char} {v : Value}
    (h : readValue depth s = .ok (v, r)) : v.Ordered := by
  induction depth using Nat.strongRecOn generalizing s r v with
  | ind depth ih =>
    -- the values one level deeper are ordered
    have hitem : ∀ d < depth, ∀ s v r, readValue d s = .ok (v, r) → v.Ordered :=
      fun d hd _ _ _ h => ih d hd h
    unfold readValue at h
    split at h
    · exact eq_of_expectWord h ▸ .null
    · exact eq_of_expectWord h ▸ .bool _
    · exact eq_of_expectWord h ▸ .bool _
    · obtain ⟨⟨t, r'⟩, -, h⟩ := bind_eq_ok.1 h
      cases h
      exact .string t
    · cases depth with
      | zero => cases h
      | succ d =>
        dsimp only at h
        split at h
        · cases h
          exact .array (by simp)
        · obtain ⟨⟨vs, r'⟩, hvs, h⟩ := bind_eq_ok.1 h
          cases h
          exact .array (ordered_readItems (hitem d d.lt_succ_self) hvs)
    · cases depth with
      | zero => cases h
      | succ d =>
        dsimp only at h
        split at h
        · cases h
          exact .object List.Pairwise.nil (by simp)
        · obtain ⟨⟨fs, r'⟩, hfs, h⟩ := bind_eq_ok.1 h
          cases h
          exact Value.ordered_ofFields (ordered_readFields (hitem d d.lt_succ_self) hfs)
    · split at h
      · obtain ⟨⟨n, r'⟩, -, h⟩ := bind_eq_ok.1 h
        cases h
        exact .number n
      · cases h
    · cases h

/-- A value that is read from a text is ordered. -/
lemma ordered_of_parse {text : String} {v : Value} (h : parse text = .ok v) : v.Ordered := by
  obtain ⟨⟨w, r⟩, hw, h⟩ := bind_eq_ok.1 h
  dsimp only at h
  split at h
  · cases h
    exact ordered_readValue hw
  · cases h

end AppLinks.Json

namespace AppLinks.Toml.Value

open Json.Value (ordered_ofFields)

mutual

/-- A value that says the same as one of TOML is ordered. -/
lemma ordered_toJson : (v : Value) → v.toJson.Ordered
  | .string s => .string s
  | .integer n => .number (.int n)
  | .float b => by
    unfold toJson
    split
    · exact .number _
    · exact .null
  | .boolean b => .bool b
  | .moment text => .string text
  | .array items => .array (ordered_itemsToJson items)
  | .table fields => ordered_ofFields (ordered_fieldsToJson fields)

lemma ordered_itemsToJson : (items : List Value) → ∀ v ∈ itemsToJson items, v.Ordered
  | [] => by simp [itemsToJson]
  | v :: vs => List.forall_mem_cons.2 ⟨ordered_toJson v, ordered_itemsToJson vs⟩

lemma ordered_fieldsToJson :
    (fields : List (String × Value)) → ∀ kv ∈ fieldsToJson fields, kv.2.Ordered
  | [] => by simp [fieldsToJson]
  | (_, v) :: r => List.forall_mem_cons.2 ⟨ordered_toJson v, ordered_fieldsToJson r⟩

end

end AppLinks.Toml.Value
