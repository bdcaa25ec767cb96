import AppLinks.Params
import AppLinks.Toml.Parse
import Mathlib.Data.List.Nodup
import Mathlib.Tactic.Common

/-!
The keys of a document.

A key is given a value only once: what would give a table a second field of one name is refused. So
in a document that is read no table has two fields of one name, at any level, whether it was put
together from headers, from dotted keys or in braces.
-/

namespace AppLinks.Toml

/-- Values in which no table has two fields of one name. -/
inductive Value.Distinct : Value → Prop where
  | string (s : String) : Distinct (.string s)
  | integer (n : Int) : Distinct (.integer n)
  | float (b : Decimal.Binary64) : Distinct (.float b)
  | boolean (b : Bool) : Distinct (.boolean b)
  | moment (text : String) : Distinct (.moment text)
  | array {items : List Value} : (∀ v ∈ items, Distinct v) → Distinct (.array items)
  | table {fields : List (String × Value)} :
      (fields.map Prod.fst).Nodup → (∀ kv ∈ fields, Distinct kv.2) → Distinct (.table fields)

/-- The same for what keys lead to while a document is read. -/
inductive Node.Distinct : Node → Prop where
  | value {v : Value} : v.Distinct → Distinct (.value v)
  | table {origin : Origin} {fields : List (String × Node)} :
      (fields.map Prod.fst).Nodup → (∀ kn ∈ fields, Distinct kn.2) →
        Distinct (.table origin fields)
  | tables {closed : List (List (String × Node))} {last : List (String × Node)} :
      (∀ fs ∈ closed ++ [last], (fs.map Prod.fst).Nodup) →
        (∀ fs ∈ closed ++ [last], ∀ kn ∈ fs, Distinct kn.2) → Distinct (.tables closed last)

/-- Fields of different names, in which no table has two fields of one name. -/
structure Fields.Distinct (fields : Fields) : Prop where
  nodup : (fields.map Prod.fst).Nodup
  nodes : ∀ kn ∈ fields, kn.2.Distinct

variable {fields fields' : Fields} {k : String} {n : Node} {v : Value}

/-! ### Building tables -/

lemma Fields.distinct_nil : Fields.Distinct [] := ⟨List.nodup_nil, by simp⟩

lemma distinct_table_iff {origin : Origin} :
    (Node.table origin fields).Distinct ↔ fields.Distinct := by
  refine ⟨fun h => ?_, fun h => .table h.nodup h.nodes⟩
  cases h with
  | table hnodup hnodes => exact ⟨hnodup, hnodes⟩

lemma distinct_tables_iff {closed : List Fields} {last : Fields} :
    (Node.tables closed last).Distinct ↔ ∀ fs ∈ closed ++ [last], Fields.Distinct fs := by
  refine ⟨fun h fs hfs => ?_, fun h => .tables (fun fs hfs => (h fs hfs).nodup)
    fun fs hfs => (h fs hfs).nodes⟩
  cases h with
  | tables hnodup hnodes => exact ⟨hnodup fs hfs, hnodes fs hfs⟩

lemma Fields.Distinct.lookup (h : fields.Distinct) (hn : fields.lookup k = some n) :
    n.Distinct :=
  h.nodes (k, n) (Params.mem_of_lookup hn)

lemma Fields.map_fst_replace (k : String) (n : Node) (fields : Fields) :
    (Fields.replace k n fields).map Prod.fst = fields.map Prod.fst := by
  induction fields with
  | nil => rfl
  | cons kn r ih =>
    obtain ⟨a, b⟩ := kn
    unfold Fields.replace
    split
    · rfl
    · rw [List.map_cons, List.map_cons, ih]

lemma Fields.mem_replace {kn : String × Node} (h : kn ∈ Fields.replace k n fields) :
    kn ∈ fields ∨ kn.2 = n := by
  induction fields with
  | nil => cases h
  | cons p r ih =>
    obtain ⟨a, b⟩ := p
    unfold Fields.replace at h
    split at h
    · rcases List.mem_cons.1 h with rfl | h
      · exact .inr rfl
      · exact .inl (List.mem_cons_of_mem _ h)
    · rcases List.mem_cons.1 h with rfl | h
      · exact .inl List.mem_cons_self
      · exact (ih h).imp_left (List.mem_cons_of_mem _)

lemma Fields.Distinct.replace (h : fields.Distinct) (hn : n.Distinct) (k : String) :
    (Fields.replace k n fields).Distinct := by
  refine ⟨by rw [map_fst_replace]; exact h.nodup, fun kn hkn => ?_⟩
  rcases mem_replace hkn with hkn | hkn
  · exact h.nodes kn hkn
  · exact hkn ▸ hn

lemma Fields.Distinct.concat (h : fields.Distinct) (hk : fields.lookup k = none)
    (hn : n.Distinct) : Fields.Distinct (fields ++ [(k, n)]) := by
  have hfresh : k ∉ fields.map Prod.fst := by
    rintro hmem
    obtain ⟨kn, hkn, rfl⟩ := List.mem_map.1 hmem
    simpa using List.lookup_eq_none_iff.1 hk kn hkn
  refine ⟨?_, fun kn hkn => ?_⟩
  · rw [List.map_append, List.map_singleton]
    exact List.nodup_append_comm.1 (List.nodup_cons.2 ⟨hfresh, h.nodup⟩)
  · rcases List.mem_append.1 hkn with hkn | hkn
    · exact h.nodes kn hkn
    · rw [List.mem_singleton.1 hkn]
      exact hn

/-- Changing a table somewhere below keeps the names of all others. -/
lemma distinct_descend {dotted : Bool} {change : Origin → Fields → Option Fields}
    (hchange : ∀ origin fs fs', Fields.Distinct fs → change origin fs = some fs' →
      Fields.Distinct fs') {path : List String} {origin : Origin} (hfields : fields.Distinct)
    (h : descend dotted change path origin fields = some fields') : fields'.Distinct := by
  induction path generalizing origin fields fields' with
  | nil => exact hchange origin fields fields' hfields h
  | cons k path ih =>
    unfold descend at h
    split at h
    · rename_i hk
      obtain ⟨below, hbelow, h⟩ := Option.bind_eq_some_iff.1 h
      cases h
      exact hfields.concat hk (distinct_table_iff.2 (ih Fields.distinct_nil hbelow))
    · cases h
    · rename_i closed last hk
      obtain ⟨last', hlast', h⟩ := Option.bind_eq_some_iff.1 h
      cases h
      have hall := distinct_tables_iff.1 (hfields.lookup hk)
      refine hfields.replace (distinct_tables_iff.2 fun fs hfs => ?_) k
      rcases List.mem_append.1 hfs with hfs | hfs
      · exact hall fs (List.mem_append_left _ hfs)
      · rw [List.mem_singleton.1 hfs]
        exact ih (hall last (by simp)) hlast'
    · rename_i origin' below hk
      split at h
      · cases h
      · obtain ⟨below', hbelow', h⟩ := Option.bind_eq_some_iff.1 h
        cases h
        have hbelow := distinct_table_iff.1 (hfields.lookup hk)
        exact hfields.replace (distinct_table_iff.2 (ih hbelow hbelow')) k

lemma distinct_addValue {path : List String} (hv : v.Distinct) (hfields : fields.Distinct)
    (h : addValue path v fields = some fields') : fields'.Distinct := by
  unfold addValue at h
  split at h
  · cases h
  · refine distinct_descend (fun origin fs fs' hfs hadd => ?_) hfields h
    split at hadd
    · cases hadd
    · split at hadd
      · cases hadd
      · rename_i hk
        cases hadd
        exact hfs.concat (Option.not_isSome_iff_eq_none.1 hk) (.value hv)

lemma distinct_openTable {path : List String} (hfields : fields.Distinct)
    (h : openTable path fields = some fields') : fields'.Distinct := by
  unfold openTable at h
  split at h
  · cases h
  · refine distinct_descend (fun origin fs fs' hfs hstart => ?_) hfields h
    split at hstart
    · rename_i hk
      cases hstart
      exact hfs.concat hk (distinct_table_iff.2 Fields.distinct_nil)
    · rename_i below hk
      cases hstart
      exact hfs.replace (distinct_table_iff.2 (distinct_table_iff.1 (hfs.lookup hk))) _
    · cases hstart

lemma distinct_openItem {path : List String} (hfields : fields.Distinct)
    (h : openItem path fields = some fields') : fields'.Distinct := by
  unfold openItem at h
  split at h
  · cases h
  · refine distinct_descend (fun origin fs fs' hfs hstart => ?_) hfields h
    split at hstart
    · rename_i hk
      cases hstart
      refine hfs.concat hk (distinct_tables_iff.2 fun fs' hfs' => ?_)
      rw [List.mem_singleton.1 hfs']
      exact Fields.distinct_nil
    · rename_i closed last hk
      cases hstart
      have hall := distinct_tables_iff.1 (hfs.lookup hk)
      refine hfs.replace (distinct_tables_iff.2 fun fs' hfs' => ?_) _
      rcases List.mem_append.1 hfs' with hfs' | hfs'
      · exact hall fs' hfs'
      · rw [List.mem_singleton.1 hfs']
        exact Fields.distinct_nil
    · cases hstart

/-! ### From tables to values -/

lemma fieldsToValue_eq_map (fields : Fields) :
    fieldsToValue fields = fields.map fun kn => (kn.1, kn.2.toValue) := by
  induction fields with
  | nil => rfl
  | cons kn r ih =>
    rw [fieldsToValue, ih]
    rfl

lemma tablesToValue_eq_map (tables : List Fields) :
    tablesToValue tables = tables.map fun fs => .table (fieldsToValue fs) := by
  induction tables with
  | nil => rfl
  | cons fs r ih =>
    rw [tablesToValue, ih]
    rfl

lemma distinct_table_of_fields (hnodup : (fields.map Prod.fst).Nodup)
    (hvalues : ∀ kn ∈ fields, kn.2.toValue.Distinct) :
    (Value.table (fieldsToValue fields)).Distinct := by
  rw [fieldsToValue_eq_map]
  refine .table ?_ fun kv hkv => ?_
  · rwa [List.map_map]
  · obtain ⟨kn, hkn, rfl⟩ := List.mem_map.1 hkv
    exact hvalues kn hkn

lemma Node.Distinct.toValue (h : n.Distinct) : n.toValue.Distinct := by
  induction h with
  | value hv => exact hv
  | table hnodup _ ih => exact distinct_table_of_fields hnodup ih
  | @tables closed last hnodup _ ih =>
    have hitems : tablesToValue closed ++ [.table (fieldsToValue last)] =
        (closed ++ [last]).map fun fs => Value.table (fieldsToValue fs) := by
      rw [tablesToValue_eq_map, List.map_append, List.map_singleton]
    rw [Node.toValue, hitems]
    refine .array fun v hv => ?_
    obtain ⟨fs, hfs, rfl⟩ := List.mem_map.1 hv
    exact distinct_table_of_fields (hnodup fs hfs) (ih fs hfs)

lemma Fields.Distinct.toValue (h : fields.Distinct) :
    (Value.table (fieldsToValue fields)).Distinct :=
  distinct_table_of_fields h.nodup fun kn hkn => (h.nodes kn hkn).toValue

/-- What a line says has no table with two fields of one name. -/
def Statement.Distinct : Statement → Prop
  | .field _ v => v.Distinct
  | _ => True

/-- **A line keeps the names of a document distinct.** -/
lemma Draft.distinct_add {d d' : Draft} {st : Statement} (hd : d.fields.Distinct)
    (hst : st.Distinct) (h : d.add st = some d') : d'.fields.Distinct := by
  cases st with
  | header path =>
    obtain ⟨fields, hfields, h⟩ := Option.bind_eq_some_iff.1 h
    cases h
    exact distinct_openTable hd hfields
  | item path =>
    obtain ⟨fields, hfields, h⟩ := Option.bind_eq_some_iff.1 h
    cases h
    exact distinct_openItem hd hfields
  | field path v =>
    obtain ⟨fields, hfields, h⟩ := Option.bind_eq_some_iff.1 h
    cases h
    exact distinct_descend (fun _ _ _ hfs => distinct_addValue hst hfs) hd hfields

/-- What each step keeps, all of them keep. -/
lemma foldlM_keeps {α β : Type} {P : β → Prop} {step : β → α → Option β} {items : List α}
    (hstep : ∀ a ∈ items, ∀ b b', P b → step b a = some b' → P b') {b b' : β} (hb : P b)
    (h : items.foldlM step b = some b') : P b' := by
  induction items generalizing b with
  | nil =>
    cases h
    exact hb
  | cons a items ih =>
    rw [List.foldlM_cons] at h
    obtain ⟨c, hc, h⟩ := Option.bind_eq_some_iff.1 h
    exact ih (fun a' ha' => hstep a' (List.mem_cons_of_mem _ ha'))
      (hstep a List.mem_cons_self b c hb hc) h

/-- All lines of a document keep its names distinct. -/
lemma distinct_ofStatements {statements : List Statement}
    (hstatements : ∀ st ∈ statements, st.Distinct) (h : ofStatements statements = some v) :
    v.Distinct := by
  obtain ⟨d, hd, h⟩ := Option.bind_eq_some_iff.1 h
  cases h
  exact (foldlM_keeps (P := fun d : Draft => d.fields.Distinct)
    (fun st hst _ _ hd => Draft.distinct_add hd (hstatements st hst))
    Fields.distinct_nil hd).toValue

lemma distinct_ofPairs {pairs : List (List String × Value)} (hpairs : ∀ p ∈ pairs, p.2.Distinct)
    (h : ofPairs pairs = some v) : v.Distinct := by
  obtain ⟨fields, hfields, h⟩ := Option.bind_eq_some_iff.1 h
  cases h
  exact (foldlM_keeps (P := Fields.Distinct)
    (fun p hp _ _ hfs => distinct_addValue (hpairs p hp) hfs) Fields.distinct_nil hfields).toValue

/-! ### Reading -/

section Reading

variable {s r : List Char}

lemma distinct_integer? {i : Int} (h : integer? i = some v) : v.Distinct := by
  unfold integer? at h
  split at h
  · cases h
    exact .integer i
  · cases h

lemma distinct_signed? {negative : Bool} {b : Decimal.Binary64}
    (h : signed? negative b = some v) : v.Distinct := by
  unfold signed? at h
  split at h
  · cases h
    exact .float _
  · split at h
    · cases h
    · cases h
      exact .float _

lemma distinct_readBased {base : Nat} (h : readBased base s = some (v, r)) : v.Distinct := by
  obtain ⟨⟨ds, rest⟩, -, h⟩ := Option.bind_eq_some_iff.1 h
  obtain ⟨w, hw, h⟩ := Option.bind_eq_some_iff.1 h
  cases h
  exact distinct_integer? hw

lemma distinct_readDecimal {negative : Bool} (h : readDecimal negative s = some (v, r)) :
    v.Distinct := by
  obtain ⟨⟨ds, rest⟩, -, h⟩ := Option.bind_eq_some_iff.1 h
  dsimp only at h
  split at h
  · cases h
  · split at h
    · obtain ⟨⟨after, rest⟩, -, h⟩ := Option.bind_eq_some_iff.1 h
      obtain ⟨⟨e, rest⟩, -, h⟩ := Option.bind_eq_some_iff.1 h
      obtain ⟨w, hw, h⟩ := Option.bind_eq_some_iff.1 h
      cases h
      exact distinct_signed? hw
    · obtain ⟨⟨e, rest⟩, -, h⟩ := Option.bind_eq_some_iff.1 h
      split at h
      · obtain ⟨w, hw, h⟩ := Option.bind_eq_some_iff.1 h
        cases h
        exact distinct_signed? hw
      · obtain ⟨w, hw, h⟩ := Option.bind_eq_some_iff.1 h
        cases h
        exact distinct_integer? hw

lemma distinct_readSigned {negative : Bool} (h : readSigned negative s = some (v, r)) :
    v.Distinct := by
  unfold readSigned at h
  split at h
  · cases h
    exact .float _
  · cases h
    exact .float _
  · exact distinct_readDecimal h

lemma distinct_readNumber (h : readNumber s = some (v, r)) : v.Distinct := by
  unfold readNumber at h
  split at h
  · exact distinct_readSigned h
  · exact distinct_readSigned h
  · exact distinct_readBased h
  · exact distinct_readBased h
  · exact distinct_readBased h
  · exact distinct_readSigned h

lemma moment_of_readMoment (h : readMoment s = some (v, r)) : ∃ t, v = .moment t := by
  unfold readMoment at h
  dsimp only at h
  split at h
  · obtain ⟨⟨time, rest⟩, -, h⟩ := Option.bind_eq_some_iff.1 h
    cases h
    exact ⟨_, rfl⟩
  · obtain ⟨⟨date, rest⟩, -, h⟩ := Option.bind_eq_some_iff.1 h
    dsimp only at h
    split at h
    · split at h
      · split at h
        · cases h
          exact ⟨_, rfl⟩
        · cases h
          exact ⟨_, rfl⟩
      · cases h
        exact ⟨_, rfl⟩
    · cases h
      exact ⟨_, rfl⟩

lemma eq_of_expectWord {word : List Char} {w : Value} (h : expectWord word w s = some (v, r)) :
    v = w := by
  unfold expectWord at h
  split at h
  · cases h
    rfl
  · cases h

/-- Whatever a reader reads has no table with two fields of one name. -/
def ReadsDistinct (item : List Char → Option (Value × List Char)) : Prop :=
  ∀ s v r, item s = some (v, r) → v.Distinct

variable {item : List Char → Option (Value × List Char)} {fuel : Nat}

lemma distinct_readItems (hitem : ReadsDistinct item) {vs : List Value}
    (h : readItems item fuel s = some (vs, r)) : ∀ v ∈ vs, v.Distinct := by
  induction fuel generalizing s r vs with
  | zero => cases h
  | succ fuel ih =>
    unfold readItems at h
    split at h
    · cases h
      simp
    · obtain ⟨⟨v, rest⟩, hv, h⟩ := Option.bind_eq_some_iff.1 h
      dsimp only at h
      split at h
      · cases h
        simpa using hitem _ _ _ hv
      · obtain ⟨⟨vs', rest⟩, hvs, h⟩ := Option.bind_eq_some_iff.1 h
        cases h
        exact List.forall_mem_cons.2 ⟨hitem _ _ _ hv, ih hvs⟩
      · cases h

lemma distinct_readPair (hitem : ReadsDistinct item) {p : List String × Value}
    (h : readPair item s = some (p, r)) : p.2.Distinct := by
  obtain ⟨⟨path, rest⟩, -, h⟩ := Option.bind_eq_some_iff.1 h
  obtain ⟨rest, -, h⟩ := Option.bind_eq_some_iff.1 h
  obtain ⟨⟨v, rest⟩, hv, h⟩ := Option.bind_eq_some_iff.1 h
  cases h
  exact hitem _ _ _ hv

lemma distinct_readPairs (hitem : ReadsDistinct item) {ps : List (List String × Value)}
    (h : readPairs item fuel s = some (ps, r)) : ∀ p ∈ ps, p.2.Distinct := by
  induction fuel generalizing s r ps with
  | zero => cases h
  | succ fuel ih =>
    obtain ⟨⟨p, rest⟩, hp, h⟩ := Option.bind_eq_some_iff.1 h
    dsimp only at h
    split at h
    · cases h
      simpa using distinct_readPair hitem hp
    · obtain ⟨⟨ps', rest⟩, hps, h⟩ := Option.bind_eq_some_iff.1 h
      cases h
      exact List.forall_mem_cons.2 ⟨distinct_readPair hitem hp, ih hps⟩
    · cases h

/-- The values one level deeper carry the induction. -/
lemma distinct_readValue (depth : Nat) : ReadsDistinct (readValue depth) := by
  induction depth using Nat.strongRecOn with
  | ind depth ih =>
    intro s v r h
    unfold readValue at h
    split at h
    · obtain ⟨⟨t, rest⟩, -, h⟩ := Option.bind_eq_some_iff.1 h
      cases h
      exact .string t
    · obtain ⟨⟨t, rest⟩, -, h⟩ := Option.bind_eq_some_iff.1 h
      cases h
      exact .string t
    · cases depth with
      | zero => cases h
      | succ d =>
        obtain ⟨⟨vs, rest⟩, hvs, h⟩ := Option.bind_eq_some_iff.1 h
        cases h
        exact .array (distinct_readItems (ih d d.lt_succ_self) hvs)
    · cases depth with
      | zero => cases h
      | succ d =>
        dsimp only at h
        split at h
        · cases h
          exact .table List.nodup_nil (by simp)
        · obtain ⟨⟨ps, rest⟩, hps, h⟩ := Option.bind_eq_some_iff.1 h
          obtain ⟨w, hw, h⟩ := Option.bind_eq_some_iff.1 h
          cases h
          exact distinct_ofPairs (distinct_readPairs (ih d d.lt_succ_self) hps) hw
    · exact eq_of_expectWord h ▸ .boolean true
    · exact eq_of_expectWord h ▸ .boolean false
    · split at h
      · obtain ⟨t, rfl⟩ := moment_of_readMoment h
        exact .moment t
      · exact distinct_readNumber h

lemma distinct_readHeader {make : List String → Statement} (hmake : ∀ path, (make path).Distinct)
    {close : List Char} {st : Statement} (h : readHeader make close s = some (st, r)) :
    st.Distinct := by
  obtain ⟨⟨path, rest⟩, -, h⟩ := Option.bind_eq_some_iff.1 h
  dsimp only at h
  split at h
  · cases h
    exact hmake path
  · cases h

lemma distinct_readStatement {st : Statement} (h : readStatement s = some (st, r)) :
    st.Distinct := by
  unfold readStatement at h
  split at h
  · refine distinct_readHeader (fun path => ?_) h
    trivial
  · refine distinct_readHeader (fun path => ?_) h
    trivial
  · obtain ⟨⟨⟨path, v⟩, rest⟩, hp, h⟩ := Option.bind_eq_some_iff.1 h
    cases h
    exact distinct_readPair (distinct_readValue nestingLimit) hp

lemma distinct_readStatements {statements : List Statement}
    (h : readStatements fuel s = some statements) : ∀ st ∈ statements, st.Distinct := by
  induction fuel generalizing s statements with
  | zero => cases h
  | succ fuel ih =>
    unfold readStatements at h
    split at h
    · cases h
      simp
    · obtain ⟨⟨st, rest⟩, hst, h⟩ := Option.bind_eq_some_iff.1 h
      obtain ⟨rest, -, h⟩ := Option.bind_eq_some_iff.1 h
      obtain ⟨sts, hsts, h⟩ := Option.bind_eq_some_iff.1 h
      cases h
      exact List.forall_mem_cons.2 ⟨distinct_readStatement hst, ih hsts⟩

end Reading

/-! ### Tables in the place of moments -/

lemma mem_itemsWithMoments {items items' : List Value}
    (h : Value.itemsWithMoments items = some items') (hv : v ∈ items') :
    ∃ w ∈ items, w.withMoments = some v := by
  induction items generalizing items' with
  | nil =>
    cases h
    cases hv
  | cons w ws ih =>
    obtain ⟨w', hw', h⟩ := Option.bind_eq_some_iff.1 h
    obtain ⟨ws', hws', h⟩ := Option.bind_eq_some_iff.1 h
    cases h
    rcases List.mem_cons.1 hv with rfl | hv
    · exact ⟨w, List.mem_cons_self, hw'⟩
    · obtain ⟨u, hu, hread⟩ := ih hws' hv
      exact ⟨u, List.mem_cons_of_mem _ hu, hread⟩

lemma fieldsWithMoments_eq_some {fs fs' : List (String × Value)}
    (h : Value.fieldsWithMoments fs = some fs') :
    fs'.map Prod.fst = fs.map Prod.fst ∧
      ∀ kv ∈ fs', ∃ kw ∈ fs, kw.2.withMoments = some kv.2 := by
  induction fs generalizing fs' with
  | nil =>
    cases h
    exact ⟨rfl, by simp⟩
  | cons kw r ih =>
    obtain ⟨v, hv, h⟩ := Option.bind_eq_some_iff.1 h
    obtain ⟨r', hr', h⟩ := Option.bind_eq_some_iff.1 h
    cases h
    obtain ⟨hnames, hvalues⟩ := ih hr'
    refine ⟨congrArg (kw.1 :: ·) hnames, List.forall_mem_cons.2 ⟨⟨kw, by simp, hv⟩, ?_⟩⟩
    intro kv hkv
    obtain ⟨ku, hku, hread⟩ := hvalues kv hkv
    exact ⟨ku, List.mem_cons_of_mem _ hku, hread⟩

lemma moment_of_momentOfFields {fs : List (String × Value)} (h : momentOfFields fs = some v) :
    ∃ t, v = .moment t := by
  unfold momentOfFields at h
  split at h
  · split at h
    · rename_i hread
      cases h
      exact moment_of_readMoment hread
    · cases h
  · cases h

lemma Value.Distinct.withMoments {w : Value} (hw : w.Distinct) (h : w.withMoments = some v) :
    v.Distinct := by
  induction hw generalizing v with
  | string s =>
    cases h
    exact .string s
  | integer n =>
    cases h
    exact .integer n
  | float b =>
    cases h
    exact .float b
  | boolean b =>
    cases h
    exact .boolean b
  | moment text =>
    cases h
    exact .moment text
  | array _ ih =>
    obtain ⟨items, hitems, h⟩ := Option.bind_eq_some_iff.1 h
    cases h
    refine .array fun v hv => ?_
    obtain ⟨u, hu, hread⟩ := mem_itemsWithMoments hitems hv
    exact ih u hu hread
  | table hnodup _ ih =>
    unfold Value.withMoments at h
    split at h
    · obtain ⟨t, rfl⟩ := moment_of_momentOfFields h
      exact .moment t
    · obtain ⟨fields, hfields, h⟩ := Option.bind_eq_some_iff.1 h
      cases h
      obtain ⟨hnames, hvalues⟩ := fieldsWithMoments_eq_some hfields
      refine .table (hnames ▸ hnodup) fun kv hkv => ?_
      obtain ⟨ku, hku, hread⟩ := hvalues kv hkv
      exact ih ku hku hread

/-- A document is a table, or a moment if the text is all of a table that stands for one. -/
lemma table_or_moment_of_parse {text : String} (h : parse text = some v) :
    (∃ fields, v = .table fields) ∨ ∃ t, v = .moment t := by
  obtain ⟨statements, -, h⟩ := Option.bind_eq_some_iff.1 h
  obtain ⟨w, hw, h⟩ := Option.bind_eq_some_iff.1 h
  obtain ⟨d, -, hw⟩ := Option.bind_eq_some_iff.1 hw
  cases hw
  unfold Value.withMoments at h
  split at h
  · exact .inr (moment_of_momentOfFields h)
  · obtain ⟨fields, -, h⟩ := Option.bind_eq_some_iff.1 h
    cases h
    exact .inl ⟨fields, rfl⟩

/-- **No key is given two values**: in a document that is read no table has two fields of one
name. -/
theorem distinct_of_parse {text : String} (h : parse text = some v) : v.Distinct := by
  obtain ⟨statements, hstatements, h⟩ := Option.bind_eq_some_iff.1 h
  obtain ⟨w, hw, h⟩ := Option.bind_eq_some_iff.1 h
  exact (distinct_ofStatements (distinct_readStatements hstatements) hw).withMoments h

end AppLinks.Toml
