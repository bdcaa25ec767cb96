import AppLinks.Proofs.Json.Ordered
import AppLinks.Settings.Record

/-!
Settings and configurations as they are read from objects.

The fields of an ordered object come one after another, and those without a known name change
nothing. So reading an object is asking it for each known name, in the order of the names. The value
of settings is such an object, and is read as these settings.
-/

namespace AppLinks

open Json Json.Value Params Result

namespace Json

variable {α : Type} {set : α → String → Value → Except ShapeError α}

/-! ### Reading by name -/

/-- Sets the field of a name to what some fields have for it. -/
def setNamed (set : α → String → Value → Except ShapeError α) (fields : Fields) (a : α)
    (name : String) : Except ShapeError α :=
  match fields.lookup name with
  | some v => set a name v
  | none => .ok a

/-- The value of a field that may be missing. -/
def readField {β : Type} (read : Value → Except ShapeError β) (usual : β) :
    Option Value → Except ShapeError β
  | some v => read v
  | none => .ok usual

/-- A record is set by name as the field of that name is read. -/
lemma setNamed_eq {β : Type} {name : String} {read : Value → Except ShapeError β} {put : β → α}
    {a : α} {b : β} (hset : ∀ v, set a name v = put <$> read v) (hput : put b = a)
    (fields : Fields) :
    setNamed set fields a name = put <$> readField read b (fields.lookup name) := by
  unfold setNamed readField
  cases fields.lookup name with
  | none => exact congrArg Except.ok hput.symm
  | some v => exact hset v

lemma foldlM_setNamed_congr {fields fields' : Fields} {names : List String}
    (h : ∀ n ∈ names, fields.lookup n = fields'.lookup n) (a : α) :
    names.foldlM (setNamed set fields) a = names.foldlM (setNamed set fields') a := by
  induction names generalizing a with
  | nil => rfl
  | cons n names ih =>
    have hfirst : setNamed set fields a n = setNamed set fields' a n := by
      rw [setNamed, setNamed, h n (by simp)]
    rw [List.foldlM_cons, List.foldlM_cons, hfirst]
    exact bind_congr fun b => ih (fun m hm => h m (List.mem_cons_of_mem _ hm)) b

lemma foldlM_setNamed_absent {fields : Fields} {names : List String}
    (h : ∀ n ∈ names, fields.lookup n = none) (a : α) :
    names.foldlM (setNamed set fields) a = .ok a := by
  induction names with
  | nil => rfl
  | cons n names ih =>
    rw [List.foldlM_cons, setNamed, h n (by simp)]
    exact ih fun m hm => h m (List.mem_cons_of_mem _ hm)

/-- Fields in order are read as they are found under the known names. The induction is on the
fields, and takes with each field the names up to its own. -/
lemma foldlM_eq_setNamed {known : List String} (hknown : known.Pairwise (· < ·)) {fields : Fields}
    (hfields : InOrder fields) (hset : ∀ kv ∈ fields, kv.1 ∉ known → ∀ a, set a kv.1 kv.2 = .ok a)
    (a : α) : fields.foldlM (fun a kv => set a kv.1 kv.2) a =
      known.foldlM (setNamed set fields) a := by
  induction fields generalizing known a with
  | nil => exact (foldlM_setNamed_absent (fun _ _ => rfl) a).symm
  | cons kv r ih =>
    obtain ⟨k, v⟩ := kv
    obtain ⟨hfirst, hr⟩ := List.pairwise_cons.1 hfields
    have hrest {n : String} (hn : n ≠ k) : ((k, v) :: r).lookup n = r.lookup n := by
      rw [lookup_entry, if_neg hn]
    rw [List.foldlM_cons]
    by_cases hk : k ∈ known
    · obtain ⟨before, after, rfl⟩ := List.append_of_mem hk
      obtain ⟨-, hafter, hbefore⟩ := List.pairwise_append.1 hknown
      obtain ⟨hlater, hafter⟩ := List.pairwise_cons.1 hafter
      have habsent : ∀ n ∈ before, ((k, v) :: r).lookup n = none :=
        fun n hn => hfields.lookup_eq_none (hbefore n hn k List.mem_cons_self)
      have hown : setNamed set ((k, v) :: r) a k = set a k v := by
        rw [setNamed, lookup_entry, if_pos rfl]
      have hset' : ∀ kv ∈ r, kv.1 ∉ after → ∀ a, set a kv.1 kv.2 = .ok a := by
        intro kv hkv hnot
        refine hset kv (List.mem_cons_of_mem _ hkv) fun hmem => ?_
        rcases List.mem_append.1 hmem with hmem | hmem
        · exact lt_asymm (hbefore _ hmem k List.mem_cons_self) (hfirst kv hkv)
        · exact hnot ((List.mem_cons.1 hmem).resolve_left (ne_of_gt (hfirst kv hkv)))
      have hread (b : α) : r.foldlM (fun a kv => set a kv.1 kv.2) b =
          after.foldlM (setNamed set ((k, v) :: r)) b := by
        rw [ih hafter hr hset']
        exact foldlM_setNamed_congr (fun n hn => (hrest (ne_of_gt (hlater n hn))).symm) b
      calc set a k v >>= (fun b => r.foldlM (fun a kv => set a kv.1 kv.2) b)
          = setNamed set ((k, v) :: r) a k >>=
              after.foldlM (setNamed set ((k, v) :: r)) := by rw [hown]; exact bind_congr hread
        _ = (k :: after).foldlM (setNamed set ((k, v) :: r)) a := List.foldlM_cons.symm
        _ = (before ++ k :: after).foldlM (setNamed set ((k, v) :: r)) a := by
            rw [List.foldlM_append, foldlM_setNamed_absent habsent]
            rfl
    · rw [hset (k, v) List.mem_cons_self hk]
      calc r.foldlM (fun a kv => set a kv.1 kv.2) a
          = known.foldlM (setNamed set r) a :=
            ih hknown hr (fun kv hkv => hset kv (List.mem_cons_of_mem _ hkv)) a
        _ = known.foldlM (setNamed set ((k, v) :: r)) a :=
            foldlM_setNamed_congr (fun n hn => (hrest fun h => hk (h ▸ hn)).symm) a

/-- An ordered object is read by asking it for each known name. -/
lemma readRecord_object {known : List String} (hknown : known.Pairwise (· < ·))
    (hset : ∀ name ∉ known, ∀ v a, set a name v = .ok a) {fields : Fields}
    (hfields : InOrder fields) (expected : Expected) (names : List String) (start : α) :
    (Value.object fields).readRecord expected names set start =
      known.foldlM (setNamed set fields) start :=
  foldlM_eq_setNamed hknown hfields (fun kv _ hkv a => hset kv.1 hkv kv.2 a) start

end Json

/-! ### Objects of configurations and settings -/

namespace RouterConfig

lemma setField_unknown {name : String} (h : name ∉ fieldNames) (v : Value) (c : RouterConfig) :
    c.setField name v = .ok c := by
  unfold setField
  split
  · exact absurd (by decide) h
  · exact absurd (by decide) h
  · exact absurd (by decide) h
  · rfl

/-- A configuration is read from an object field by field, in the order of the names. -/
lemma ofJson_object {fields : Fields} (h : InOrder fields) : ofJson (.object fields) = (do
    let additionalHostPattern ← readField Value.asOptionalString none
      (fields.lookup "additional_host_pattern")
    let useNormalizedPaths ← readField Value.asBool false (fields.lookup "use_normalized_paths")
    let useStartAnchors ← readField Value.asBool false (fields.lookup "use_start_anchors")
    return { useStartAnchors, useNormalizedPaths, additionalHostPattern }) := by
  have hknown : fieldNames.reverse.Pairwise (· < ·) := by decide
  have hpattern (c : RouterConfig) : setNamed setField fields c "additional_host_pattern" =
      ({ c with additionalHostPattern := · }) <$>
        readField Value.asOptionalString c.additionalHostPattern
          (fields.lookup "additional_host_pattern") :=
    setNamed_eq (fun _ => rfl) (by rfl) fields
  have hnormalized (c : RouterConfig) : setNamed setField fields c "use_normalized_paths" =
      ({ c with useNormalizedPaths := · }) <$>
        readField Value.asBool c.useNormalizedPaths (fields.lookup "use_normalized_paths") :=
    setNamed_eq (fun _ => rfl) (by rfl) fields
  have hanchors (c : RouterConfig) : setNamed setField fields c "use_start_anchors" =
      ({ c with useStartAnchors := · }) <$>
        readField Value.asBool c.useStartAnchors (fields.lookup "use_start_anchors") :=
    setNamed_eq (fun _ => rfl) (by rfl) fields
  rw [ofJson, readRecord_object hknown (fun n hn => setField_unknown fun h => hn (by simpa using h))
    h]
  simp only [fieldNames, List.reverse_cons, List.reverse_nil, List.nil_append, List.cons_append,
    List.foldlM_cons, List.foldlM_nil, hpattern, hnormalized, hanchors, bind_map_left]

lemma toJson_object (c : RouterConfig) : ∃ fields, c.toJson = .object fields ∧ InOrder fields ∧
    fields.lookup "use_start_anchors" = some (.bool c.useStartAnchors) ∧
    fields.lookup "use_normalized_paths" = some (.bool c.useNormalizedPaths) ∧
    fields.lookup "additional_host_pattern" =
      some ((c.additionalHostPattern.map Value.string).getD .null) := by
  obtain ⟨fields, hobject, horder, hlookup⟩ := ofFields_eq
    [("use_start_anchors", .bool c.useStartAnchors),
      ("use_normalized_paths", .bool c.useNormalizedPaths),
      ("additional_host_pattern", (c.additionalHostPattern.map Value.string).getD .null)]
  refine ⟨fields, hobject, horder, ?_, ?_, ?_⟩ <;> rw [hlookup] <;> rfl

lemma asOptionalString_written (p : Option String) :
    Value.asOptionalString ((p.map Value.string).getD .null) = .ok p := by
  cases p <;> rfl

lemma ofJson_toJson (c : RouterConfig) : ofJson c.toJson = .ok c := by
  obtain ⟨fields, hobject, horder, hanchors, hnormalized, hpattern⟩ := c.toJson_object
  rw [hobject, ofJson_object horder, hanchors, hnormalized, hpattern]
  simp only [readField, asOptionalString_written]
  rfl

lemma ordered_toJson (c : RouterConfig) : c.toJson.Ordered := by
  refine ordered_ofFields ?_
  have hpattern : ((c.additionalHostPattern.map Value.string).getD .null).Ordered := by
    cases c.additionalHostPattern
    · exact .null
    · exact .string _
  simp only [List.forall_mem_cons, List.not_mem_nil, false_imp_iff, implies_true, and_true]
  exact ⟨.bool _, .bool _, hpattern⟩

end RouterConfig

namespace Settings

lemma setField_unknown {name : String} (h : name ∉ fieldNames) (v : Value) (s : Settings) :
    s.setField name v = .ok s := by
  unfold setField
  split
  · exact absurd (by decide) h
  · exact absurd (by decide) h
  · exact absurd (by decide) h
  · rfl

lemma ofJson_object {fields : Fields} (h : InOrder fields) : ofJson (.object fields) = (do
    let debug ← readField Value.asBool true (fields.lookup "debug")
    let logLevel ← readField Value.asString "info" (fields.lookup "log_level")
    let router ← readField RouterConfig.ofJson {} (fields.lookup "router")
    return { debug, logLevel, router }) := by
  have hknown : fieldNames.Pairwise (· < ·) := by decide
  have hdebug (s : Settings) : setNamed setField fields s "debug" =
      ({ s with debug := · }) <$> readField Value.asBool s.debug (fields.lookup "debug") :=
    setNamed_eq (fun _ => rfl) (by rfl) fields
  have hlog (s : Settings) : setNamed setField fields s "log_level" =
      ({ s with logLevel := · }) <$>
        readField Value.asString s.logLevel (fields.lookup "log_level") :=
    setNamed_eq (fun _ => rfl) (by rfl) fields
  have hrouter (s : Settings) : setNamed setField fields s "router" =
      ({ s with router := · }) <$>
        readField RouterConfig.ofJson s.router (fields.lookup "router") :=
    setNamed_eq (fun _ => rfl) (by rfl) fields
  rw [ofJson, readRecord_object hknown (fun n hn => setField_unknown hn) h]
  simp only [fieldNames, List.foldlM_cons, List.foldlM_nil, hdebug, hlog, hrouter, bind_map_left]

lemma toJson_object (s : Settings) : ∃ fields, s.toJson = .object fields ∧ InOrder fields ∧
    fields.lookup "debug" = some (.bool s.debug) ∧
    fields.lookup "log_level" = some (.string s.logLevel) ∧
    fields.lookup "router" = some s.router.toJson := by
  obtain ⟨fields, hobject, horder, hlookup⟩ := ofFields_eq [("debug", .bool s.debug),
    ("log_level", .string s.logLevel), ("router", s.router.toJson)]
  refine ⟨fields, hobject, horder, ?_, ?_, ?_⟩ <;> rw [hlookup] <;> rfl

lemma ofJson_toJson (s : Settings) : ofJson s.toJson = .ok s := by
  obtain ⟨fields, hobject, horder, hdebug, hlog, hrouter⟩ := s.toJson_object
  rw [hobject, ofJson_object horder, hdebug, hlog, hrouter]
  simp only [readField, RouterConfig.ofJson_toJson]
  rfl

lemma ordered_toJson (s : Settings) : s.toJson.Ordered := by
  refine ordered_ofFields ?_
  simp only [List.forall_mem_cons, List.not_mem_nil, false_imp_iff, implies_true, and_true]
  exact ⟨.bool _, .string _, s.router.ordered_toJson⟩

end Settings

end AppLinks
