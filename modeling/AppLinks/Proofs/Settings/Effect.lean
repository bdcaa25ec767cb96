import AppLinks.Proofs.Settings.Layers
import AppLinks.Proofs.Toml.Distinct

/-!
Keys that take effect.

Where a TOML document has a key that is known, its value is the setting, or the document is refused.
There is one exception. Floating-point values that are not numbers, and infinite ones, have nothing
in JSON that says the same. They become null on the way, which is refused like any other value of
the wrong type; but where a host pattern may stand, null is the same as no key.
-/

namespace AppLinks

open Json (readField)
open Json.Value (Fields)
open Params Result

namespace Toml.Value

/-- What is found in a value under keys, one below the other. -/
def At : Value → List String → Value → Prop
  | w, [], v => w = v
  | w, k :: path, v => ∃ fields u, w = .table fields ∧ (k, u) ∈ fields ∧ u.At path v

/-- A value says a text: a string says itself, and a date or time how it is written. -/
def Says (v : Value) (s : String) : Prop := v = .string s ∨ v = .moment s

/-- A value that nothing in JSON says: an infinity, or no number. -/
def Unsayable (v : Value) : Prop := ∃ b, v = .float b ∧ b.isFinite = false

instance (v : Value) (s : String) : Decidable (v.Says s) :=
  match v with
  | .string t => decidable_of_iff (t = s) (by simp [Says])
  | .moment t => decidable_of_iff (t = s) (by simp [Says])
  | .integer _ => isFalse (by simp [Says])
  | .float _ => isFalse (by simp [Says])
  | .boolean _ => isFalse (by simp [Says])
  | .array _ => isFalse (by simp [Says])
  | .table _ => isFalse (by simp [Says])

instance (v : Value) : Decidable v.Unsayable :=
  match v with
  | .float b => decidable_of_iff (b.isFinite = false) (by simp [Unsayable])
  | .string _ => isFalse (by simp [Unsayable])
  | .moment _ => isFalse (by simp [Unsayable])
  | .integer _ => isFalse (by simp [Unsayable])
  | .boolean _ => isFalse (by simp [Unsayable])
  | .array _ => isFalse (by simp [Unsayable])
  | .table _ => isFalse (by simp [Unsayable])

lemma at_cons_iff {fields : List (String × Value)} {k : String} {path : List String} {v : Value} :
    (Value.table fields).At (k :: path) v ↔ ∃ u, (k, u) ∈ fields ∧ u.At path v := by
  constructor
  · rintro ⟨_, u, ⟨⟩, hu, hv⟩
    exact ⟨u, hu, hv⟩
  · rintro ⟨u, hu, hv⟩
    exact ⟨fields, u, rfl, hu, hv⟩

lemma at_single_iff {fields : List (String × Value)} {k : String} {v : Value} :
    (Value.table fields).At [k] v ↔ (k, v) ∈ fields := by
  rw [at_cons_iff]
  exact exists_eq_right

lemma Says.unique {v : Value} {s t : String} (hs : v.Says s) (ht : v.Says t) : s = t := by
  rcases hs with rfl | rfl <;> rcases ht with ht | ht <;> cases ht <;> rfl

lemma Says.not_unsayable {v : Value} {s : String} (hs : v.Says s) : ¬ v.Unsayable := by
  rintro ⟨b, rfl, -⟩
  rcases hs with hs | hs <;> cases hs

/-- The field of the configuration, where there is no other one and nothing else in a document. -/
def onlyField? : Value → Option (String × Value)
  | .table [("router", .table [field])] => some field
  | _ => none

lemma at_of_onlyField? {doc v : Value} {k : String} (h : doc.onlyField? = some (k, v)) :
    (∀ u, doc.At ["router"] u → ∃ fields, u = .table fields) ∧ doc.At ["router", k] v := by
  unfold onlyField? at h
  split at h
  · cases h
    refine ⟨fun u hu => ⟨[(k, v)], ?_⟩, by simp [At]⟩
    rw [at_single_iff, List.mem_singleton] at hu
    exact (Prod.mk.inj hu).2
  · cases h

/-! ### What JSON says of it -/

lemma fieldsToJson_eq_map (fields : List (String × Value)) :
    fieldsToJson fields = fields.map fun kv => (kv.1, kv.2.toJson) := by
  induction fields with
  | nil => rfl
  | cons kv r ih =>
    rw [fieldsToJson, ih]
    rfl

/-- The fields of a table are found again in the object that says the same. -/
lemma toJson_table {fields : List (String × Value)} (h : (fields.map Prod.fst).Nodup) :
    ∃ object, toJson (.table fields) = .object object ∧
      ∀ k w, object.lookup k = some w ↔ ∃ v, (k, v) ∈ fields ∧ v.toJson = w := by
  obtain ⟨object, hobject, -, hlookup⟩ := Json.Value.ofFields_eq (fieldsToJson fields)
  have hnodup : ((fieldsToJson fields).map Prod.fst).Nodup := by
    rw [fieldsToJson_eq_map, List.map_map]
    exact h
  refine ⟨object, hobject, fun k w => ?_⟩
  rw [hlookup, lookup_reverse hnodup, fieldsToJson_eq_map]
  constructor
  · intro hw
    obtain ⟨⟨a, v⟩, hv, heq⟩ := List.mem_map.1 (mem_of_lookup hw)
    obtain ⟨rfl, rfl⟩ := Prod.mk.inj heq
    exact ⟨v, hv, rfl⟩
  · rintro ⟨v, hv, rfl⟩
    refine lookup_of_mem ?_ (List.mem_map.2 ⟨(k, v), hv, rfl⟩)
    rw [← fieldsToJson_eq_map]
    exact hnodup

lemma inField_flag_iff {v : Value} {b : Bool} :
    Kind.flag.inField v.toJson b ↔ v = .boolean b := by
  cases v with
  | float f =>
    unfold toJson Kind.flag
    split <;> simp
  | table fields => simp [Kind.flag, toJson, Json.Value.ofFields]
  | _ => simp [Kind.flag, toJson]

lemma inField_text_iff {v : Value} {s : String} : Kind.text.inField v.toJson s ↔ v.Says s := by
  cases v with
  | float f =>
    unfold toJson Kind.text Says
    split <;> simp
  | table fields => simp [Kind.text, toJson, Json.Value.ofFields, Says]
  | _ => simp [Kind.text, toJson, Says]

lemma toJson_eq_null_iff {v : Value} : v.toJson = .null ↔ v.Unsayable := by
  cases v with
  | float f =>
    unfold toJson Unsayable
    split <;> simp_all
  | table fields => simp [toJson, Json.Value.ofFields, Unsayable]
  | _ => simp [toJson, Unsayable]

lemma inField_pattern_iff {v : Value} {p : Option String} :
    Kind.pattern.inField v.toJson p ↔ (v.Unsayable ∧ p = none) ∨ ∃ s, v.Says s ∧ p = some s := by
  rw [← toJson_eq_null_iff]
  simp only [← inField_text_iff]
  rfl

end Toml.Value

namespace Settings

/-- A document that is a table, in which all keys that are known have values of the right type. -/
structure Fitting (doc : Toml.Value) : Prop where
  table : ∃ fields, doc = .table fields
  debug : ∀ v, doc.At ["debug"] v → ∃ b, v = .boolean b
  logLevel : ∀ v, doc.At ["log_level"] v → ∃ s, v.Says s
  useStartAnchors : ∀ v, doc.At ["router", "use_start_anchors"] v → ∃ b, v = .boolean b
  useNormalizedPaths : ∀ v, doc.At ["router", "use_normalized_paths"] v → ∃ b, v = .boolean b
  additionalHostPattern : ∀ v, doc.At ["router", "additional_host_pattern"] v →
    v.Unsayable ∨ ∃ s, v.Says s

/-- Settings in which every key of a document that is known has taken effect, apart from a host
pattern that nothing in JSON says: then there is none, as if there were no such key. -/
structure InEffect (doc : Toml.Value) (s : Settings) : Prop where
  debug : ∀ v, doc.At ["debug"] v → v = .boolean s.debug
  logLevel : ∀ v, doc.At ["log_level"] v → v.Says s.logLevel
  useStartAnchors : ∀ v, doc.At ["router", "use_start_anchors"] v →
    v = .boolean s.router.useStartAnchors
  useNormalizedPaths : ∀ v, doc.At ["router", "use_normalized_paths"] v →
    v = .boolean s.router.useNormalizedPaths
  additionalHostPattern : ∀ v, doc.At ["router", "additional_host_pattern"] v →
    ¬ v.Unsayable → ∃ p, v.Says p ∧ s.router.additionalHostPattern = some p
  noPattern : s.router.additionalHostPattern = none ↔
    ∀ v, doc.At ["router", "additional_host_pattern"] v → v.Unsayable

/-! ### Documents as objects -/

/-- A field of JSON is what is found in a document under some keys. -/
def Shows (field : Option Json.Value) (doc : Toml.Value) (path : List String) : Prop :=
  ∀ w, field = some w ↔ ∃ v, doc.At path v ∧ v.toJson = w

section Shows

variable {α : Type} {k : Kind α} {read : Json.Value → Except Json.ShapeError α} {set : String → α}
  {usual : α} {field : Option Json.Value} {doc : Toml.Value} {path : List String}

/-- What is read from a field is what the value under the keys is taken for. -/
lemma Shows.inField (hfield : Shows field doc path) (hk : k.ReadBy read set) {a : α}
    (ha : readField read usual field = .ok a) {v : Toml.Value} (hv : doc.At path v) :
    k.inField v.toJson a := by
  rw [(hfield v.toJson).2 ⟨v, hv, rfl⟩] at ha
  exact (hk.inField _ _).1 ha

lemma Shows.fits_iff (hfield : Shows field doc path) :
    k.Fits field ↔ ∀ v, doc.At path v → ∃ a, k.inField v.toJson a := by
  constructor
  · exact fun h v hv => h _ ((hfield _).2 ⟨v, hv, rfl⟩)
  · rintro h w hw
    obtain ⟨v, hv, rfl⟩ := (hfield w).1 hw
    exact h v hv

lemma Shows.eq_none (hfield : Shows field doc path) (h : ∀ v, ¬ doc.At path v) : field = none := by
  cases hw : field with
  | none => rfl
  | some w =>
    obtain ⟨v, hv, -⟩ := (hfield w).1 hw
    exact absurd hv (h v)

end Shows

/-- A table says the same as an object, and the table of the configuration in it the same as the
object in that one. -/
lemma exists_nested {table : List (String × Toml.Value)} (hdoc : (Toml.Value.table table).Distinct)
    (hrouter : ∀ v, (Toml.Value.table table).At ["router"] v → ∃ fields, v = .table fields) :
    ∃ fields inner, (Toml.Value.table table).toJson = .object fields ∧ Nested fields inner ∧
      (∀ k, Shows (fields.lookup k) (.table table) [k]) ∧
      ∀ k, Shows (inner.lookup k) (.table table) ["router", k] := by
  cases hdoc with
  | table hnodup hvalues =>
    obtain ⟨fields, hobject, hlookup⟩ := Toml.Value.toJson_table hnodup
    have hordered : (Json.Value.object fields).Ordered :=
      hobject ▸ Toml.Value.ordered_toJson (.table table)
    have houter (k : String) : Shows (fields.lookup k) (.table table) [k] := by
      intro w
      rw [hlookup]
      simp only [Toml.Value.at_single_iff]
    simp only [Toml.Value.at_single_iff] at hrouter
    by_cases hpresent : ∃ v, ("router", v) ∈ table
    · obtain ⟨v, hv⟩ := hpresent
      obtain ⟨config, rfl⟩ := hrouter v hv
      have hconfig := hvalues _ hv
      cases hconfig with
      | table hnodup' _ =>
        obtain ⟨inner, hinner, hlookup'⟩ := Toml.Value.toJson_table hnodup'
        refine ⟨fields, inner, hobject, ⟨hordered, .inl ?_⟩, houter, fun k w => ?_⟩
        · exact (hlookup "router" _).2 ⟨_, hv, hinner⟩
        · have hat (u : Toml.Value) :
              (Toml.Value.table table).At ["router", k] u ↔ (k, u) ∈ config := by
            rw [Toml.Value.at_cons_iff]
            refine ⟨?_, fun hu => ⟨_, hv, Toml.Value.at_single_iff.2 hu⟩⟩
            rintro ⟨t, ht, hu⟩
            -- the name comes only once, so this is the same table
            obtain rfl : .table config = t := Option.some.inj
              ((lookup_of_mem hnodup hv).symm.trans (lookup_of_mem hnodup ht))
            exact Toml.Value.at_single_iff.1 hu
          rw [hlookup']
          simp only [hat]
    · refine ⟨fields, [], hobject, ⟨hordered, .inr ⟨?_, rfl⟩⟩, houter, fun k w => ?_⟩
      · exact (houter "router").eq_none fun v hv =>
          hpresent ⟨v, Toml.Value.at_single_iff.1 hv⟩
      · refine iff_of_false (by simp) ?_
        rintro ⟨u, hu, -⟩
        obtain ⟨v, hv, -⟩ := Toml.Value.at_cons_iff.1 hu
        exact hpresent ⟨v, hv⟩

/-- Whatever is wrong with a text, it is the configuration that is wrong. -/
lemma ofText_eq_error {format : Format} {text : String} {e : LinkError}
    (h : ofText format text = .error e) : ∃ fault, e = .configuration fault := by
  unfold ofText at h
  cases hdecode : decodeText format text with
  | error fault =>
    rw [hdecode] at h
    cases h
    exact ⟨fault, rfl⟩
  | ok d =>
    rw [hdecode] at h
    change validated d = .error e at h
    rw [validated, validate_eq] at h
    cases hexpr : d.router.hostExpr? with
    | error e' =>
      rw [hexpr] at h
      cases h
      obtain ⟨p, fault, -, -, rfl⟩ := RouterConfig.hostExpr?_eq_error hexpr
      exact ⟨_, rfl⟩
    | ok expr =>
      rw [hexpr] at h
      cases h

lemma fitting_iff {table : List (String × Toml.Value)} {fields inner : Fields}
    (houter : ∀ k, Shows (fields.lookup k) (.table table) [k])
    (hinner : ∀ k, Shows (inner.lookup k) (.table table) ["router", k]) :
    Fitting (.table table) ↔ WellTyped fields inner := by
  have hdebug := (houter "debug").fits_iff (k := .flag)
  have hlog := (houter "log_level").fits_iff (k := .text)
  have hanchors := (hinner "use_start_anchors").fits_iff (k := .flag)
  have hnormalized := (hinner "use_normalized_paths").fits_iff (k := .flag)
  have hpattern := (hinner "additional_host_pattern").fits_iff (k := .pattern)
  simp only [Toml.Value.inField_flag_iff] at hdebug hanchors hnormalized
  simp only [Toml.Value.inField_text_iff] at hlog
  have hpatterns (v : Toml.Value) :
      (∃ p, Kind.pattern.inField v.toJson p) ↔ v.Unsayable ∨ ∃ s, v.Says s := by
    simp only [Toml.Value.inField_pattern_iff, exists_or, exists_and_left, exists_eq,
      and_true, exists_comm (α := Option String)]
  simp only [hpatterns] at hpattern
  constructor
  · intro h
    exact ⟨hdebug.2 h.debug, hlog.2 h.logLevel, hanchors.2 h.useStartAnchors,
      hnormalized.2 h.useNormalizedPaths, hpattern.2 h.additionalHostPattern⟩
  · intro h
    exact ⟨⟨table, rfl⟩, hdebug.1 h.debug, hlog.1 h.logLevel, hanchors.1 h.useStartAnchors,
      hnormalized.1 h.useNormalizedPaths, hpattern.1 h.additionalHostPattern⟩

/-- What a document is read as has what its keys say. -/
lemma inEffect_of_read {table : List (String × Toml.Value)} {fields inner : Fields}
    (hnested : Nested fields inner) (houter : ∀ k, Shows (fields.lookup k) (.table table) [k])
    (hinner : ∀ k, Shows (inner.lookup k) (.table table) ["router", k]) {s : Settings}
    (hs : ofJson (.object fields) = .ok s) : InEffect (.table table) s := by
  obtain ⟨hdebug, hlog, hpattern, hnormalized, hanchors⟩ := hnested.ofJson_eq_ok_iff.1 hs
  have htext (v : Toml.Value)
      (hv : (Toml.Value.table table).At ["router", "additional_host_pattern"] v) :
      (v.Unsayable ∧ s.router.additionalHostPattern = none) ∨
        ∃ p, v.Says p ∧ s.router.additionalHostPattern = some p :=
    Toml.Value.inField_pattern_iff.1 ((hinner _).inField Kind.pattern_readBy hpattern hv)
  refine ⟨fun v hv => ?_, fun v hv => ?_, fun v hv => ?_, fun v hv => ?_, fun v hv hsayable => ?_,
    fun hnone v hv => ?_, fun hall => ?_⟩
  · exact Toml.Value.inField_flag_iff.1 ((houter _).inField Kind.flag_readBy hdebug hv)
  · exact Toml.Value.inField_text_iff.1 ((houter _).inField Kind.text_readBy hlog hv)
  · exact Toml.Value.inField_flag_iff.1 ((hinner _).inField Kind.flag_readBy hanchors hv)
  · exact Toml.Value.inField_flag_iff.1 ((hinner _).inField Kind.flag_readBy hnormalized hv)
  · exact (htext v hv).resolve_left fun h => hsayable h.1
  · rcases htext v hv with ⟨hunsayable, -⟩ | ⟨p, -, hp⟩
    · exact hunsayable
    · rw [hnone] at hp
      cases hp
  · cases hfield : inner.lookup "additional_host_pattern" with
    | none =>
      rw [hfield] at hpattern
      exact (Except.ok.inj hpattern).symm
    | some w =>
      obtain ⟨v, hv, rfl⟩ := (hinner _ w).1 hfield
      rw [hfield, Toml.Value.toJson_eq_null_iff.2 (hall v hv)] at hpattern
      exact (Except.ok.inj hpattern).symm

/-- The host pattern is what its key says. -/
lemma InEffect.hostPattern_iff {doc : Toml.Value} {s : Settings} (h : InEffect doc s) {p : String} :
    s.router.additionalHostPattern = some p ↔
      ∃ v, doc.At ["router", "additional_host_pattern"] v ∧ v.Says p := by
  constructor
  · intro hp
    have hnot : ¬ ∀ v, doc.At ["router", "additional_host_pattern"] v → v.Unsayable := by
      rw [← h.noPattern, hp]
      exact Option.some_ne_none p
    obtain ⟨v, hv⟩ := not_forall.1 hnot
    obtain ⟨hv, hsayable⟩ := Classical.not_imp.1 hv
    obtain ⟨q, hq, hpattern⟩ := h.additionalHostPattern v hv hsayable
    obtain rfl := Option.some.inj (hp.symm.trans hpattern)
    exact ⟨v, hv, hq⟩
  · rintro ⟨v, hv, hp⟩
    obtain ⟨q, hq, hpattern⟩ := h.additionalHostPattern v hv hp.not_unsayable
    rw [hpattern, hp.unique hq]

/-- A document is loaded if its known keys have values of the right type and its host pattern, if
it says one, can be read. -/
lemma exists_ofText_iff {text : String} {doc : Toml.Value} (h : Toml.parse text = some doc)
    (hrouter : ∀ v, doc.At ["router"] v → ∃ fields, v = .table fields) :
    (∀ s, ofText .toml text = .ok s → InEffect doc s) ∧
    ((∃ s, ofText .toml text = .ok s) ↔ Fitting doc ∧
      ∀ v p, doc.At ["router", "additional_host_pattern"] v → v.Says p → ¬ Rejected p) := by
  have hread : readFormat .toml text = .ok doc.toJson := by rw [readFormat, h]
  rw [ofText_eq hread]
  rcases Toml.table_or_moment_of_parse h with ⟨table, rfl⟩ | ⟨t, rfl⟩
  · obtain ⟨fields, inner, hobject, hnested, houter, hinner⟩ :=
      exists_nested (Toml.distinct_of_parse h) hrouter
    have heffect {s : Settings} (hs : ofJson (.object fields) = .ok s) :
        InEffect (.table table) s := inEffect_of_read hnested houter hinner hs
    rw [hobject, fitting_iff houter hinner, hnested.wellTyped_iff]
    simp only [bind_eq_ok, mapError_eq_ok, validated_eq_ok_iff]
    refine ⟨?_, ?_, ?_⟩
    · rintro s ⟨_, hs, rfl, -⟩
      exact heffect hs
    · rintro ⟨s, _, hs, rfl, hvalid⟩
      exact ⟨⟨_, hs⟩, fun v p hv hp => hvalid p ((heffect hs).hostPattern_iff.2 ⟨v, hv, hp⟩)⟩
    · rintro ⟨⟨s, hs⟩, hvalid⟩
      refine ⟨s, s, hs, rfl, fun p hp => ?_⟩
      obtain ⟨v, hv, htext⟩ := (heffect hs).hostPattern_iff.1 hp
      exact hvalid v p hv htext
  · have hfails (s : Settings) : ofJson (Toml.Value.moment t).toJson ≠ .ok s := by
      intro hs
      cases hs
    simp only [bind_eq_ok, mapError_eq_ok, hfails, false_and, exists_false]
    refine ⟨fun _ => False.elim, iff_of_false not_false ?_⟩
    rintro ⟨hfitting, -⟩
    obtain ⟨fields, hfields⟩ := hfitting.table
    cases hfields

/-- **A key takes effect or is refused.** Take a TOML document whose `router` is a table if there is
one. If it is loaded, then a flag is the boolean that its key has, the level is the string, and so
is the host pattern; dates and times count as their text. It is refused with an error of the
configuration if and only if a known key has a value of another type, or the host pattern that it
says cannot be read. The exception is a host pattern that is an infinity or no number: it is not
refused, and then there is no host pattern, as if the key were missing. -/
theorem keys_take_effect {text : String} {doc : Toml.Value} (h : Toml.parse text = some doc)
    (hrouter : ∀ v, doc.At ["router"] v → ∃ fields, v = .table fields) :
    (∀ s, ofText .toml text = .ok s → InEffect doc s) ∧
    ((∃ s, ofText .toml text = .ok s) ↔ Fitting doc ∧
      ∀ v p, doc.At ["router", "additional_host_pattern"] v → v.Says p → ¬ Rejected p) ∧
    ((∃ fault, ofText .toml text = .error (.configuration fault)) ↔ ¬ Fitting doc ∨
      ∃ v p, doc.At ["router", "additional_host_pattern"] v ∧ v.Says p ∧ Rejected p) := by
  obtain ⟨heffect, hloaded⟩ := exists_ofText_iff h hrouter
  refine ⟨heffect, hloaded, ?_⟩
  have hrefused : (∃ fault, ofText .toml text = .error (.configuration fault)) ↔
      ¬ ∃ s, ofText .toml text = .ok s := by
    rw [← exists_error_iff]
    refine ⟨fun ⟨fault, hfault⟩ => ⟨_, hfault⟩, ?_⟩
    rintro ⟨e, he⟩
    obtain ⟨fault, rfl⟩ := ofText_eq_error he
    exact ⟨fault, he⟩
  rw [hrefused, hloaded, not_and_or]
  simp only [not_forall, not_not, exists_prop]

/-- A date as the host pattern, in a table that a dotted key makes. -/
theorem keys_take_effect_date :
    let text := "router.additional_host_pattern = 1979-05-27"
    ∃ doc v s, Toml.parse text = some doc ∧
      (∀ u, doc.At ["router"] u → ∃ fields, u = .table fields) ∧
      doc.At ["router", "additional_host_pattern"] v ∧ v.Says "1979-05-27" ∧
      ofText .toml text = .ok s ∧ InEffect doc s ∧
      s.router.additionalHostPattern = some "1979-05-27" := by
  intro text
  have hparse : ((Toml.parse text).bind Toml.Value.onlyField?).map (fun found =>
      (found.1, decide (found.2.Says "1979-05-27"))) =
      some ("additional_host_pattern", true) := by decide +kernel
  have hload : (ofText .toml text).toOption.map (·.router.additionalHostPattern) =
      some (some "1979-05-27") := by decide +kernel
  obtain ⟨⟨k, v⟩, hfound, hv⟩ := Option.map_eq_some_iff.1 hparse
  obtain ⟨rfl, hv⟩ := Prod.mk.inj hv
  obtain ⟨doc, hdoc, honly⟩ := Option.bind_eq_some_iff.1 hfound
  obtain ⟨htable, hat⟩ := Toml.Value.at_of_onlyField? honly
  obtain ⟨s, hs, hpattern⟩ := eq_ok_of_view hload
  exact ⟨doc, v, s, hdoc, htable, hat, of_decide_eq_true hv, hs,
    (keys_take_effect hdoc htable).1 s hs, hpattern⟩

/-- A host pattern that is no number is neither refused nor in effect. -/
theorem keys_take_effect_not_a_number :
    let text := "[router]\nadditional_host_pattern = nan"
    ∃ doc v s, Toml.parse text = some doc ∧
      (∀ u, doc.At ["router"] u → ∃ fields, u = .table fields) ∧
      doc.At ["router", "additional_host_pattern"] v ∧ v.Unsayable ∧
      ofText .toml text = .ok s ∧ s.router.additionalHostPattern = none := by
  intro text
  have hparse : ((Toml.parse text).bind Toml.Value.onlyField?).map (fun found =>
      (found.1, decide found.2.Unsayable)) = some ("additional_host_pattern", true) := by
    decide +kernel
  have hload : (ofText .toml text).toOption.map (·.router.additionalHostPattern) =
      some none := by decide +kernel
  obtain ⟨⟨k, v⟩, hfound, hv⟩ := Option.map_eq_some_iff.1 hparse
  obtain ⟨rfl, hv⟩ := Prod.mk.inj hv
  obtain ⟨doc, hdoc, honly⟩ := Option.bind_eq_some_iff.1 hfound
  obtain ⟨htable, hat⟩ := Toml.Value.at_of_onlyField? honly
  obtain ⟨s, hs, hpattern⟩ := eq_ok_of_view hload
  exact ⟨doc, v, s, hdoc, htable, hat, of_decide_eq_true hv, hs, hpattern⟩

end Settings

end AppLinks
