import AppLinks.Proofs.Settings.Overlay
import AppLinks.Proofs.Settings.Override

/-!
Where settings come from.

The settings of a file and an environment are put together setting by setting, from a variable, a
field of the document, or the usual value. Nothing else in the document or the environment counts,
and what can go wrong is known: a field of the wrong type, or a host pattern that cannot be read, be
it the one of the file or the one in the end.
-/

namespace AppLinks

open Json Json.Value Result

lemma RouterConfig.hostExpr?_eq_error {c : RouterConfig} {error : LinkError}
    (h : c.hostExpr? = .error error) :
    ∃ p e, c.additionalHostPattern = some p ∧ p ≠ "" ∧
      error = .configuration (.hostPattern p e) := by
  unfold hostExpr? at h
  split at h
  · cases h
  · rename_i p hp
    obtain ⟨hsome, hne⟩ := Option.filter_eq_some_iff.1 hp
    unfold readHostPattern at h
    split at h
    · cases h
    · rename_i e _
      cases h
      exact ⟨p, e, hsome, by simpa using hne, rfl⟩

namespace Settings

/-- A file that says an object, with the fields of the configuration in it. -/
structure Document (format : Format) (file : SettingsFile) (fields inner : Fields) : Prop where
  text : ∃ text, readFile format file = .ok text ∧ readFormat format text = .ok (.object fields)
  router : fields.lookup "router" = some (.object inner) ∨
    fields.lookup "router" = none ∧ inner = []

/-- Fields of which all that are known are of the right type. -/
structure WellTyped (fields inner : Fields) : Prop where
  debug : Kind.flag.Fits (fields.lookup "debug")
  logLevel : Kind.text.Fits (fields.lookup "log_level")
  useStartAnchors : Kind.flag.Fits (inner.lookup "use_start_anchors")
  useNormalizedPaths : Kind.flag.Fits (inner.lookup "use_normalized_paths")
  additionalHostPattern : Kind.pattern.Fits (inner.lookup "additional_host_pattern")

/-- Settings each of which is the one of its variable, else of its field, else the usual one. -/
structure InLayers (fields inner : Fields) (environment : Params) (s : Settings) : Prop where
  debug : Kind.flag.Layered true (fields.lookup "debug") (environment.get? "DEEPLINK_DEBUG") s.debug
  logLevel : Kind.text.Layered "info" (fields.lookup "log_level")
    (environment.get? "DEEPLINK_LOG_LEVEL") s.logLevel
  useStartAnchors : Kind.flag.Layered false (inner.lookup "use_start_anchors")
    (environment.get? "DEEPLINK_USE_START_ANCHORS") s.router.useStartAnchors
  useNormalizedPaths : Kind.flag.Layered false (inner.lookup "use_normalized_paths")
    (environment.get? "DEEPLINK_USE_NORMALIZED_PATHS") s.router.useNormalizedPaths
  additionalHostPattern : Kind.pattern.Layered none (inner.lookup "additional_host_pattern")
    (environment.get? "DEEPLINK_ADDITIONAL_HOST_PATTERN") s.router.additionalHostPattern

def variableNames : List String :=
  ["DEEPLINK_DEBUG", "DEEPLINK_LOG_LEVEL", "DEEPLINK_USE_START_ANCHORS",
    "DEEPLINK_USE_NORMALIZED_PATHS", "DEEPLINK_ADDITIONAL_HOST_PATTERN"]

/-- Whether a pattern is not empty and cannot be read. -/
def Rejected (p : String) : Prop := p ≠ "" ∧ ∃ e, readHostPattern p = .error e

variable {format : Format} {file : SettingsFile} {fields inner : Fields}

/-! ### Objects in objects -/

/-- The fields of an ordered object, and those of the configuration in it. -/
structure Nested (fields inner : Fields) : Prop where
  ordered : (Value.object fields).Ordered
  router : fields.lookup "router" = some (.object inner) ∨
    fields.lookup "router" = none ∧ inner = []

lemma Nested.inner_inOrder (h : Nested fields inner) : InOrder inner := by
  rcases h.router with hrouter | ⟨-, rfl⟩
  · exact (h.ordered.lookup hrouter).inOrder
  · exact List.Pairwise.nil

/-- Such an object is read setting by setting. -/
lemma Nested.ofJson_eq (h : Nested fields inner) : ofJson (.object fields) = (do
    let debug ← readField Value.asBool true (fields.lookup "debug")
    let logLevel ← readField Value.asString "info" (fields.lookup "log_level")
    let additionalHostPattern ← readField Value.asOptionalString none
      (inner.lookup "additional_host_pattern")
    let useNormalizedPaths ← readField Value.asBool false (inner.lookup "use_normalized_paths")
    let useStartAnchors ← readField Value.asBool false (inner.lookup "use_start_anchors")
    return { debug, logLevel,
             router := { useStartAnchors, useNormalizedPaths, additionalHostPattern } }) := by
  have hrouter : readField RouterConfig.ofJson {} (fields.lookup "router") =
      RouterConfig.ofJson (.object inner) := by
    rcases h.router with hrouter | ⟨hrouter, rfl⟩
    · rw [hrouter]
      rfl
    · rw [hrouter]
      rfl
  rw [ofJson_object h.ordered.inOrder, hrouter, RouterConfig.ofJson_object h.inner_inOrder]
  simp only [bind_assoc, pure_bind]

lemma Nested.ofJson_eq_ok_iff (h : Nested fields inner) {d : Settings} :
    ofJson (.object fields) = .ok d ↔
      readField Value.asBool true (fields.lookup "debug") = .ok d.debug ∧
      readField Value.asString "info" (fields.lookup "log_level") = .ok d.logLevel ∧
      readField Value.asOptionalString none (inner.lookup "additional_host_pattern") =
        .ok d.router.additionalHostPattern ∧
      readField Value.asBool false (inner.lookup "use_normalized_paths") =
        .ok d.router.useNormalizedPaths ∧
      readField Value.asBool false (inner.lookup "use_start_anchors") =
        .ok d.router.useStartAnchors := by
  rw [h.ofJson_eq]
  simp only [bind_eq_ok, pure_eq_ok]
  refine ⟨?_, ?_⟩
  · rintro ⟨_, hdebug, _, hlog, _, hpattern, _, hnormalized, _, hanchors, rfl⟩
    exact ⟨hdebug, hlog, hpattern, hnormalized, hanchors⟩
  · rintro ⟨hdebug, hlog, hpattern, hnormalized, hanchors⟩
    exact ⟨_, hdebug, _, hlog, _, hpattern, _, hnormalized, _, hanchors, rfl⟩

/-- Such an object is read if and only if its known fields are of the right type. -/
lemma Nested.wellTyped_iff (h : Nested fields inner) :
    WellTyped fields inner ↔ ∃ d, ofJson (.object fields) = .ok d := by
  simp only [h.ofJson_eq_ok_iff]
  refine ⟨fun ⟨hdebug, hlog, hanchors, hnormalized, hpattern⟩ => ?_, ?_⟩
  · obtain ⟨debug, hdebug⟩ := Kind.flag_readBy.fits_iff.1 hdebug
    obtain ⟨logLevel, hlog⟩ := Kind.text_readBy.fits_iff.1 hlog
    obtain ⟨useStartAnchors, hanchors⟩ := Kind.flag_readBy.fits_iff.1 hanchors
    obtain ⟨useNormalizedPaths, hnormalized⟩ := Kind.flag_readBy.fits_iff.1 hnormalized
    obtain ⟨additionalHostPattern, hpattern⟩ := Kind.pattern_readBy.fits_iff.1 hpattern
    exact ⟨{ debug, logLevel,
             router := { useStartAnchors, useNormalizedPaths, additionalHostPattern } },
      hdebug, hlog, hpattern, hnormalized, hanchors⟩
  · rintro ⟨d, hdebug, hlog, hpattern, hnormalized, hanchors⟩
    exact ⟨Kind.flag_readBy.fits_iff.2 ⟨_, hdebug⟩, Kind.text_readBy.fits_iff.2 ⟨_, hlog⟩,
      Kind.flag_readBy.fits_iff.2 ⟨_, hanchors⟩, Kind.flag_readBy.fits_iff.2 ⟨_, hnormalized⟩,
      Kind.pattern_readBy.fits_iff.2 ⟨_, hpattern⟩⟩

/-! ### Documents -/

lemma Document.nested (h : Document format file fields inner) : Nested fields inner := by
  obtain ⟨text, -, hread⟩ := h.text
  exact ⟨ordered_of_readFormat hread, h.router⟩

/-- Settings with the variables of an environment in their places, setting by setting. -/
lemma eq_override_iff {d s : Settings} {environment : Params} : s = d.override environment ↔
    s.debug = ((environment.get? "DEEPLINK_DEBUG").map readFlag).getD d.debug ∧
    s.logLevel = ((environment.get? "DEEPLINK_LOG_LEVEL").map id).getD d.logLevel ∧
    s.router.useStartAnchors =
      ((environment.get? "DEEPLINK_USE_START_ANCHORS").map readFlag).getD
        d.router.useStartAnchors ∧
    s.router.useNormalizedPaths =
      ((environment.get? "DEEPLINK_USE_NORMALIZED_PATHS").map readFlag).getD
        d.router.useNormalizedPaths ∧
    s.router.additionalHostPattern =
      ((environment.get? "DEEPLINK_ADDITIONAL_HOST_PATTERN").map readPattern).getD
        d.router.additionalHostPattern := by
  rw [Option.map_id]
  refine ⟨?_, ?_⟩
  · rintro rfl
    exact ⟨rfl, rfl, rfl, rfl, rfl⟩
  · obtain ⟨debug, logLevel, useStartAnchors, useNormalizedPaths, additionalHostPattern⟩ := s
    rintro ⟨rfl, rfl, rfl, rfl, rfl⟩
    rfl

/-- The settings of a document with the variables of an environment in their places are the ones in
layers. -/
lemma Document.inLayers_iff (h : Document format file fields inner) {d : Settings}
    (hd : ofJson (.object fields) = .ok d) {environment : Params} {s : Settings} :
    InLayers fields inner environment s ↔ s = d.override environment := by
  obtain ⟨hdebug, hlog, hpattern, hnormalized, hanchors⟩ := h.nested.ofJson_eq_ok_iff.1 hd
  rw [eq_override_iff, ← Kind.flag_readBy.layered_iff hdebug, ← Kind.text_readBy.layered_iff hlog,
    ← Kind.flag_readBy.layered_iff hanchors, ← Kind.flag_readBy.layered_iff hnormalized,
    ← Kind.pattern_readBy.layered_iff hpattern]
  exact ⟨fun ⟨h₁, h₂, h₃, h₄, h₅⟩ => ⟨h₁, h₂, h₃, h₄, h₅⟩,
    fun ⟨h₁, h₂, h₃, h₄, h₅⟩ => ⟨h₁, h₂, h₃, h₄, h₅⟩⟩

/-! ### Loading -/

lemma validate_eq (s : Settings) : s.validate = (fun _ => ()) <$> s.router.hostExpr? :=
  (map_eq_pure_bind _ _).symm

lemma validate_eq_ok_iff {s : Settings} : s.validate = .ok () ↔
    ∀ p, s.router.additionalHostPattern = some p → ¬ Rejected p := by
  unfold validate RouterConfig.hostExpr? RouterConfig.hostPattern?
  cases s.router.additionalHostPattern with
  | none => exact ⟨fun _ => nofun, fun _ => rfl⟩
  | some p =>
    by_cases hp : p = ""
    · subst hp
      refine ⟨fun _ q hq hrejected => ?_, fun _ => rfl⟩
      cases hq
      exact hrejected.1 rfl
    · have hfilter : (some p).filter (!·.isEmpty) = some p := by simp [hp]
      rw [hfilter]
      cases hread : readHostPattern p with
      | ok e =>
        refine ⟨fun _ q hq hrejected => ?_, fun _ => by simp only [hread]; rfl⟩
        cases hq
        obtain ⟨e', he'⟩ := hrejected.2
        cases hread.symm.trans he'
      | error e =>
        refine ⟨fun h => ?_, fun h => absurd ⟨hp, e, hread⟩ (h p rfl)⟩
        simp only [hread] at h
        cases h

/-- Settings are valid if their host pattern is not rejected. -/
lemma validated_eq_ok_iff {s s' : Settings} : validated s = .ok s' ↔
    s = s' ∧ ∀ p, s.router.additionalHostPattern = some p → ¬ Rejected p := by
  rw [validated, bind_eq_ok, ← validate_eq_ok_iff]
  refine ⟨?_, ?_⟩
  · rintro ⟨⟨⟩, hvalid, hs⟩
    exact ⟨pure_eq_ok.1 hs, hvalid⟩
  · rintro ⟨rfl, hvalid⟩
    exact ⟨(), hvalid, rfl⟩

/-- The settings of a text are those that its value is read as, once they are valid. -/
lemma ofText_eq {text : String} {v : Value} (hread : readFormat format text = .ok v) :
    ofText format text =
      ((ofJson v).mapError (LinkError.configuration ∘ .misshapen format)) >>= validated := by
  have hdecode : decodeText format text = (ofJson v).mapError (.misshapen format) := by
    rw [decodeText_eq, hread]
    rfl
  rw [ofText, hdecode]
  cases ofJson v <;> rfl

lemma Document.ofFile_eq (h : Document format file fields inner) :
    ofFile format file =
      ((ofJson (.object fields)).mapError (LinkError.configuration ∘ .misshapen format)) >>=
        validated := by
  obtain ⟨text, hfile, hread⟩ := h.text
  rw [ofFile, hfile]
  exact ofText_eq hread

lemma Document.load_eq_ok_iff (h : Document format file fields inner) {environment : Params}
    {s : Settings} : ofFileAndEnvironment format file environment = .ok s ↔
      ∃ d, ofJson (.object fields) = .ok d ∧
        (∀ p, d.router.additionalHostPattern = some p → ¬ Rejected p) ∧
        d.override environment = s ∧
        ∀ p, s.router.additionalHostPattern = some p → ¬ Rejected p := by
  rw [ofFileAndEnvironment, bind_eq_ok, h.ofFile_eq]
  simp only [bind_eq_ok, mapError_eq_ok, validated_eq_ok_iff]
  refine ⟨?_, ?_⟩
  · rintro ⟨_, ⟨d, hd, rfl, hvalid⟩, rfl, hfinal⟩
    exact ⟨d, hd, hvalid, rfl, hfinal⟩
  · rintro ⟨d, hd, hvalid, rfl, hfinal⟩
    exact ⟨d, ⟨d, hd, rfl, hvalid⟩, rfl, hfinal⟩

/-- What is read depends on the known fields alone. -/
lemma Document.ofJson_congr {file' : SettingsFile} {fields' inner' : Fields}
    (h : Document format file fields inner) (h' : Document format file' fields' inner')
    (hfields : ∀ n ∈ ["debug", "log_level"], fields'.lookup n = fields.lookup n)
    (hinner : ∀ n ∈ RouterConfig.fieldNames, inner'.lookup n = inner.lookup n) :
    ofJson (.object fields') = ofJson (.object fields) := by
  rw [h.nested.ofJson_eq, h'.nested.ofJson_eq, hfields "debug" (by decide),
    hfields "log_level" (by decide), hinner "additional_host_pattern" (by decide),
    hinner "use_normalized_paths" (by decide), hinner "use_start_anchors" (by decide)]

/-- What is overridden depends on the known variables alone. -/
lemma override_congr {environment environment' : Params}
    (h : ∀ n ∈ variableNames, environment'.get? n = environment.get? n) (s : Settings) :
    s.override environment' = s.override environment := by
  rw [override, override, h "DEEPLINK_DEBUG" (by decide), h "DEEPLINK_LOG_LEVEL" (by decide),
    h "DEEPLINK_USE_START_ANCHORS" (by decide), h "DEEPLINK_USE_NORMALIZED_PATHS" (by decide),
    h "DEEPLINK_ADDITIONAL_HOST_PATTERN" (by decide)]

lemma readField_eq_some_iff {field : Option Value} {p : String} :
    readField Value.asOptionalString none field = .ok (some p) ↔ field = some (.string p) := by
  cases field with
  | none => simp [readField]
  | some v => cases v <;> simp [readField, Value.asOptionalString]

/-- A document that can be read is loaded if neither its pattern nor the one in layers is
rejected. -/
lemma Document.exists_load_iff (h : Document format file fields inner) {d : Settings}
    (hd : ofJson (.object fields) = .ok d) {environment : Params} :
    (∃ s, ofFileAndEnvironment format file environment = .ok s) ↔
      (∀ p, inner.lookup "additional_host_pattern" = some (.string p) → ¬ Rejected p) ∧
      ∀ p, Kind.pattern.Layered none (inner.lookup "additional_host_pattern")
        (environment.get? "DEEPLINK_ADDITIONAL_HOST_PATTERN") (some p) → ¬ Rejected p := by
  obtain ⟨-, -, hpattern, -, -⟩ := h.nested.ofJson_eq_ok_iff.1 hd
  have hown (p : String) : inner.lookup "additional_host_pattern" = some (.string p) ↔
      d.router.additionalHostPattern = some p := by
    rw [← readField_eq_some_iff, hpattern, Except.ok.injEq]
  have hfinal (p : String) : Kind.pattern.Layered none (inner.lookup "additional_host_pattern")
      (environment.get? "DEEPLINK_ADDITIONAL_HOST_PATTERN") (some p) ↔
        (d.override environment).router.additionalHostPattern = some p := by
    rw [Kind.pattern_readBy.layered_iff hpattern, eq_comm]
    rfl
  simp only [h.load_eq_ok_iff, hd, hown, hfinal]
  refine ⟨?_, fun ⟨hvalid, hvalid'⟩ => ⟨_, d, rfl, hvalid, rfl, hvalid'⟩⟩
  rintro ⟨_, _, ⟨⟩, hvalid, rfl, hvalid'⟩
  exact ⟨hvalid, hvalid'⟩

/-- **Settings come in layers.** Take a file that says an object, whose `router` is an object if
there is one, and any environment. Loading fails if and only if a known field is of the wrong type,
or the pattern of the file cannot be read, or the pattern in the end. Otherwise each setting is the
one of its variable if there is one, else the one of its field if there is one, else the usual one.
All other fields and variables are without influence, on the settings as on the error. -/
theorem load_in_layers (h : Document format file fields inner) (environment : Params) :
    ((∃ e, ofFileAndEnvironment format file environment = .error e) ↔
      ¬ WellTyped fields inner ∨
      (∃ p, inner.lookup "additional_host_pattern" = some (.string p) ∧ Rejected p) ∨
      ∃ p, Kind.pattern.Layered none (inner.lookup "additional_host_pattern")
        (environment.get? "DEEPLINK_ADDITIONAL_HOST_PATTERN") (some p) ∧ Rejected p) ∧
    (∀ s, ofFileAndEnvironment format file environment = .ok s →
      InLayers fields inner environment s) ∧
    ∀ (file' : SettingsFile) (fields' inner' : Fields) (environment' : Params),
      Document format file' fields' inner' →
      (∀ n ∈ ["debug", "log_level"], fields'.lookup n = fields.lookup n) →
      (∀ n ∈ RouterConfig.fieldNames, inner'.lookup n = inner.lookup n) →
      (∀ n ∈ variableNames, environment'.get? n = environment.get? n) →
      ofFileAndEnvironment format file' environment' =
        ofFileAndEnvironment format file environment := by
  refine ⟨?_, ?_, ?_⟩
  · rw [exists_error_iff]
    by_cases htyped : WellTyped fields inner
    · obtain ⟨d, hd⟩ := h.nested.wellTyped_iff.1 htyped
      rw [h.exists_load_iff hd, not_and_or, not_forall, not_forall]
      simp only [Classical.not_imp, not_not, htyped, not_true_eq_false, false_or]
    · refine iff_of_true ?_ (.inl htyped)
      rintro ⟨s, hs⟩
      obtain ⟨d, hd, -⟩ := h.load_eq_ok_iff.1 hs
      exact htyped (h.nested.wellTyped_iff.2 ⟨d, hd⟩)
  · intro s hs
    obtain ⟨d, hd, -, rfl, -⟩ := h.load_eq_ok_iff.1 hs
    exact (h.inLayers_iff hd).2 rfl
  · intro file' fields' inner' environment' h' hfields hinner henvironment
    rw [ofFileAndEnvironment, ofFileAndEnvironment, h.ofFile_eq, h'.ofFile_eq,
      h.ofJson_congr h' hfields hinner]
    simp only [override_congr henvironment]

/-- A flag and a pattern that variables clear, and a level that the document alone tells. -/
theorem load_in_layers_cleared :
    let inner : Fields := [("additional_host_pattern", .string "site")]
    let fields : Fields := [("log_level", .string "warn"), ("router", .object inner)]
    let file : SettingsFile := ⟨"app.json", some (Text.Utf8.encode
      "\x7b\"router\":\x7b\"additional_host_pattern\":\"site\"\x7d,\"log_level\":\"warn\"\x7d".toList)⟩
    let environment := Params.ofPairs
      [("DEEPLINK_DEBUG", " no"), ("DEEPLINK_ADDITIONAL_HOST_PATTERN", " ")]
    let s : Settings := { debug := false, logLevel := "warn" }
    Document .json file fields inner ∧ ofFileAndEnvironment .json file environment = .ok s ∧
      InLayers fields inner environment s := by
  intro inner fields file environment s
  have hdocument : Document .json file fields inner := ⟨⟨_, rfl, rfl⟩, .inl rfl⟩
  have hview : (ofFileAndEnvironment .json file environment).toOption.map id = some s := by
    decide +kernel
  obtain ⟨_, hs, rfl⟩ := eq_ok_of_view hview
  exact ⟨hdocument, hs, (load_in_layers hdocument environment).2.1 _ hs⟩

end Settings

end AppLinks
