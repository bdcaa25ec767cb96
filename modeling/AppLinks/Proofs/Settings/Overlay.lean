import AppLinks.Proofs.Settings.Record
import AppLinks.Settings.Load

/-!
Values laid over the usual settings.

What a text says is laid over the value of the usual settings, and the result is read. That is as if
it were read by itself: fields that are missing have their usual value either way, and whatever is
there is read as it stands.
-/

namespace AppLinks

open Json Json.Value Result

namespace Json.Value

/-- What is laid over a value that is no object stays as it is. -/
lemma overlay_of_not_object {base : Value} (h : ∀ below, base ≠ .object below) (v : Value) :
    base.overlay v = v := by
  cases v with
  | object fields =>
    cases base with
    | object below => exact absurd rfl (h below)
    | _ => rw [overlay]; exact fun _ => Value.noConfusion
  | _ => rw [overlay]; exact fun _ => Value.noConfusion

lemma overlay_object (below fields : Fields) :
    overlay (.object below) (.object fields) = .object (overlayFields below fields) := by
  rw [overlay]

/-- A reader takes a field that is laid over the usual value as it takes the field, and the usual
value where there is none. -/
lemma readField_overlayFields {β : Type} (read : Value → Except ShapeError β) {usual : β}
    {base : Value} (hbase : read base = .ok usual)
    (hover : ∀ v, v.Ordered → read (base.overlay v) = read v) {fields : Fields}
    (hfields : (Value.object fields).Ordered) {below : Fields} {name : String}
    (hbelow : below.lookup name = some base) :
    readField read usual ((overlayFields below fields).lookup name) =
      readField read usual (fields.lookup name) := by
  rw [lookup_overlayFields hfields.inOrder.nodup, hbelow]
  cases hv : fields.lookup name with
  | none => exact hbase
  | some v => exact hover v (hfields.lookup hv)

lemma readField_overlayFields_plain {β : Type} (read : Value → Except ShapeError β) {usual : β}
    {base : Value} (hbase : read base = .ok usual) (hplain : ∀ below, base ≠ .object below)
    {fields : Fields} (hfields : (Value.object fields).Ordered) {below : Fields} {name : String}
    (hbelow : below.lookup name = some base) :
    readField read usual ((overlayFields below fields).lookup name) =
      readField read usual (fields.lookup name) :=
  readField_overlayFields read hbase (fun v _ => by rw [overlay_of_not_object hplain]) hfields
    hbelow

end Json.Value

/-- A configuration that is laid over the usual one is read as it is by itself. -/
lemma RouterConfig.ofJson_overlay {v : Value} (hv : v.Ordered) :
    ofJson (({} : RouterConfig).toJson.overlay v) = ofJson v := by
  cases v with
  | object fields =>
    obtain ⟨below, hbelow, horder, hanchors, hnormalized, hpattern⟩ :=
      ({} : RouterConfig).toJson_object
    rw [hbelow, overlay_object, ofJson_object (inOrder_overlayFields horder fields),
      ofJson_object hv.inOrder,
      readField_overlayFields_plain Value.asOptionalString rfl (by simp) hv hpattern,
      readField_overlayFields_plain Value.asBool rfl (by simp) hv hnormalized,
      readField_overlayFields_plain Value.asBool rfl (by simp) hv hanchors]
  | _ => rw [overlay]; exact fun _ => Value.noConfusion

namespace Settings

lemma ofJson_overlay {v : Value} (hv : v.Ordered) :
    ofJson (({} : Settings).toJson.overlay v) = ofJson v := by
  cases v with
  | object fields =>
    obtain ⟨below, hbelow, horder, hdebug, hlog, hrouter⟩ := ({} : Settings).toJson_object
    rw [hbelow, overlay_object, ofJson_object (inOrder_overlayFields horder fields),
      ofJson_object hv.inOrder,
      readField_overlayFields_plain Value.asBool rfl (by simp) hv hdebug,
      readField_overlayFields_plain Value.asString rfl (by simp) hv hlog,
      readField_overlayFields RouterConfig.ofJson (RouterConfig.ofJson_toJson {})
        (fun _ => RouterConfig.ofJson_overlay) hv hrouter]
  | _ => rw [overlay]; exact fun _ => Value.noConfusion

/-- What a text of either format says is ordered. -/
lemma ordered_of_readFormat {format : Format} {text : String} {v : Value}
    (h : readFormat format text = .ok v) : v.Ordered := by
  unfold readFormat at h
  split at h
  · split at h
    · rename_i hparse
      cases h
      exact ordered_of_parse hparse
    · cases h
  · split at h
    · cases h
      exact Toml.Value.ordered_toJson _
    · cases h

/-- What is laid over the usual settings gives the settings that it is read as. -/
lemma ofOverlay_eq (format : Format) {v : Value} (hv : v.Ordered) :
    ofOverlay format v = (ofJson v).mapError (.misshapen format) := by
  rw [ofOverlay, ofJson_overlay hv]
  cases ofJson v <;> rfl

/-- The settings of a text are those that its value is read as. -/
lemma decodeText_eq (format : Format) (text : String) : decodeText format text =
    readFormat format text >>= fun v => (ofJson v).mapError (.misshapen format) := by
  rw [decodeText]
  cases hv : readFormat format text with
  | error e => rfl
  | ok v => exact ofOverlay_eq format (ordered_of_readFormat hv)

/-- **Laying over the usual settings is filling in what is missing**: for a value of any shape whose
objects have their names in order, laying it over the value of the usual settings and reading the
result gives the same settings as reading it by itself, or fails with the same error. Settings that
were written as a value come back from it. Every text of either format is read as such a value, so
its settings are those of its value alone. -/
theorem overlay_fills_in (format : Format) :
    (∀ v : Value, v.Ordered → ofOverlay format v = (ofJson v).mapError (.misshapen format)) ∧
    (∀ s : Settings, s.toJson.Ordered ∧ ofOverlay format s.toJson = .ok s) ∧
    ∀ text, decodeText format text =
      readFormat format text >>= fun v => (ofJson v).mapError (.misshapen format) := by
  refine ⟨fun v => ofOverlay_eq format, fun s => ⟨s.ordered_toJson, ?_⟩, decodeText_eq format⟩
  rw [ofOverlay_eq format s.ordered_toJson, ofJson_toJson]
  rfl

/-- Of two fields of the wrong shape the one with the first name is told, at either level. -/
theorem overlay_fills_in_first_fault :
    let v : Value := .object [("extra", .null), ("router", .object [
      ("additional_host_pattern", .array []), ("use_start_anchors", .string "yes")])]
    v.Ordered ∧
      ofOverlay .json v = .error (.misshapen .json (.type (.array []) .string)) := by
  intro v
  have hrouter : (Value.object [("additional_host_pattern", .array []),
      ("use_start_anchors", .string "yes")]).Ordered := by
    refine .object (by unfold InOrder; decide) ?_
    simp only [List.forall_mem_cons, List.not_mem_nil, false_imp_iff, implies_true, and_true]
    exact ⟨.array (by simp), .string _⟩
  have hv : v.Ordered := by
    refine .object (by unfold InOrder; decide) ?_
    simp only [List.forall_mem_cons, List.not_mem_nil, false_imp_iff, implies_true, and_true]
    exact ⟨.null, hrouter⟩
  exact ⟨hv, ((overlay_fills_in .json).1 v hv).trans rfl⟩

end Settings

end AppLinks
