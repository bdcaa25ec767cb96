import AppLinks.Proofs.Settings.Record
import AppLinks.Settings.Override
import Mathlib.Data.List.DropRight
import Mathlib.Data.List.TakeWhile

/-!
Values of settings in layers.

A setting has its value from a variable, else from a field of a document, else it has its usual
value. What a variable and a field say is told here by relations that do not depend on how they are
read: which value a text stands for once the blanks around it are gone, and which JSON values are of
the right type.
-/

namespace AppLinks

open Json (Value ShapeError readField)
open Unicode.Property (isBlank)

/-! ### Trimming -/

/-- The text that is left of another one without the blanks around it. -/
structure TrimsTo (s t : List Char) : Prop where
  around : ∃ before after, s = before ++ t ++ after ∧ (∀ c ∈ before, isBlank c = true) ∧
    ∀ c ∈ after, isBlank c = true
  first : ∀ c ∈ t.head?, isBlank c = false
  last : ∀ c ∈ t.getLast?, isBlank c = false

lemma dropWhile_blanks {before t : List Char} (hbefore : ∀ c ∈ before, isBlank c = true)
    (ht : ∀ c ∈ t.head?, isBlank c = false) : (before ++ t).dropWhile isBlank = t := by
  rw [List.dropWhile_append_of_pos hbefore]
  cases t with
  | nil => rfl
  | cons c t => exact List.dropWhile_cons_of_neg (by simp [ht c rfl])

lemma trimBlanks_eq (s : List Char) :
    trimBlanks s = (s.dropWhile isBlank).rdropWhile isBlank := rfl

/-- A text is trimmed to what it stands for around its blanks, and to nothing else. -/
lemma trimsTo_iff {s t : List Char} : TrimsTo s t ↔ trimBlanks s = t := by
  refine ⟨?_, ?_⟩
  · rintro ⟨⟨before, after, rfl, hbefore, hafter⟩, hfirst, hlast⟩
    by_cases ht : t = []
    · subst ht
      have hall : ∀ c ∈ before ++ [] ++ after, isBlank c = true := by
        simpa [or_imp, forall_and] using ⟨hbefore, hafter⟩
      rw [trimBlanks_eq, List.dropWhile_eq_nil_iff.2 hall, List.rdropWhile_nil]
    · have hhead : ∀ c ∈ (t ++ after).head?, isBlank c = false := by
        rwa [List.head?_append_of_ne_nil _ ht]
      rw [trimBlanks_eq, List.append_assoc, dropWhile_blanks hbefore hhead, List.rdropWhile,
        List.reverse_append, dropWhile_blanks (by simpa using hafter) (by simpa using hlast),
        List.reverse_reverse]
  · rintro rfl
    set r := s.dropWhile isBlank with hr
    have hsplit : r = trimBlanks s ++ r.rtakeWhile isBlank :=
      List.rdropWhile_append_rtakeWhile.symm
    refine ⟨⟨s.takeWhile isBlank, r.rtakeWhile isBlank, ?_, fun c => List.mem_takeWhile_imp,
      fun c => List.mem_rtakeWhile_imp⟩, fun c hc => ?_, fun c hc => ?_⟩
    · rw [List.append_assoc, ← hsplit, hr, List.takeWhile_append_dropWhile]
    · have hc' : c ∈ r.head? := by
        rw [hsplit]
        exact List.mem_head?_append_of_mem_head? hc
      have hfirst := List.head?_dropWhile_not isBlank s
      rw [← hr, hc'] at hfirst
      simpa using hfirst
    · obtain ⟨hne, rfl⟩ := List.mem_getLast?_eq_getLast hc
      exact Bool.eq_false_iff.2 (List.rdropWhile_last_not isBlank r hne)

/-! ### Kinds of settings -/

/-- What fields and variables say about the value of a setting. -/
structure Kind (α : Type) where
  /-- The JSON values of the right type, each with what it stands for. -/
  inField : Value → α → Prop
  /-- The texts of variables, each with what it stands for. -/
  inVariable : String → α → Prop

namespace Kind

variable {α : Type}

/-- A flag is set by one of three words in any case, with or without blanks around it, and cleared
by any other text. -/
def flag : Kind Bool where
  inField v b := v = .bool b
  inVariable text b := b = true ↔
    ∃ word ∈ ["true", "1", "yes"], ∃ t, TrimsTo text.toList t ∧ t.map Char.toLower = word.toList

/-- A text is taken as it is. -/
def text : Kind String where
  inField v s := v = .string s
  inVariable text s := s = text

/-- A pattern may be missing. In a variable it has no blanks around it, and an empty one is none. -/
def pattern : Kind (Option String) where
  inField v p := v = .null ∧ p = none ∨ ∃ s, v = .string s ∧ p = some s
  inVariable text p :=
    ∃ t, TrimsTo text.toList t ∧ p = if t = [] then none else some (String.ofList t)

/-- Whether a field of a document is of the right type, if there is one. -/
def Fits (k : Kind α) (field : Option Value) : Prop := ∀ v ∈ field, ∃ a, k.inField v a

/-- The value of a setting: that of a variable, else that of a field, else the usual one. -/
structure Layered (k : Kind α) (usual : α) (field : Option Value) (var : Option String)
    (a : α) : Prop where
  ofVariable : ∀ text, var = some text → k.inVariable text a
  ofField : var = none → ∀ v, field = some v → k.inField v a
  ofNeither : var = none → field = none → a = usual

/-! ### How they are read -/

/-- A reader of JSON values and one of texts that read what a kind has. -/
structure ReadBy (k : Kind α) (read : Value → Except ShapeError α) (set : String → α) : Prop where
  inField : ∀ v a, read v = .ok a ↔ k.inField v a
  inVariable : ∀ text a, k.inVariable text a ↔ a = set text

lemma readFlag_eq_true_iff {text : String} : readFlag text = true ↔ ∃ word ∈ ["true", "1", "yes"],
    ∃ t, TrimsTo text.toList t ∧ t.map Char.toLower = word.toList := by
  have hword (word : String) :
      String.ofList ((trimBlanks text.toList).map Char.toLower) = word ↔
        ∃ t, TrimsTo text.toList t ∧ t.map Char.toLower = word.toList := by
    simp only [trimsTo_iff, exists_eq_left']
    rw [← String.toList_inj, String.toList_ofList]
  simp only [readFlag, decide_eq_true_eq, ← hword]
  simp

lemma flag_readBy : flag.ReadBy Value.asBool readFlag where
  inField v b := by cases v <;> simp [flag, Value.asBool]
  inVariable text b := by
    change (b = true ↔ _) ↔ b = readFlag text
    rw [← readFlag_eq_true_iff, ← Bool.eq_iff_iff]

lemma text_readBy : text.ReadBy Value.asString id where
  inField v s := by cases v <;> simp [text, Value.asString]
  inVariable _ _ := Iff.rfl

lemma pattern_readBy : pattern.ReadBy Value.asOptionalString readPattern where
  inField v p := by cases v <;> simp [pattern, Value.asOptionalString, eq_comm]
  inVariable text p := by
    simp only [pattern, trimsTo_iff, exists_eq_left', readPattern, List.isEmpty_iff]

section

variable {k : Kind α} {read : Value → Except ShapeError α} {set : String → α} {usual : α}
  {field : Option Value}

/-- A field is read if and only if it is missing or of the right type. -/
lemma ReadBy.fits_iff (h : k.ReadBy read set) :
    k.Fits field ↔ ∃ a, readField read usual field = .ok a := by
  cases field with
  | none => simp [Fits, readField]
  | some v => simp [Fits, readField, h.inField]

/-- The value in layers is what is read of the field, with what the variable says in place of it. -/
lemma ReadBy.layered_iff (h : k.ReadBy read set) {b : α} (hb : readField read usual field = .ok b)
    {var : Option String} {a : α} :
    k.Layered usual field var a ↔ a = (var.map set).getD b := by
  cases var with
  | some text =>
    refine ⟨fun ha => (h.inVariable text a).1 (ha.ofVariable text rfl),
      fun ha => ⟨?_, nofun, nofun⟩⟩
    rintro _ ⟨⟩
    exact (h.inVariable text a).2 ha
  | none =>
    cases field with
    | none =>
      cases hb
      exact ⟨fun ha => ha.ofNeither rfl rfl, fun ha => ⟨nofun, nofun, fun _ _ => ha⟩⟩
    | some v =>
      refine ⟨fun ha => ?_, fun ha => ⟨nofun, fun _ w hw => ?_, nofun⟩⟩
      · have hread := (h.inField v a).2 (ha.ofField rfl v rfl)
        exact Except.ok.inj (hread.symm.trans hb)
      · cases hw
        cases ha
        exact (h.inField v b).1 hb

end

end Kind

end AppLinks
