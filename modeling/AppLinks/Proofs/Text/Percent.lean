import AppLinks.Text.Percent
import Mathlib.Tactic.Common

/-!
What the encoded form of a text holds.

An escape is a percent sign with two hexadecimal digits. So any other character stands in an encoded
text if and only if it stands in the text and is not escaped, and an escape never writes a character
that was left as it is.
-/

namespace AppLinks.Text

namespace Utf8

lemma encodeChar_ne_nil (c : Char) : encodeChar c ≠ [] := by
  simp only [encodeChar]
  split_ifs <;> simp

lemma length_encodeChar_le (c : Char) : (encodeChar c).length ≤ 4 := by
  simp only [encodeChar]
  split_ifs <;> simp

lemma toNat_lt_of_char (c : Char) : c.toNat < 0x110000 := by
  rcases c.valid with h | h
  · exact Nat.lt_trans h (by decide)
  · exact h.2

/-- A first octet below 128 is the character itself. -/
lemma toNat_eq_of_encodeChar {c : Char} {b : UInt8} {bs : List UInt8}
    (h : encodeChar c = b :: bs) (hb : b.toNat < 0x80) : c.toNat = b.toNat := by
  have hc := toNat_lt_of_char c
  simp only [encodeChar] at h
  split_ifs at h <;> obtain ⟨rfl, -⟩ := List.cons.inj h <;>
    simp only [UInt8.toNat_ofNat'] at hb ⊢ <;> omega

end Utf8

namespace Percent

lemma hexValue?_hexDigit : ∀ n < 16, hexValue? (hexDigit n) = some n := by decide

lemma mem_escape {x : Char} {b : UInt8} (h : x ∈ escape b) :
    x = '%' ∨ (hexValue? x).isSome = true := by
  have hb := b.toNat_lt
  have hdigit {n : Nat} (hn : n < 16) (hx : x = hexDigit n) : (hexValue? x).isSome = true := by
    rw [hx, hexValue?_hexDigit n hn]
    rfl
  simp only [escape, List.mem_cons, List.not_mem_nil, or_false] at h
  rcases h with h | h | h
  · exact .inl h
  · exact .inr (hdigit (by omega) h)
  · exact .inr (hdigit (by omega) h)

/-- A character that no escape holds is in an encoded text if it is in the text and is not
escaped. -/
lemma mem_encode_iff {x : Char} (hx : x ≠ '%') (hhex : hexValue? x = none) {escapes : Char → Bool}
    {s : List Char} : x ∈ encode escapes s ↔ x ∈ s ∧ escapes x = false ∧ x.toNat < 0x80 := by
  have hchar (c : Char) :
      x ∈ encodeChar escapes c ↔ x = c ∧ escapes x = false ∧ x.toNat < 0x80 := by
    unfold encodeChar
    split
    · rename_i hescaped
      have hnot : x ∉ (Utf8.encodeChar c).flatMap escape := by
        intro hmem
        obtain ⟨b, -, hb⟩ := List.mem_flatMap.1 hmem
        rcases mem_escape hb with h | h
        · exact hx h
        · simp [hhex] at h
      refine iff_of_false hnot ?_
      rintro ⟨rfl, hkept, hascii⟩
      simp [hkept] at hescaped
      omega
    · rename_i hkept
      rw [Bool.or_eq_true, not_or, Bool.not_eq_true, decide_eq_true_eq, Nat.not_le] at hkept
      rw [List.mem_singleton]
      exact ⟨fun h => ⟨h, h ▸ hkept⟩, fun h => h.1⟩
  rw [encode, List.mem_flatMap]
  refine ⟨?_, ?_⟩
  · rintro ⟨c, hc, hmem⟩
    obtain ⟨rfl, h⟩ := (hchar c).1 hmem
    exact ⟨hc, h⟩
  · rintro ⟨hmem, h⟩
    exact ⟨x, hmem, (hchar x).2 ⟨rfl, h⟩⟩

@[simp] lemma encode_nil (escapes : Char → Bool) : encode escapes [] = [] := rfl

@[simp] lemma encode_cons (escapes : Char → Bool) (c : Char) (s : List Char) :
    encode escapes (c :: s) = encodeChar escapes c ++ encode escapes s := rfl

lemma encode_ne_nil {escapes : Char → Bool} {s : List Char} (hs : s ≠ []) :
    encode escapes s ≠ [] := by
  obtain ⟨c, s, rfl⟩ := List.exists_cons_of_ne_nil hs
  have hchar : encodeChar escapes c ≠ [] := by
    unfold encodeChar
    split
    · obtain ⟨b, bs, hb⟩ := List.exists_cons_of_ne_nil (Utf8.encodeChar_ne_nil c)
      simp [hb, escape]
    · simp
  rw [encode_cons]
  exact fun h => hchar (List.append_eq_nil_iff.1 h).1

/-- Two encodings write a text alike that has no character which only one of them escapes. -/
lemma length_encode_le (escapes : Char → Bool) (s : List Char) :
    (encode escapes s).length ≤ 12 * s.length := by
  have hescape (bs : List UInt8) : (bs.flatMap escape).length = 3 * bs.length := by
    induction bs with
    | nil => rfl
    | cons b bs ih =>
      rw [List.flatMap_cons, List.length_append, ih, List.length_cons, Nat.mul_succ, Nat.add_comm]
      rfl
  have hchar (c : Char) : (encodeChar escapes c).length ≤ 12 := by
    have hle := Utf8.length_encodeChar_le c
    unfold encodeChar
    split
    · rw [hescape]
      omega
    · simp
  induction s with
  | nil => simp [encode]
  | cons c s ih =>
    have hc := hchar c
    rw [encode, List.flatMap_cons, List.length_append, ← encode, List.length_cons]
    omega

lemma encode_congr {f g : Char → Bool} {s : List Char} (h : ∀ c ∈ s, f c = g c) :
    encode f s = encode g s := by
  induction s with
  | nil => rfl
  | cons c s ih =>
    have hs := ih fun d hd => h d (List.mem_cons_of_mem _ hd)
    rw [encode_cons, encode_cons, hs, encodeChar, encodeChar, h c (by simp)]

end Percent

end AppLinks.Text
