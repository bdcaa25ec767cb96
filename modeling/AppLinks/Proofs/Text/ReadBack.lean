import AppLinks.Proofs.Text.Percent
import Mathlib.Tactic.SplitIfs

/-!
Encoded texts are read back.

The octets of a character are read as that character wherever they stand, so no fault is ever found
in the octets of a text. An encoding that escapes the percent sign writes every octet in a way of
its own, and what it writes stands for the octets of the text.
-/

namespace AppLinks.Text

namespace Utf8

variable {r : List UInt8} {low high bits : Nat}

/-! ### Octets of one character -/

/-- No character has the number of a surrogate. -/
lemma not_surrogate (c : Char) : c.toNat < 0xD800 ∨ 0xDFFF < c.toNat := by
  rcases c.valid with h | h
  · exact .inl h
  · exact .inr h.1

lemma toNat_ofNat {n : Nat} (hn : n < 256) : (UInt8.ofNat n).toNat = n :=
  UInt8.toNat_ofNat_of_lt' hn

lemma scan_opens {b : UInt8} {p : Partial} (h : lead b = .opens p) :
    scan none (b :: r) = scan (some p) r := by
  rw [scan, h]

/-- An octet after the first one holds six bits. -/
lemma toNat_tail (n : Nat) : (UInt8.ofNat (0x80 + n % 64)).toNat = 0x80 + n % 64 ∧
    (0x80 + n % 64) % 64 = n % 64 :=
  ⟨toNat_ofNat (by omega), by omega⟩

lemma scan_last {n : Nat} (hlow : low ≤ 0x80 + n % 64) (hhigh : 0x80 + n % 64 ≤ high) :
    scan (some ⟨0, low, high, bits⟩) (UInt8.ofNat (0x80 + n % 64) :: r) =
      some (Char.ofNat (bits * 64 + n % 64)) :: scan none r := by
  obtain ⟨hb, hbits⟩ := toNat_tail n
  rw [scan, hb, hbits, if_pos ⟨hlow, hhigh⟩]

lemma scan_more {owed n : Nat} (hlow : low ≤ 0x80 + n % 64) (hhigh : 0x80 + n % 64 ≤ high) :
    scan (some ⟨owed + 1, low, high, bits⟩) (UInt8.ofNat (0x80 + n % 64) :: r) =
      scan (some ⟨owed, 0x80, 0xBF, bits * 64 + n % 64⟩) r := by
  obtain ⟨hb, hbits⟩ := toNat_tail n
  rw [scan, hb, hbits, if_pos ⟨hlow, hhigh⟩]

/-- The first of two octets. -/
lemma lead_two {n : Nat} (hlow : 0x80 ≤ n) (hhigh : n < 0x800) :
    lead (UInt8.ofNat (0xC0 + n / 64)) = .opens ⟨0, 0x80, 0xBF, n / 64⟩ := by
  have hb : (UInt8.ofNat (0xC0 + n / 64)).toNat = 0xC0 + n / 64 := toNat_ofNat (by omega)
  unfold lead
  simp only [hb]
  rw [if_neg (by omega), if_neg (by omega), if_pos (by omega), Nat.add_sub_cancel_left]

/-- The first of three octets, with what it asks of the second one. -/
lemma lead_three {n : Nat} (hlow : 0x800 ≤ n) (hhigh : n < 0x10000)
    (hchar : n < 0xD800 ∨ 0xDFFF < n) :
    ∃ low high, lead (UInt8.ofNat (0xE0 + n / 4096)) = .opens ⟨1, low, high, n / 4096⟩ ∧
      low ≤ 0x80 + n / 64 % 64 ∧ 0x80 + n / 64 % 64 ≤ high := by
  have hb : (UInt8.ofNat (0xE0 + n / 4096)).toNat = 0xE0 + n / 4096 := toNat_ofNat (by omega)
  unfold lead
  simp only [hb]
  rw [if_neg (by omega), if_neg (by omega), if_neg (by omega)]
  by_cases hfirst : n / 4096 = 0
  · rw [if_pos (by omega)]
    exact ⟨_, _, by rw [hfirst], by omega, by omega⟩
  by_cases hsurrogate : n / 4096 = 0xD
  · rw [if_neg (by omega), if_pos (by omega)]
    exact ⟨_, _, by rw [hsurrogate], by omega, by omega⟩
  · rw [if_neg (by omega), if_neg (by omega), if_pos (by omega), Nat.add_sub_cancel_left]
    exact ⟨_, _, rfl, by omega, by omega⟩

/-- The first of four octets, with what it asks of the second one. -/
lemma lead_four {n : Nat} (hlow : 0x10000 ≤ n) (hhigh : n < 0x110000) :
    ∃ low high, lead (UInt8.ofNat (0xF0 + n / 262144)) = .opens ⟨2, low, high, n / 262144⟩ ∧
      low ≤ 0x80 + n / 4096 % 64 ∧ 0x80 + n / 4096 % 64 ≤ high := by
  have hb : (UInt8.ofNat (0xF0 + n / 262144)).toNat = 0xF0 + n / 262144 := toNat_ofNat (by omega)
  unfold lead
  simp only [hb]
  rw [if_neg (by omega), if_neg (by omega), if_neg (by omega), if_neg (by omega),
    if_neg (by omega), if_neg (by omega)]
  by_cases hfirst : n / 262144 = 0
  · rw [if_pos (by omega)]
    exact ⟨_, _, by rw [hfirst], by omega, by omega⟩
  by_cases hlast : n / 262144 = 4
  · rw [if_neg (by omega), if_neg (by omega), if_pos (by omega)]
    exact ⟨_, _, by rw [hlast], by omega, by omega⟩
  · rw [if_neg (by omega), if_pos (by omega), Nat.add_sub_cancel_left]
    exact ⟨_, _, rfl, by omega, by omega⟩

/-- The octets of a character are read as the character. -/
lemma scan_encodeChar (c : Char) (r : List UInt8) :
    scan none (encodeChar c ++ r) = some c :: scan none r := by
  have hlt := toNat_lt_of_char c
  have hsurrogate := not_surrogate c
  have hchar := Char.ofNat_toNat c
  generalize hn : c.toNat = n at hlt hsurrogate hchar
  unfold encodeChar
  rw [hn]
  dsimp only
  split_ifs with hone htwo hthree
  · have hb : (UInt8.ofNat n).toNat = n := toNat_ofNat (by omega)
    have hlead : lead (UInt8.ofNat n) = .whole c := by
      simp only [lead, hb, if_pos hone, hchar]
    rw [List.singleton_append, scan, hlead]
  · have hbits : n / 64 * 64 + n % 64 = n := by omega
    rw [List.cons_append, List.singleton_append, scan_opens (lead_two (by omega) htwo),
      scan_last (by omega) (by omega), hbits, hchar]
  · have hbits : (n / 4096 * 64 + n / 64 % 64) * 64 + n % 64 = n := by omega
    obtain ⟨low, high, hlead, hlow, hhigh⟩ :=
      lead_three (Nat.le_of_not_lt htwo) hthree hsurrogate
    rw [List.cons_append, List.cons_append, List.singleton_append, scan_opens hlead,
      scan_more hlow hhigh, scan_last (by omega) (by omega), hbits, hchar]
  · have hbits : ((n / 262144 * 64 + n / 4096 % 64) * 64 + n / 64 % 64) * 64 + n % 64 = n := by
      omega
    obtain ⟨low, high, hlead, hlow, hhigh⟩ := lead_four (Nat.le_of_not_lt hthree) hlt
    rw [List.cons_append, List.cons_append, List.cons_append, List.singleton_append,
      scan_opens hlead, scan_more hlow hhigh, scan_more (by omega) (by omega),
      scan_last (by omega) (by omega), hbits, hchar]

/-- The octets of a text are read as the text. -/
lemma decodeLossy_encode (s : List Char) : decodeLossy (encode s) = s := by
  have hscan : scan none (encode s) = s.map some := by
    induction s with
    | nil => rfl
    | cons c s ih => rw [encode, List.flatMap_cons, scan_encodeChar, ← encode, ih, List.map_cons]
  rw [decodeLossy, hscan, List.map_map]
  exact List.map_id s

end Utf8

namespace Percent

/-! ### Escapes -/

lemma decode_escape (b : UInt8) (r : List Char) : decode (escape b ++ r) = b :: decode r := by
  have hb := b.toNat_lt
  have hvalue : 16 * (b.toNat / 16) + b.toNat % 16 = b.toNat := Nat.div_add_mod _ _
  rw [escape, List.cons_append, List.cons_append, List.singleton_append, decode,
    hexValue?_hexDigit _ (by omega), hexValue?_hexDigit _ (by omega)]
  dsimp only
  rw [hvalue, UInt8.ofNat_toNat]

lemma decode_escapes (bs : List UInt8) (r : List Char) :
    decode (bs.flatMap escape ++ r) = bs ++ decode r := by
  induction bs with
  | nil => rfl
  | cons b bs ih =>
    rw [List.flatMap_cons, List.append_assoc, decode_escape, ih, List.cons_append]

lemma decode_cons {c : Char} (hc : c ≠ '%') (r : List Char) :
    decode (c :: r) = Utf8.encodeChar c ++ decode r := by
  rw [decode]
  rintro h l t rfl
  exact absurd rfl hc

/-- What is written for a text stands for its octets, if the percent sign is escaped. -/
lemma decode_encode {escapes : Char → Bool} (hpercent : escapes '%' = true) (s : List Char) :
    decode (encode escapes s) = Utf8.encode s := by
  induction s with
  | nil => rfl
  | cons c s ih =>
    rw [encode_cons, encodeChar, Utf8.encode, List.flatMap_cons, ← Utf8.encode]
    split
    · rw [decode_escapes, ih]
    · rename_i hkept
      have hc : c ≠ '%' := by
        rintro rfl
        simp [hpercent] at hkept
      rw [List.singleton_append, decode_cons hc, ih]

/-- **Encoded texts are read back.** -/
theorem decodeText_encode {escapes : Char → Bool} (hpercent : escapes '%' = true)
    (s : List Char) : decodeText (encode escapes s) = s := by
  rw [decodeText, decode_encode hpercent, Utf8.decodeLossy_encode]

end Percent

end AppLinks.Text
