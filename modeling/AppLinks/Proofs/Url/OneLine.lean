import AppLinks.Proofs.Result
import AppLinks.Proofs.Text.Percent
import AppLinks.Url.Parse

/-!
The host and the path of a URL stand on one line, and no slash is in the host.

What a URL is read from may hold line feeds and slashes, and so may what its escapes stand for. But
a path is kept in its encoded form, and a host is encoded, checked for characters that no host may
hold, or written anew from numbers.
-/

namespace AppLinks.Url

open Result

/-- A text without a character. -/
def Lacks (x : Char) (s : List Char) : Prop := x ∉ s

/-- A text without line feeds. -/
abbrev OneLine (s : List Char) : Prop := Lacks '\n' s

namespace Lacks

variable {x : Char}

@[simp] lemma nil : Lacks x [] := by simp [Lacks]

@[simp] lemma cons_iff {c : Char} {s : List Char} : Lacks x (c :: s) ↔ c ≠ x ∧ Lacks x s := by
  simp [Lacks, eq_comm]

@[simp] lemma append_iff {s t : List Char} : Lacks x (s ++ t) ↔ Lacks x s ∧ Lacks x t := by
  simp [Lacks]

lemma of_subset {s t : List Char} (ht : Lacks x t) (h : s ⊆ t) : Lacks x s := fun hs => ht (h hs)

lemma flatMap {α : Type} {l : List α} {f : α → List Char} (h : ∀ a ∈ l, Lacks x (f a)) :
    Lacks x (l.flatMap f) := by
  intro hmem
  obtain ⟨a, ha, hmem⟩ := List.mem_flatMap.1 hmem
  exact h a ha hmem

lemma intercalate {sep : List Char} {l : List (List Char)} (hsep : Lacks x sep)
    (h : ∀ s ∈ l, Lacks x s) : Lacks x (sep.intercalate l) := by
  induction l with
  | nil => simp
  | cons s l ih =>
    have hl := ih fun t ht => h t (List.mem_cons_of_mem _ ht)
    have hs := h s (by simp)
    by_cases hnil : l = []
    · simpa [hnil] using hs
    · rw [List.intercalate_cons_of_ne_nil hnil]
      simp [hs, hl, hsep]

end Lacks

/-- What no host holds. -/
def IsBreak (x : Char) : Prop := x = '\n' ∨ x = '/'

lemma IsBreak.ne {x c : Char} (hx : IsBreak x) (hline : c ≠ '\n') (hslash : c ≠ '/') : c ≠ x := by
  rcases hx with rfl | rfl
  · exact hline
  · exact hslash

/-! ### Encoded texts -/

section Encoded

variable {x : Char} (hx : IsBreak x)
include hx

/-- An encoding leaves no character that it escapes, and brings none into a text. -/
lemma lacks_encode {escapes : Char → Bool} {s : List Char} (h : escapes x = true ∨ Lacks x s) :
    Lacks x (Text.Percent.encode escapes s) := by
  have hchar : x ≠ '%' ∧ Text.Percent.hexValue? x = none := by
    rcases hx with rfl | rfl <;> decide
  intro hmem
  obtain ⟨hs, hkept, -⟩ := (Text.Percent.mem_encode_iff hchar.1 hchar.2).1 hmem
  rcases h with h | h
  · exact Bool.false_ne_true (hkept.symm.trans h)
  · exact h hs

end Encoded

lemma oneLine_encode {escapes : Char → Bool} (hescapes : escapes '\n' = true) (s : List Char) :
    OneLine (Text.Percent.encode escapes s) := lacks_encode (.inl rfl) (.inl hescapes)

/-! ### Paths -/

lemma oneLine_render {l : List (List Char)} (h : ∀ s ∈ l, OneLine s) : OneLine (Path.render l) :=
  Lacks.flatMap fun s hs => by simpa using h s hs

lemma back_subset (done : List (List Char)) : Path.back done ⊆ done := by
  unfold Path.back
  split
  · split
    · exact fun _ h => h
    · exact List.dropLast_subset done
  · exact fun _ h => h

/-- Dots are resolved among encoded segments. -/
lemma oneLine_resolve {done : List (List Char)} (hdone : ∀ s ∈ done, OneLine s)
    (l : List (List Char)) : ∀ s ∈ Path.resolve done l, OneLine s := by
  induction l generalizing done with
  | nil => exact hdone
  | cons s l ih =>
    have hlast {d : List (List Char)} (hd : ∀ s ∈ d, OneLine s) :
        ∀ s ∈ d ++ if l.isEmpty then [[]] else [], OneLine s := by
      intro t ht
      rcases List.mem_append.1 ht with ht | ht
      · exact hd t ht
      · split at ht
        · rw [List.mem_singleton.1 ht]
          exact Lacks.nil
        · cases ht
    rw [Path.resolve]
    split
    · exact ih (hlast fun t ht => hdone t (back_subset done ht))
    · split
      · exact ih (hlast hdone)
      · refine ih fun t ht => ?_
        rcases List.mem_append.1 ht with ht | ht
        · exact hdone t ht
        · rw [List.mem_singleton.1 ht]
          exact oneLine_encode (by decide) s

lemma oneLine_read (special : Bool) (s : List Char) : ∀ t ∈ Path.read special s, OneLine t :=
  oneLine_resolve (by simp) _

lemma oneLine_readFile (s : List Char) : ∀ t ∈ (Path.readFile s).1, OneLine t := by
  have hread := oneLine_read true s
  have hkeep {l : List (List Char)} (hl : ∀ t ∈ l, OneLine t) :
      ∀ t ∈ (if (l.dropWhile (·.isEmpty)).isEmpty then [[]] else l.dropWhile (·.isEmpty)),
        OneLine t := by
    intro t ht
    split at ht
    · rw [List.mem_singleton.1 ht]
      exact Lacks.nil
    · exact hl t ((List.dropWhile_sublist _).subset ht)
  unfold Path.readFile
  cases hr : Path.read true s with
  | nil => exact hkeep (l := []) (by simp)
  | cons f r =>
    rw [hr] at hread
    have hf := hread f (by simp)
    have hrest : ∀ t ∈ r, OneLine t := fun t ht => hread t (List.mem_cons_of_mem _ ht)
    dsimp only
    by_cases hdrive : Path.isDrive f = true
    · rw [if_pos hdrive]
      refine hkeep fun t ht => ?_
      rcases List.mem_cons.1 ht with rfl | ht
      · simpa using hf.of_subset (List.take_subset 1 f)
      · exact hrest t ht
    · rw [if_neg hdrive]
      exact hkeep hread

lemma oneLine_readPath (special : Bool) (s : List Char) : OneLine (readPath special s).text := by
  unfold readPath
  dsimp only
  split
  · split
    · exact oneLine_render (by simp)
    · exact oneLine_render (by simp)
  · exact oneLine_render (oneLine_read special _)

/-! ### Hosts -/

section Hosts

variable {x : Char} (hx : IsBreak x)
include hx

lemma IsBreak.ofNat_ne {n : Nat} (hline : n ≠ 10) (hslash : n ≠ 47) : Char.ofNat n ≠ x := by
  unfold Char.ofNat
  by_cases hv : n.isValidChar
  · rw [dif_pos hv]
    exact hx.ne (fun h => hline (congrArg Char.toNat h)) fun h => hslash (congrArg Char.toNat h)
  · rw [dif_neg hv]
    exact hx.ne (by decide) (by decide)

/-- The digits of Punycode. -/
lemma lacks_numeral (bias k q : Nat) : Lacks x (Punycode.numeral bias k q) := by
  have hdigit (d : Nat) : Punycode.digitChar d ≠ x := by
    unfold Punycode.digitChar
    split
    · exact hx.ofNat_ne (by omega) (by omega)
    · exact hx.ofNat_ne (by omega) (by omega)
  fun_induction Punycode.numeral bias k q with
  | case1 => simp [hdigit]
  | case2 k q t h ih => simp [hdigit, ih]

lemma lacks_writeAll (label : List Char) (basic : Nat) (ms : List Nat) (n : Nat)
    (w : Punycode.Writing) (hw : Lacks x w.out) :
    Lacks x (Punycode.writeAll label basic ms n w).out := by
  have hvisit (m : Nat) (w : Punycode.Writing) (c : Char) (hw : Lacks x w.out) :
      Lacks x (w.visit basic m c).out := by
    unfold Punycode.Writing.visit
    split
    · exact hw
    · split
      · exact Lacks.append_iff.2 ⟨hw, lacks_numeral hx _ _ _⟩
      · exact hw
  have hpass (m : Nat) (l : List Char) (w : Punycode.Writing) (hw : Lacks x w.out) :
      Lacks x (l.foldl (Punycode.Writing.visit basic m) w).out := by
    induction l generalizing w with
    | nil => exact hw
    | cons c l ih => exact ih _ (hvisit m w c hw)
  induction ms generalizing n w with
  | nil => exact hw
  | cons m ms ih => exact ih _ _ (hpass m label _ hw)

lemma lacks_writeLabel {l : List Char} (hl : Lacks x l) : Lacks x (Domain.writeLabel l) := by
  have hmark : Lacks x Domain.mark := by
    rcases hx with rfl | rfl <;> simp [Lacks, Domain.mark]
  unfold Domain.writeLabel
  split
  · exact hl
  · have hbasic : Lacks x (l.filter (·.toNat < 0x80)) := hl.of_subset List.filter_sublist.subset
    refine Lacks.append_iff.2 ⟨hmark, ?_⟩
    refine Lacks.append_iff.2 ⟨?_, lacks_writeAll hx _ _ _ _ _ Lacks.nil⟩
    split
    · exact Lacks.nil
    · exact Lacks.append_iff.2 ⟨hbasic, by simpa using hx.ne (by decide) (by decide)⟩

lemma lacks_join {ls : List (List Char)} (h : ∀ l ∈ ls, Lacks x l) :
    Lacks x (Domain.join ls) := by
  fun_induction Domain.join ls with
  | case1 => exact Lacks.nil
  | case2 l => exact h l (by simp)
  | case3 l ls hne ih =>
    have hl := h l (by simp)
    have hls := ih fun t ht => h t (List.mem_cons_of_mem _ ht)
    have hdot : '.' ≠ x := hx.ne (by decide) (by decide)
    simp [hl, hls, hdot]

/-- A domain name was checked for forbidden characters before it was written. -/
lemma lacks_toAscii {name domain : List Char} (h : Domain.toAscii name = .ok domain) :
    Lacks x domain := by
  have hx' : Domain.isForbidden x = true := by
    rcases hx with rfl | rfl <;> decide
  unfold Domain.toAscii at h
  split at h
  · cases h
  · dsimp only at h
    split at h
    · cases h
    · rename_i ls _
      split at h
      · cases h
      · rename_i hcheck
        cases h
        refine lacks_join hx fun t ht => ?_
        obtain ⟨l, hl, rfl⟩ := List.mem_map.1 ht
        refine lacks_writeLabel hx fun hmem => ?_
        have hforbidden : ls.any (·.any Domain.isForbidden) = true :=
          List.any_eq_true.2 ⟨l, hl, List.any_eq_true.2 ⟨x, hmem, hx'⟩⟩
        exact hcheck (by rw [hforbidden, Bool.true_or])

lemma lacks_toDigits (b n : Nat) : Lacks x (Nat.toDigits b n) := by
  have hdigit (d : Nat) : Nat.digitChar d ≠ x := by
    have hsmall : ∀ d < 16, Nat.digitChar d ≠ '\n' ∧ Nat.digitChar d ≠ '/' := by decide
    rcases Nat.lt_or_ge d 16 with hd | hd
    · exact hx.ne (hsmall d hd).1 (hsmall d hd).2
    · obtain ⟨k, rfl⟩ := Nat.exists_eq_add_of_le' hd
      have hother : Nat.digitChar (k + 16) = '*' := by simp [Nat.digitChar]
      rw [hother]
      exact hx.ne (by decide) (by decide)
  have hcore (fuel n : Nat) (ds : List Char) (hds : Lacks x ds) :
      Lacks x (Nat.toDigitsCore b fuel n ds) := by
    induction fuel generalizing n ds with
    | zero => exact hds
    | succ fuel ih =>
      rw [Nat.toDigitsCore]
      split
      · simp [hdigit, hds]
      · exact ih _ _ (by simp [hdigit, hds])
  exact hcore _ _ _ Lacks.nil

/-- An address is written with digits, dots, colons and brackets. -/
lemma lacks_hostText_of_address {h : Host} (hname : ∀ t, h ≠ .name t) : Lacks x h.text := by
  have hmarks : ∀ c ∈ ['.', ':', '[', ']'], c ≠ x := by
    rcases hx with rfl | rfl <;> simp
  cases h with
  | name t => exact absurd rfl (hname t)
  | ipv4 a =>
    rw [Host.text, Ipv4.render, String.toList_intercalate]
    refine Lacks.intercalate (by simpa using hmarks '.' (by simp)) fun s hs => ?_
    simp only [List.map_map, List.mem_map] at hs
    obtain ⟨n, -, rfl⟩ := hs
    simpa [toString] using lacks_toDigits hx 10 n
  | ipv6 ps =>
    have hcolon : ':' ≠ x := hmarks ':' (by simp)
    have htext (l : List Nat) : Lacks x (":".intercalate (l.map Ipv6.renderPiece)).toList := by
      rw [String.toList_intercalate]
      refine Lacks.intercalate (by simpa using hcolon) fun s hs => ?_
      simp only [List.map_map, List.mem_map] at hs
      obtain ⟨n, -, rfl⟩ := hs
      simpa [Ipv6.renderPiece] using lacks_toDigits hx 16 n
    have hrender : Lacks x (Ipv6.render ps).toList := by
      unfold Ipv6.render
      dsimp only
      split
      · exact htext ps
      · rw [String.toList_append, String.toList_append]
        exact Lacks.append_iff.2 ⟨Lacks.append_iff.2 ⟨htext _, by simp [hcolon]⟩, htext _⟩
    simpa [Host.text, hrender] using
      And.intro (hmarks '[' (by simp)) (hmarks ']' (by simp))

lemma lacks_ofBrackets {s : List Char} {h : Host} (hs : Host.ofBrackets s = .ok h) :
    Lacks x h.text := by
  unfold Host.ofBrackets at hs
  split at hs
  · obtain ⟨ps, -, rfl⟩ := map_eq_ok.1 hs
    exact lacks_hostText_of_address hx (by simp)
  · cases hs

lemma lacks_ofDomain {s : List Char} {h : Host} (hs : Host.ofDomain s = .ok h) :
    Lacks x h.text := by
  unfold Host.ofDomain at hs
  split at hs
  · exact lacks_ofBrackets hx hs
  · split at hs
    · cases hs
    · obtain ⟨domain, hd, hs⟩ := bind_eq_ok.1 hs
      split at hs
      · cases hs
      · split at hs
        · obtain ⟨a, -, rfl⟩ := map_eq_ok.1 hs
          exact lacks_hostText_of_address hx (by simp)
        · cases hs
          exact lacks_toAscii hx hd

/-- Any other name was checked before it was encoded. -/
lemma lacks_ofName {s : List Char} {h : Host} (hs : Host.ofName s = .ok h) :
    Lacks x h.text := by
  have hx' : Host.isForbidden x = true := by
    rcases hx with rfl | rfl <;> decide
  unfold Host.ofName at hs
  split at hs
  · exact lacks_ofBrackets hx hs
  · split at hs
    · cases hs
    · rename_i hcheck
      cases hs
      exact lacks_encode hx (.inr fun hmem => hcheck (List.any_eq_true.2 ⟨x, hmem, hx'⟩))

end Hosts

/-! ### URLs -/

/-- No break is in a host. -/
def Host.Unbroken (h : Host) : Prop := ∀ x, IsBreak x → Lacks x h.text

lemma unbroken_readHost {special : Bool} {s rest : List Char} {host : Option Host}
    (h : readHost special s = .ok (host, rest)) : ∀ a ∈ host, a.Unbroken := by
  unfold readHost at h
  dsimp only at h
  split at h
  · split at h
    · cases h
    · cases h
      simp
  · split at h
    · obtain ⟨a, ha, h⟩ := bind_eq_ok.1 h
      cases h
      rintro _ ⟨⟩ x hx
      exact lacks_ofDomain hx ha
    · obtain ⟨a, ha, h⟩ := bind_eq_ok.1 h
      cases h
      rintro _ ⟨⟩ x hx
      exact lacks_ofName hx ha

/-- The host of an authority was read as a host. -/
lemma unbroken_readAuthority {scheme s rest : List Char} {a : Authority}
    (h : readAuthority scheme s = .ok (a, rest)) : ∀ b ∈ a.host, b.Unbroken := by
  unfold readAuthority at h
  dsimp only at h
  split at h
  · cases h
  · obtain ⟨⟨host, r⟩, hhost, h⟩ := bind_eq_ok.1 h
    obtain ⟨⟨port, r'⟩, -, h⟩ := bind_eq_ok.1 h
    dsimp only at h
    split at h
    · cases h
    · cases h
      exact unbroken_readHost hhost

/-- The host and the path of a URL stand on one line, and no slash is in the host. -/
structure Plain (u : Url) : Prop where
  host : ∀ x, IsBreak x → Lacks x u.hostText
  path : OneLine u.path

lemma plain_finish {scheme s : List Char} {authority : Option Authority} {location : Location}
    (ha : ∀ a ∈ authority, ∀ b ∈ a.host, b.Unbroken) (hl : OneLine location.text) :
    Plain (finish scheme authority location s) := by
  refine ⟨fun x hx => ?_, hl⟩
  cases authority with
  | none => exact Lacks.nil
  | some a =>
    have hhost :
        (finish scheme (some a) location s).hostText = (a.host.map Host.text).getD [] := rfl
    rw [hhost]
    cases hb : a.host with
    | none => exact Lacks.nil
    | some b => exact ha a rfl b hb x hx

lemma plain_readFile {s : List Char} {u : Url} (h : readFile s = .ok u) : Plain u := by
  have hbuild {host : Option Host} (hhost : ∀ b ∈ host, b.Unbroken) (p rest : List Char) :
      Plain (finish "file".toList
        (some { host := if (Path.readFile p).2 then none else host })
        (.segments (Path.readFile p).1) rest) := by
    refine plain_finish (fun a ha b hb => ?_) (oneLine_render (oneLine_readFile p))
    cases ha
    dsimp only at hb
    split at hb
    · cases hb
    · exact hhost b hb
  unfold readFile at h
  dsimp only at h
  split at h
  · split at h
    · split at h
      · cases h
        exact hbuild (by simp) _ _
      · have hlocal {host : Option Host} (hhost : ∀ b ∈ host, b.Unbroken) :
            ∀ b ∈ (if host = some (.name "localhost".toList) then none else host),
              b.Unbroken := by
          split
          · simp
          · exact hhost
        split at h
        · obtain ⟨host, hhost, h⟩ := bind_eq_ok.1 h
          cases hhost
          cases h
          exact hbuild (hlocal (by simp)) _ _
        · obtain ⟨host, hhost, h⟩ := bind_eq_ok.1 h
          obtain ⟨b, hb, rfl⟩ := map_eq_ok.1 hhost
          cases h
          refine hbuild (hlocal fun _ h => ?_) _ _
          cases h
          exact fun x hx => lacks_ofDomain hx hb
    · cases h
      exact hbuild (by simp) _ _
  · cases h
    exact hbuild (by simp) _ _

lemma plain_readAfterScheme {scheme s : List Char} {u : Url}
    (h : readAfterScheme scheme s = .ok u) : Plain u := by
  unfold readAfterScheme at h
  split at h
  · exact plain_readFile h
  · split at h
    · obtain ⟨⟨a, rest⟩, ha, h⟩ := bind_eq_ok.1 h
      cases h
      refine plain_finish (fun b hb => ?_) (oneLine_readPath _ _)
      cases hb
      exact unbroken_readAuthority ha
    · split at h
      · obtain ⟨⟨a, rest⟩, ha, h⟩ := bind_eq_ok.1 h
        cases h
        refine plain_finish (fun b hb => ?_) (oneLine_readPath _ _)
        cases hb
        exact unbroken_readAuthority ha
      · cases h
        exact plain_finish (by simp) (oneLine_render (oneLine_read _ _))
      · cases h
        exact plain_finish (by simp) (oneLine_encode (by decide) _)

/-- A text that can be read as a URL gives one whose host and path stand on one line, without a
slash in the host. -/
lemma plain_of_parse {text : String} {u : Url} (h : parse text = .ok u) : Plain u := by
  unfold parse at h
  split at h
  · exact plain_readAfterScheme h
  · cases h

end AppLinks.Url
