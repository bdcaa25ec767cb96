import AppLinks.Proofs.Text.Percent
import AppLinks.Proofs.Url.Web
import Mathlib.Data.List.TakeWhile

/-!
URLs that are written as a scheme, a host, and parts with slashes between them.

What is read from such a text is known as a whole: the host and each part are kept, in their encoded
forms. But these differ. A host keeps every character that it may hold, apart from those that are
escaped everywhere, while a path escapes four of them.
-/

namespace AppLinks.Url

open Result

/-- A scheme as it may be written. -/
def IsScheme (s : List Char) : Prop :=
  ∃ a r, s = a :: r ∧ a.isAlpha = true ∧ ∀ c ∈ r, c.isAlphanum = true ∨ c ∈ ['+', '-', '.']

instance : DecidablePred IsScheme
  | [] => isFalse (by simp [IsScheme])
  | a :: r => decidable_of_iff (a.isAlpha = true ∧
      r.all (fun c => c.isAlphanum || decide (c ∈ ['+', '-', '.'])) = true) (by simp [IsScheme])

/-- A text that may be written between the slashes of a URL with no character escaped, and stands
for itself there. -/
structure IsPart (t : List Char) : Prop where
  ne_nil : t ≠ []
  plain : ∀ c ∈ t, 0x20 ≤ c.toNat ∧ c ∉ ['/', '?', '#', '%', '\\', ':', '@', '[']
  not_dots : t ≠ ['.'] ∧ t ≠ ['.', '.']
  unpadded : t.head? ≠ some ' ' ∧ t.getLast? ≠ some ' '

instance : DecidablePred IsPart := fun t =>
  decidable_of_iff (t ≠ [] ∧ t.all (fun c =>
        decide (0x20 ≤ c.toNat ∧ c ∉ ['/', '?', '#', '%', '\\', ':', '@', '['])) = true ∧
      (t ≠ ['.'] ∧ t ≠ ['.', '.']) ∧ t.head? ≠ some ' ' ∧ t.getLast? ≠ some ' ')
    ⟨fun ⟨h₁, h₂, h₃, h₄⟩ =>
        ⟨h₁, fun c hc => of_decide_eq_true (List.all_eq_true.1 h₂ c hc), h₃, h₄⟩,
      fun h => ⟨h.1, List.all_eq_true.2 fun c hc => decide_eq_true (h.2 c hc), h.3, h.4⟩⟩

/-- Parts with a slash between them, as a host and a path. -/
lemma intercalate_cons (t : List Char) (ts : List (List Char)) :
    ['/'].intercalate (t :: ts) = t ++ Path.render ts := by
  induction ts generalizing t with
  | nil => simp [Path.render]
  | cons u ts ih =>
    rw [List.intercalate_cons_of_ne_nil (by simp), ih]
    simp [Path.render]

lemma plain_intercalate {ts : List (List Char)} (hts : ∀ t ∈ ts, IsPart t) :
    ∀ c ∈ ['/'].intercalate ts, 0x20 ≤ c.toNat := by
  cases ts with
  | nil => simp
  | cons t ts =>
    intro c hc
    rw [intercalate_cons, List.mem_append] at hc
    rcases hc with hc | hc
    · exact ((hts t (by simp)).plain c hc).1
    · obtain ⟨u, hu, hc⟩ := List.mem_flatMap.1 hc
      rcases List.mem_cons.1 hc with rfl | hc
      · decide
      · exact ((hts u (List.mem_cons_of_mem _ hu)).plain c hc).1

/-- Texts with a slash between them end as the last one does. -/
lemma getLast?_intercalate {x : Char} {ts : List (List Char)}
    (hts : ∀ t ∈ ts, t ≠ [] ∧ t.getLast? ≠ some x) : (['/'].intercalate ts).getLast? ≠ some x := by
  induction ts with
  | nil => simp
  | cons t ts ih =>
    by_cases hnil : ts = []
    · subst hnil
      simpa using (hts t (by simp)).2
    · have hrest := ih fun u hu => hts u (List.mem_cons_of_mem _ hu)
      obtain ⟨u, us, rfl⟩ := List.exists_cons_of_ne_nil hnil
      have hne : ['/'].intercalate (u :: us) ≠ [] := by
        rw [intercalate_cons]
        simp [(hts u (by simp)).1]
      rw [List.intercalate_cons_of_ne_nil hnil, List.getLast?_append,
        Option.or_of_isSome (List.getLast?_isSome.2 hne)]
      exact hrest

/-! ### The scheme -/

lemma isAlpha_iff {c : Char} :
    c.isAlpha = true ↔ 65 ≤ c.toNat ∧ c.toNat ≤ 90 ∨ 97 ≤ c.toNat ∧ c.toNat ≤ 122 := by
  have h : c.isAlpha = (decide ('A'.val ≤ c.val ∧ c.val ≤ 'Z'.val) ||
      (decide ('a'.val ≤ c.val) && decide (c.val ≤ 'z'.val))) := rfl
  rw [h]
  simp only [Bool.or_eq_true, Bool.and_eq_true, decide_eq_true_eq, UInt32.le_iff_toNat_le]
  exact Iff.rfl

lemma IsScheme.plain {s : List Char} (hs : IsScheme s) : ∀ c ∈ s, 0x20 < c.toNat := by
  obtain ⟨a, r, rfl, ha, hr⟩ := hs
  have hinner : ∀ c ∈ a :: r, c.isAlphanum = true ∨ c ∈ ['+', '-', '.'] := by
    intro c hc
    rcases List.mem_cons.1 hc with rfl | hc
    · exact .inl (by rw [Char.isAlphanum, ha, Bool.true_or])
    · exact hr c hc
  intro c hc
  rcases hinner c hc with h | h
  · rw [Char.isAlphanum, Bool.or_eq_true, isAlpha_iff] at h
    rcases h with h | h
    · omega
    · exact Nat.lt_of_lt_of_le (by decide) (Char.isDigit_iff_toNat.1 h).1
  · have hmarks : ['+', '-', '.'].all (0x20 < ·.toNat) = true := by decide
    exact of_decide_eq_true (List.all_eq_true.1 hmarks c h)

/-- Nothing is taken away from a text without controls whose ends are no blanks. -/
lemma clean_eq_self {s : List Char} (hplain : ∀ c ∈ s, 0x20 ≤ c.toNat) (hhead : s.head? ≠ some ' ')
    (hlast : s.getLast? ≠ some ' ') : clean s = s := by
  have hdrop {l : List Char} (hl : ∀ c ∈ l, 0x20 ≤ c.toNat) (hfirst : l.head? ≠ some ' ') :
      l.dropWhile (fun c => decide (c.toNat ≤ 0x20)) = l := by
    cases l with
    | nil => rfl
    | cons c r =>
      have hc := hl c (by simp)
      have hne : c.toNat ≠ ' '.toNat := fun h => hfirst (congrArg some (Char.toNat_inj.1 h))
      have hspace : ' '.toNat = 0x20 := rfl
      rw [List.dropWhile_cons_of_neg]
      simp only [decide_eq_true_eq]
      omega
  have hreverse : s.reverse.dropWhile (fun c => decide (c.toNat ≤ 0x20)) = s.reverse :=
    hdrop (fun c hc => hplain c (List.mem_reverse.1 hc)) (by rwa [List.head?_reverse])
  unfold clean
  dsimp only
  rw [hdrop hplain hhead, hreverse, List.reverse_reverse, List.filter_eq_self]
  intro c hc
  have hc := hplain c hc
  have hne {d : Char} (hd : d.toNat < 0x20) : c ≠ d := by
    rintro rfl
    omega
  have htab : c ≠ '\t' := hne (by decide)
  have hline : c ≠ '\n' := hne (by decide)
  have hreturn : c ≠ '\r' := hne (by decide)
  simp [htab, hline, hreturn]

lemma takeScheme?_append {scheme : List Char} (hscheme : IsScheme scheme) (rest : List Char) :
    takeScheme? (scheme ++ ':' :: rest) = some (scheme.map Char.toLower, rest) := by
  obtain ⟨a, r, rfl, ha, hr⟩ := hscheme
  let inner (c : Char) : Bool := c.isAlphanum || c ∈ ['+', '-', '.']
  have hinner : ∀ c ∈ a :: r, inner c = true := by
    intro c hc
    rw [Bool.or_eq_true, decide_eq_true_eq]
    rcases List.mem_cons.1 hc with rfl | hc
    · exact .inl (by rw [Char.isAlphanum, ha, Bool.true_or])
    · exact hr c hc
  have hstop : ¬ inner ':' = true := by decide
  have hdrop : (a :: r ++ ':' :: rest).dropWhile inner = ':' :: rest := by
    rw [List.dropWhile_append_of_pos hinner, List.dropWhile_cons_of_neg hstop]
  have htake : (a :: r ++ ':' :: rest).takeWhile inner = a :: r := by
    rw [List.takeWhile_append_of_pos hinner, List.takeWhile_cons_of_neg hstop, List.append_nil]
  unfold takeScheme?
  dsimp only
  rw [hdrop, htake]
  simp [ha]

/-! ### The host -/

section Host

variable {host rest : List Char}

lemma cutUserinfo_append (hhost : IsPart host) (hrest : ∀ c ∈ rest.head?, c = '/') :
    cutUserinfo false (host ++ rest) = (none, host ++ rest) := by
  have hkeep : ∀ c ∈ host, (!endsAuthority false c) = true := by
    intro c hc
    have hc := (hhost.plain c hc).2
    simp only [List.mem_cons, not_or] at hc
    simp [endsAuthority, hc]
  have hwhole : (host ++ rest).takeWhile (!endsAuthority false ·) = host := by
    rw [List.takeWhile_append_of_pos hkeep]
    cases rest with
    | nil => simp
    | cons c r =>
      obtain rfl := hrest c rfl
      simp [endsAuthority]
  have hat : ¬ host.contains '@' = true := by
    rw [List.contains_iff_mem]
    exact fun h => (hhost.plain _ h).2 (by simp)
  rw [cutUserinfo, hwhole, cutAtLast, if_neg hat]

lemma hostLength_append (hhost : ∀ c ∈ host, c ∉ ['/', '?', '#', '%', '\\', ':', '@', '['])
    (hrest : ∀ c ∈ rest.head?, c = '/') : hostLength false false (host ++ rest) = host.length := by
  induction host with
  | nil =>
    cases rest with
    | nil => rfl
    | cons c r =>
      obtain rfl := hrest c rfl
      rfl
  | cons c host ih =>
    have hc := hhost c (by simp)
    have hbracket : c ≠ '[' := fun h => hc (by simp [h])
    simp only [List.mem_cons, not_or] at hc
    rw [List.cons_append, hostLength, if_neg (by simp [endsAuthority, hc]), if_neg hbracket,
      ite_self, ih fun d hd => hhost d (List.mem_cons_of_mem _ hd)]
    rfl

/-- A name is kept in its encoded form, unless it holds a character that no host may hold. -/
lemma ofName_eq_ok (hhost : IsPart host) {h : Host} (hname : Host.ofName host = .ok h) :
    (∀ c ∈ host, Host.isForbidden c = false) ∧
      h = .name (Text.Percent.encode Text.Percent.control host) := by
  have hbracket : host.head? ≠ some '[' :=
    fun hhead => (hhost.plain _ (List.mem_of_head? hhead)).2 (by simp)
  unfold Host.ofName at hname
  rw [if_neg hbracket] at hname
  split at hname
  · cases hname
  · rename_i hcheck
    cases hname
    refine ⟨fun c hc => ?_, rfl⟩
    by_contra hforbidden
    exact hcheck (List.any_eq_true.2 ⟨c, hc, by simpa using hforbidden⟩)

lemma readAuthority_append {scheme rest' : List Char} (hspecial : isSpecial scheme = false)
    (hhost : IsPart host) (hrest : ∀ c ∈ rest.head?, c = '/') {a : Authority}
    (h : readAuthority scheme (host ++ rest) = .ok (a, rest')) :
    (∀ c ∈ host, Host.isForbidden c = false) ∧
      a = { host := some (.name (Text.Percent.encode Text.Percent.control host)) } ∧
      rest' = rest := by
  have hlength := hostLength_append (fun c hc => (hhost.plain c hc).2) hrest
  have hne : host.length ≠ 0 := fun h => hhost.ne_nil (List.length_eq_zero_iff.1 h)
  have hport : readOptionalPort scheme rest = .ok (none, rest) := by
    cases rest with
    | nil => rfl
    | cons c r =>
      obtain rfl := hrest c rfl
      rfl
  unfold readAuthority at h
  dsimp only at h
  rw [hspecial, cutUserinfo_append hhost hrest] at h
  dsimp only at h
  rw [if_neg (by simp)] at h
  obtain ⟨⟨b, r⟩, hread, h⟩ := bind_eq_ok.1 h
  unfold readHost at hread
  rw [hlength, if_neg hne, List.take_left, List.drop_left] at hread
  obtain ⟨name, hname, hread⟩ := bind_eq_ok.1 hread
  cases hread
  obtain ⟨hallowed, rfl⟩ := ofName_eq_ok hhost hname
  rw [hport] at h
  cases h
  exact ⟨hallowed, rfl, rfl⟩

end Host

/-! ### Dots -/

/-- Only a capital letter has a lower case of its own. -/
lemma eq_of_toLower {c d : Char} (hd : d.isAlpha = false) (h : c.toLower = d) : c = d := by
  unfold Char.toLower at h
  split at h
  · rename_i hcapital
    have hlow : 65 ≤ c.val.toNat := UInt32.le_iff_toNat_le.1 hcapital.1
    have hhigh : c.val.toNat ≤ 90 := UInt32.le_iff_toNat_le.1 hcapital.2
    have hsum : d.toNat = c.val.toNat + 32 := by
      rw [← h]
      change (c.val + 32).toNat = _
      rw [UInt32.toNat_add, show (32 : UInt32).toNat = 32 from rfl]
      exact Nat.mod_eq_of_lt (by omega)
    have hletter : d.isAlpha = true := isAlpha_iff.2 (.inr (by omega))
    cases hd.symm.trans hletter
  · exact h

/-- What the path of a URL has for a dot is a dot. -/
lemma eq_dot_of_encode {t q : List Char} (ht : '%' ∉ t)
    (h : (Text.Percent.encode Text.Percent.path t).map Char.toLower = '.' :: q) :
    ∃ r, t = '.' :: r ∧ (Text.Percent.encode Text.Percent.path r).map Char.toLower = q := by
  cases t with
  | nil => simp at h
  | cons c r =>
    rw [Text.Percent.encode_cons, Text.Percent.encodeChar] at h
    split at h
    · obtain ⟨b, bs, hb⟩ := List.exists_cons_of_ne_nil (Text.Utf8.encodeChar_ne_nil c)
      simp [hb, Text.Percent.escape] at h
    · obtain ⟨hc, hr⟩ := List.cons.inj h
      obtain rfl := eq_of_toLower (by decide) hc
      exact ⟨r, rfl, hr⟩

/-- The path of a URL has no escape of a dot where none was written. -/
lemma encode_ne_escapedDot {t q : List Char} (ht : '%' ∉ t) :
    (Text.Percent.encode Text.Percent.path t).map Char.toLower ≠ '%' :: '2' :: 'e' :: q := by
  have hdigits : ∀ n < 16, ∀ k < 16, (Text.Percent.hexDigit n).toLower = '2' →
      (Text.Percent.hexDigit k).toLower = 'e' → 16 * n + k = '.'.toNat := by decide
  intro h
  cases t with
  | nil => simp at h
  | cons c r =>
    rw [Text.Percent.encode_cons, Text.Percent.encodeChar] at h
    split at h
    · rename_i hescaped
      obtain ⟨b, bs, hb⟩ := List.exists_cons_of_ne_nil (Text.Utf8.encodeChar_ne_nil c)
      have hlt := b.toNat_lt
      simp only [hb, Text.Percent.escape, List.flatMap_cons, List.cons_append, List.map_cons,
        List.cons.injEq] at h
      have hdot := hdigits _ (by omega) _ (by omega) h.2.1 h.2.2.1
      rw [Nat.div_add_mod] at hdot
      have hc := Text.Utf8.toNat_eq_of_encodeChar hb (by rw [hdot]; decide)
      obtain rfl : c = '.' := Char.toNat_inj.1 (hc.trans hdot)
      exact absurd hescaped (by decide)
    · obtain ⟨hc, -⟩ := List.cons.inj h
      obtain rfl := eq_of_toLower (by decide) hc
      exact ht (by simp)

lemma IsPart.percent_not_mem {t : List Char} (ht : IsPart t) : '%' ∉ t :=
  fun h => (ht.plain _ h).2 (by simp)

/-- A part stays where it is written. -/
lemma IsPart.not_dots_encode {t : List Char} (ht : IsPart t) :
    Path.isSingleDot (Text.Percent.encode Text.Percent.path t) = false ∧
      Path.isDoubleDot (Text.Percent.encode Text.Percent.path t) = false := by
  have hnil {r : List Char}
      (h : (Text.Percent.encode Text.Percent.path r).map Char.toLower = []) : r = [] := by
    by_contra hr
    exact Text.Percent.encode_ne_nil hr (List.map_eq_nil_iff.1 h)
  refine ⟨?_, ?_⟩
  · by_contra h
    rw [Bool.not_eq_false, Path.isSingleDot, decide_eq_true_eq] at h
    simp only [List.mem_cons, List.not_mem_nil, or_false] at h
    rcases h with h | h
    · obtain ⟨r, rfl, hr⟩ := eq_dot_of_encode ht.percent_not_mem h
      obtain rfl := hnil hr
      exact ht.not_dots.1 rfl
    · exact encode_ne_escapedDot ht.percent_not_mem h
  · by_contra h
    rw [Bool.not_eq_false, Path.isDoubleDot, decide_eq_true_eq] at h
    simp only [List.mem_cons, List.not_mem_nil, or_false] at h
    rcases h with h | h | h | h
    · obtain ⟨r, rfl, hr⟩ := eq_dot_of_encode ht.percent_not_mem h
      have hr' : '%' ∉ r := fun h => ht.percent_not_mem (List.mem_cons_of_mem _ h)
      obtain ⟨q, rfl, hq⟩ := eq_dot_of_encode hr' hr
      obtain rfl := hnil hq
      exact ht.not_dots.2 rfl
    · exact encode_ne_escapedDot ht.percent_not_mem h
    · obtain ⟨r, rfl, hr⟩ := eq_dot_of_encode ht.percent_not_mem h
      exact encode_ne_escapedDot (fun h => ht.percent_not_mem (List.mem_cons_of_mem _ h)) hr
    · exact encode_ne_escapedDot ht.percent_not_mem h

/-! ### The path -/

/-- Pieces between separators, as the library cuts them. -/
lemma splitOn_eq (sep : Char) (s : List Char) : Text.Form.splitOn sep s = s.splitOn sep := by
  induction s with
  | nil => rfl
  | cons c r ih =>
    rw [Text.Form.splitOn, List.splitOn_cons_eq_if_modifyHead, ih]
    by_cases hc : c = sep
    · simp [hc]
    · rw [if_neg hc, if_neg (by simpa using hc)]
      cases h : r.splitOn sep with
      | nil => exact absurd h (List.splitOn_ne_nil _ _)
      | cons p ps => rfl

lemma resolve_parts {ts : List (List Char)} (hts : ∀ t ∈ ts, IsPart t) (done : List (List Char)) :
    Path.resolve done ts = done ++ ts.map (Text.Percent.encode Text.Percent.path) := by
  induction ts generalizing done with
  | nil => simp [Path.resolve]
  | cons t ts ih =>
    obtain ⟨hsingle, hdouble⟩ := (hts t (by simp)).not_dots_encode
    rw [Path.resolve, if_neg (by simp [hdouble]), if_neg (by simp [hsingle]),
      ih fun u hu => hts u (List.mem_cons_of_mem _ hu)]
    simp

/-- The path of parts is what they are written as. -/
lemma readPath_render {ts : List (List Char)} (hts : ∀ t ∈ ts, IsPart t) :
    (readPath false (Path.render ts)).text =
      Path.render (ts.map (Text.Percent.encode Text.Percent.path)) := by
  have hbefore : beforeQuery (Path.render ts) = Path.render ts := by
    refine List.takeWhile_eq_self_iff.2 fun c hc => ?_
    obtain ⟨t, ht, hc⟩ := List.mem_flatMap.1 hc
    rcases List.mem_cons.1 hc with rfl | hc
    · rfl
    · have hc := ((hts t ht).plain c hc).2
      simp only [List.mem_cons, not_or] at hc
      simp [hc]
  unfold readPath
  rw [hbefore]
  cases ts with
  | nil => rfl
  | cons t ts =>
    have hslash : ∀ u ∈ t :: ts, '/' ∉ u := fun u hu h => ((hts u hu).plain _ h).2 (by simp)
    have hsplit : Path.split false (t ++ Path.render ts) = t :: ts := by
      rw [← intercalate_cons, Path.split, splitOn_eq]
      exact List.splitOn_intercalate '/' hslash (by simp)
    have hrender : Path.render (t :: ts) = '/' :: (t ++ Path.render ts) := rfl
    rw [hrender]
    simp [Path.read, hsplit, resolve_parts hts, Location.text]

/-! ### The URL -/

/-- What is read from a scheme, a host and parts: the host was allowed, and it and the parts are
kept in their encoded forms. -/
lemma parse_hosted {scheme host : List Char} {ts : List (List Char)} (hscheme : IsScheme scheme)
    (hspecial : isSpecial (scheme.map Char.toLower) = false) (hts : ∀ t ∈ host :: ts, IsPart t)
    {text : String} (htext : text.toList =
      scheme ++ ':' :: '/' :: '/' :: ['/'].intercalate (host :: ts)) {u : Url}
    (hu : parse text = .ok u) :
    (∀ c ∈ host, Host.isForbidden c = false) ∧ u.isWeb = false ∧
      u.hostText = Text.Percent.encode Text.Percent.control host ∧
      u.path = Path.render (ts.map (Text.Percent.encode Text.Percent.path)) := by
  have hhost := hts host (by simp)
  have hparts : ∀ t ∈ ts, IsPart t := fun t ht => hts t (List.mem_cons_of_mem _ ht)
  have hrest : ∀ c ∈ (Path.render ts).head?, c = '/' := by
    cases ts with
    | nil => simp [Path.render]
    | cons t ts => simp [Path.render]
  have hlast := getLast?_intercalate fun t ht => ⟨(hts t ht).ne_nil, (hts t ht).unpadded.2⟩
  have hne : ['/'].intercalate (host :: ts) ≠ [] := by
    rw [intercalate_cons]
    simp [hhost.ne_nil]
  have hclean : clean text.toList = text.toList := by
    rw [htext]
    refine clean_eq_self (fun c hc => ?_) (fun h => ?_) ?_
    · rcases List.mem_append.1 hc with hc | hc
      · exact Nat.le_of_lt (hscheme.plain c hc)
      · simp only [List.mem_cons] at hc
        rcases hc with rfl | rfl | rfl | hc
        · decide
        · decide
        · decide
        · exact plain_intercalate hts c hc
    · have hspace : ' ' ∈ scheme := by
        obtain ⟨a, r, rfl, -⟩ := hscheme
        exact List.mem_of_head? h
      exact absurd (hscheme.plain _ hspace) (by decide)
    · have happend : scheme ++ ':' :: '/' :: '/' :: ['/'].intercalate (host :: ts) =
          (scheme ++ [':', '/', '/']) ++ ['/'].intercalate (host :: ts) := by simp
      rwa [happend, List.getLast?_append, Option.or_of_isSome (List.getLast?_isSome.2 hne)]
  unfold parse at hu
  rw [hclean, htext, takeScheme?_append hscheme, intercalate_cons] at hu
  have hfile : scheme.map Char.toLower ≠ "file".toList := by
    intro h
    rw [h] at hspecial
    exact absurd hspecial (by decide)
  dsimp only at hu
  unfold readAfterScheme at hu
  rw [if_neg hfile, if_neg (by simp [hspecial])] at hu
  dsimp only at hu
  obtain ⟨⟨a, rest⟩, ha, hu⟩ := bind_eq_ok.1 hu
  obtain ⟨hallowed, rfl, rfl⟩ := readAuthority_append hspecial hhost hrest ha
  cases hu
  refine ⟨hallowed, ?_, rfl, readPath_render hparts⟩
  by_contra hweb
  rw [Bool.not_eq_false] at hweb
  have hspecial' := (special_of_isWeb hweb).1
  exact absurd (hspecial.symm.trans hspecial') (by decide)

end AppLinks.Url
