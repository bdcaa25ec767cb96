import AppLinks.Proofs.Route.Segment

/-!
The grammar of route patterns.

A list of segments is well-formed if its written form can be read back, and then it is the only
list that is read from it.
-/

namespace AppLinks.Route

open Result

/-- Lists of segments that make a pattern. -/
structure WellFormed (segments : List Segment) : Prop where
  ne_nil : segments ≠ []
  each : ∀ s ∈ segments, s.WellFormed
  wildcard_last : .wildcard ∉ segments.dropLast
  names_distinct : (segments.filterMap Segment.name?).Nodup

/-- The written form of segments, with slashes between them. -/
def written (segments : List Segment) : List Char :=
  ['/'].intercalate (segments.map (·.text.toList))

/-- A text writes segments if it is their written form, with or without a slash before it and with
or without one after it. -/
def Writes (raw : String) (segments : List Segment) : Prop :=
  ∃ before after, (before = [] ∨ before = ['/']) ∧ (after = [] ∨ after = ['/']) ∧
    raw.toList = before ++ written segments ++ after

/-! ### All segments of a pattern -/

lemma readSegments_cons_iff {seen : List String} {p : List Char} {ps : List (List Char)}
    {ss : List Segment} :
    readSegments seen (p :: ps) = .ok ss ↔
      ∃ s, Segment.parse p = .ok s ∧ (s = .wildcard → ps = []) ∧ (∀ n ∈ s.name?, n ∉ seen) ∧
        ∃ ss', readSegments (s.name?.toList ++ seen) ps = .ok ss' ∧ s :: ss' = ss := by
  rw [readSegments, bind_eq_ok]
  refine exists_congr fun s => and_congr_right fun _ => ?_
  by_cases hw : (decide (s = .wildcard) && !ps.isEmpty) = true
  · rw [if_pos hw]
    have hlast : ¬ (s = .wildcard → ps = []) := by simpa using hw
    simp [bind_eq_ok, hlast]
  · rw [if_neg hw]
    have hlast : s = .wildcard → ps = [] := by simpa using hw
    cases hn : s.name? with
    | none => simp [map_eq_ok, and_iff_right hlast]
    | some n =>
      by_cases hmem : n ∈ seen
      · simp [bind_eq_ok, hmem]
      · simp [map_eq_ok, hmem, and_iff_right hlast]

lemma wildcard_last_cons {s : Segment} {ss : List Segment} :
    .wildcard ∉ (s :: ss).dropLast ↔ (s = .wildcard → ss = []) ∧ .wildcard ∉ ss.dropLast := by
  cases ss with
  | nil => simp
  | cons t ts =>
    rw [List.dropLast_cons_cons, List.mem_cons, not_or]
    simp [eq_comm]

lemma names_fresh_cons {seen : List String} {s : Segment} {ss : List Segment} :
    (((s :: ss).filterMap Segment.name?).Nodup ∧
        ∀ n ∈ (s :: ss).filterMap Segment.name?, n ∉ seen) ↔
      (∀ n ∈ s.name?, n ∉ seen) ∧ (ss.filterMap Segment.name?).Nodup ∧
        ∀ n ∈ ss.filterMap Segment.name?, n ∉ s.name?.toList ++ seen := by
  cases hname : s.name? with
  | none => simp [hname]
  | some n =>
    rw [List.filterMap_cons_some hname, List.nodup_cons]
    refine ⟨?_, ?_⟩
    · rintro ⟨⟨hn, hnodup⟩, hseen⟩
      refine ⟨by simpa using hseen n (by simp), hnodup, fun m hm => ?_⟩
      have hne : m ≠ n := fun h => hn (h ▸ hm)
      simpa [hne] using hseen m (List.mem_cons_of_mem _ hm)
    · rintro ⟨hn, hnodup, hseen⟩
      refine ⟨⟨fun h => by simpa using hseen n h, hnodup⟩, ?_⟩
      rintro m (_ | ⟨_, hm⟩)
      · exact hn n rfl
      · exact fun h => hseen m hm (by simp [h])

/-- Reading a list of texts: each one is read by itself, a wildcard comes last, and no name comes
twice or is among the `seen` ones. -/
lemma readSegments_eq_ok_iff {seen : List String} {ps : List (List Char)} {ss : List Segment} :
    readSegments seen ps = .ok ss ↔
      List.Forall₂ (fun p s => Segment.parse p = .ok s) ps ss ∧ .wildcard ∉ ss.dropLast ∧
        (ss.filterMap Segment.name?).Nodup ∧ ∀ n ∈ ss.filterMap Segment.name?, n ∉ seen := by
  induction ps generalizing seen ss with
  | nil =>
    rw [readSegments]
    refine ⟨?_, ?_⟩
    · intro h; cases h; simp
    · rintro ⟨⟨⟩, -⟩; rfl
  | cons p ps ih =>
    rw [readSegments_cons_iff]
    refine ⟨?_, ?_⟩
    · rintro ⟨s, hs, hw, hn, ss', hss', rfl⟩
      obtain ⟨hall, hlast, hfresh⟩ := ih.1 hss'
      have hnil : ps = [] → ss' = [] := by rintro rfl; cases hall; rfl
      exact ⟨.cons hs hall, wildcard_last_cons.2 ⟨fun h => hnil (hw h), hlast⟩,
        names_fresh_cons.2 ⟨hn, hfresh⟩⟩
    · rintro ⟨hall, hlast, hfresh⟩
      cases hall with
      | @cons _ s _ ss' hs hall =>
        obtain ⟨hw, hlast⟩ := wildcard_last_cons.1 hlast
        obtain ⟨hn, hfresh⟩ := names_fresh_cons.1 hfresh
        have hnil : ss' = [] → ps = [] := by rintro rfl; cases hall; rfl
        exact ⟨s, hs, fun h => hnil (hw h), hn, ss', ih.2 ⟨hall, hlast, hfresh⟩, rfl⟩

lemma forall₂_parse_iff {ps : List (List Char)} {ss : List Segment} :
    (List.Forall₂ (fun p s => Segment.parse p = .ok s) ps ss ∧
        ∀ p ∈ ps, p ≠ [] ∧ Within (beginsParameter p) 0 false p) ↔
      (∀ s ∈ ss, s.WellFormed) ∧ ps = ss.map (·.text.toList) := by
  refine ⟨?_, ?_⟩
  · rintro ⟨hall, hw⟩
    induction hall with
    | nil => simp
    | @cons p s ps ss h _ ih =>
      obtain ⟨hne, hin⟩ := hw p (by simp)
      obtain ⟨hwf, rfl⟩ := parse_sound hne hin h
      obtain ⟨hrest, rfl⟩ := ih fun p hp => hw p (List.mem_cons_of_mem _ hp)
      exact ⟨by simpa using ⟨hwf, hrest⟩, rfl⟩
  · rintro ⟨hwf, rfl⟩
    refine ⟨?_, ?_⟩
    · induction ss with
      | nil => exact .nil
      | cons s ss ih =>
        exact .cons (parse_complete (hwf s (by simp))).2.2
          (ih fun t ht => hwf t (List.mem_cons_of_mem _ ht))
    · intro p hp
      obtain ⟨s, hs, rfl⟩ := List.mem_map.1 hp
      have h := parse_complete (hwf s hs)
      exact ⟨h.1, h.2.1⟩

lemma parts_eq_ok_iff {raw : String} {ps : List (List Char)} :
    parts raw = .ok ps ↔ ps ≠ [] ∧ body raw = ['/'].intercalate ps ∧
      ∀ p ∈ ps, p ≠ [] ∧ Within (beginsParameter p) 0 false p := by
  unfold parts
  dsimp only
  by_cases hb : body raw = []
  · rw [if_pos (by simpa using hb)]
    refine ⟨?_, ?_⟩
    · intro h; cases h
    · rintro ⟨hne, h, hall⟩
      -- some part is not empty, so neither is the body
      obtain ⟨p, ps, rfl⟩ := List.exists_cons_of_ne_nil hne
      have hp := (hall p (by simp)).1
      rw [hb] at h
      cases ps with
      | nil =>
        rw [List.intercalate_singleton] at h
        exact absurd h.symm hp
      | cons q ps => simp at h
  rw [if_neg (by simpa using hb)]
  cases hs : split 0 false (beginsParameter (body raw)) (body raw) with
  | none =>
    have hnot : ¬ split 0 false (beginsParameter (body raw)) (body raw) = some ps := by simp [hs]
    rw [split_iff] at hnot
    refine ⟨?_, ?_⟩
    · intro h; cases h
    · rintro ⟨hne, h, hall⟩
      exact absurd ⟨hne, h, fun p hp => (hall p hp).2⟩ hnot
  | some qs =>
    obtain ⟨hne, hqs, hall⟩ := split_iff.1 hs
    dsimp only
    by_cases he : [] ∈ qs
    · rw [if_pos (by simpa using he)]
      refine ⟨?_, ?_⟩
      · intro h; cases h
      · rintro ⟨hne', h, hall'⟩
        have : some qs = some ps := hs.symm.trans
          (split_iff.2 ⟨hne', h, fun p hp => (hall' p hp).2⟩)
        cases this
        exact absurd rfl (hall' [] he).1
    · rw [if_neg (by simpa using he)]
      refine ⟨?_, ?_⟩
      · intro h
        cases h
        exact ⟨hne, hqs, fun p hp => ⟨fun h => he (h ▸ hp), hall p hp⟩⟩
      · rintro ⟨hne', h, hall'⟩
        have : some qs = some ps := hs.symm.trans
          (split_iff.2 ⟨hne', h, fun p hp => (hall' p hp).2⟩)
        cases this
        rfl

/-- Reading a pattern gives the well-formed segments whose written form it is. -/
lemma parse_eq_ok_iff {raw : String} {p : Pattern} :
    Pattern.parse raw = .ok p ↔
      p.raw = raw ∧ WellFormed p.segments ∧ body raw = written p.segments := by
  have key (ss : List Segment) : (parts raw >>= readSegments []) = .ok ss ↔
      WellFormed ss ∧ body raw = written ss := by
    rw [bind_eq_ok]
    refine ⟨?_, ?_⟩
    · rintro ⟨ps, hps, hss⟩
      obtain ⟨hne, hb, hw⟩ := parts_eq_ok_iff.1 hps
      obtain ⟨hall, hlast, hnodup, -⟩ := readSegments_eq_ok_iff.1 hss
      obtain ⟨hwf, rfl⟩ := forall₂_parse_iff.1 ⟨hall, hw⟩
      exact ⟨⟨by simpa using hne, hwf, hlast, hnodup⟩, hb⟩
    · rintro ⟨hwf, hb⟩
      obtain ⟨hall, hw⟩ := forall₂_parse_iff.2 ⟨hwf.each, rfl⟩
      exact ⟨_, parts_eq_ok_iff.2 ⟨by simpa using hwf.ne_nil, hb, hw⟩,
        readSegments_eq_ok_iff.2 ⟨hall, hwf.wildcard_last, hwf.names_distinct, by simp⟩⟩
  unfold Pattern.parse
  split
  · rename_i segments h
    have hkey := (key segments).1 h
    refine ⟨?_, ?_⟩
    · intro hp; cases hp; exact ⟨rfl, hkey⟩
    · rintro ⟨rfl, hp⟩
      have := (key p.segments).2 hp
      rw [h] at this
      cases this
      rfl
  · rename_i fault h
    refine ⟨?_, ?_⟩
    · intro hp; cases hp
    · rintro ⟨-, hp⟩
      have := (key p.segments).2 hp
      rw [h] at this
      cases this

/-! ### The edges of a written form -/

lemma text_edges {s : Segment} (hs : s.WellFormed) :
    s.text.toList.head? ≠ some '/' ∧ s.text.toList.getLast? ≠ some '/' := by
  cases s with
  | literal t =>
    exact ⟨fun h => hs.2.1 (List.mem_of_head? h), fun h => hs.2.1 (List.mem_of_getLast? h)⟩
  | parameter name constraint =>
    cases constraint with
    | none =>
      rw [text_bare]
      refine ⟨by simp, fun h => ?_⟩
      have hmem := List.mem_of_getLast? h
      rcases List.mem_cons.1 hmem with h | h
      · exact absurd h (by decide)
      · exact (hs.2.1 _ h).1 rfl
    | some c =>
      rw [text_constrained]
      refine ⟨by simp, ?_⟩
      rw [← List.cons_append, ← List.cons_append, ← List.append_assoc, List.getLast?_concat]
      decide
  | wildcard => decide

lemma written_cons {s : Segment} {ss : List Segment} (hss : ss ≠ []) :
    written (s :: ss) = s.text.toList ++ '/' :: written ss := by
  rw [written, List.map_cons, List.intercalate_cons_of_ne_nil (by simpa using hss)]
  simp [written]

lemma written_edges {ss : List Segment} (hne : ss ≠ []) (hss : ∀ s ∈ ss, s.WellFormed) :
    written ss ≠ [] ∧ (written ss).head? ≠ some '/' ∧ (written ss).getLast? ≠ some '/' := by
  induction ss with
  | nil => exact absurd rfl hne
  | cons s ss ih =>
    have hs := hss s (by simp)
    have htext := (parse_complete hs).1
    obtain ⟨hhead, hlast⟩ := text_edges hs
    by_cases h : ss = []
    · subst h
      have hw : written [s] = s.text.toList := by simp [written]
      rw [hw]
      exact ⟨htext, hhead, hlast⟩
    · obtain ⟨hne', -, hlast'⟩ := ih h fun t ht => hss t (List.mem_cons_of_mem _ ht)
      obtain ⟨c, t, ht⟩ := List.exists_cons_of_ne_nil htext
      obtain ⟨x, w, hw⟩ := List.exists_cons_of_ne_nil hne'
      rw [written_cons h]
      refine ⟨by simp, ?_, ?_⟩
      · rw [ht] at hhead ⊢
        exact hhead
      · rw [hw] at hlast' ⊢
        rwa [List.getLast?_append, List.getLast?_cons_cons, List.getLast?_cons,
          Option.some_or, ← List.getLast?_cons]

lemma dropLeadingSlash_suffix (s : List Char) : dropLeadingSlash s <:+ s := by
  unfold dropLeadingSlash
  split
  · exact List.suffix_cons _ _
  · exact List.suffix_refl _

lemma dropLeadingSlash_of_head? {s : List Char} (h : s.head? ≠ some '/') :
    dropLeadingSlash s = s := by
  unfold dropLeadingSlash
  split
  · exact absurd rfl h
  · rfl

lemma body_eq_toList {raw : String} (hhead : raw.toList.head? ≠ some '/')
    (hlast : raw.toList.getLast? ≠ some '/') : body raw = raw.toList := by
  rw [body, dropLeadingSlash_of_head? hhead, dropTrailingSlash, if_neg hlast]

lemma exists_dropLeadingSlash (s : List Char) :
    ∃ before, (before = [] ∨ before = ['/']) ∧ s = before ++ dropLeadingSlash s := by
  unfold dropLeadingSlash
  split
  · exact ⟨['/'], .inr rfl, rfl⟩
  · exact ⟨[], .inl rfl, rfl⟩

lemma exists_dropTrailingSlash (s : List Char) :
    ∃ after, (after = [] ∨ after = ['/']) ∧ s = dropTrailingSlash s ++ after := by
  unfold dropTrailingSlash
  split
  · rename_i h
    obtain ⟨t, rfl⟩ := List.getLast?_eq_some_iff.1 h
    exact ⟨['/'], .inr rfl, by rw [List.dropLast_concat]⟩
  · exact ⟨[], .inl rfl, (List.append_nil s).symm⟩

/-- Written forms have no slashes around them that could be dropped, so that the slashes which are
dropped are those that a text has in addition. -/
lemma body_eq_written_iff {raw : String} {ss : List Segment} (hwf : WellFormed ss) :
    body raw = written ss ↔ Writes raw ss := by
  obtain ⟨hne, hhead, hlast⟩ := written_edges hwf.ne_nil hwf.each
  refine ⟨?_, ?_⟩
  · intro h
    obtain ⟨before, hbefore, hfirst⟩ := exists_dropLeadingSlash raw.toList
    obtain ⟨after, hafter, hrest⟩ := exists_dropTrailingSlash (dropLeadingSlash raw.toList)
    refine ⟨before, after, hbefore, hafter, ?_⟩
    rw [← h, body, List.append_assoc, ← hrest, ← hfirst]
  · rintro ⟨before, after, hbefore, hafter, hraw⟩
    have hleading : dropLeadingSlash (before ++ (written ss ++ after)) = written ss ++ after := by
      rcases hbefore with rfl | rfl
      · obtain ⟨c, w, hw⟩ := List.exists_cons_of_ne_nil hne
        rw [hw] at hhead ⊢
        exact dropLeadingSlash_of_head? hhead
      · rfl
    have htrailing : dropTrailingSlash (written ss ++ after) = written ss := by
      rcases hafter with rfl | rfl
      · rw [List.append_nil, dropTrailingSlash, if_neg hlast]
      · rw [dropTrailingSlash, if_pos List.getLast?_concat, List.dropLast_concat]
    rw [body, hraw, List.append_assoc, hleading, htrailing]

/-! ### Patterns -/

lemma parse_total (raw : String) :
    (∃ p, Pattern.parse raw = .ok p) ∨
      ∃ fault, Pattern.parse raw = .error (.invalidPattern raw fault) := by
  unfold Pattern.parse
  split
  · exact Or.inl ⟨_, rfl⟩
  · exact Or.inr ⟨_, rfl⟩

lemma parse_eq_ok_iff_writes {raw : String} {p : Pattern} :
    Pattern.parse raw = .ok p ↔ p.raw = raw ∧ WellFormed p.segments ∧ Writes raw p.segments := by
  rw [parse_eq_ok_iff]
  exact and_congr_right fun _ => and_congr_right body_eq_written_iff

/-- A text writes at most one well-formed list of segments. -/
lemma segments_unique {raw : String} {ss ts : List Segment} (hs : WellFormed ss)
    (hws : Writes raw ss) (ht : WellFormed ts) (hwt : Writes raw ts) : ss = ts := by
  have h := (parse_eq_ok_iff_writes (p := ⟨raw, ss⟩)).2 ⟨rfl, hs, hws⟩
  have h' := (parse_eq_ok_iff_writes (p := ⟨raw, ts⟩)).2 ⟨rfl, ht, hwt⟩
  rw [h] at h'
  cases h'
  rfl

/-- **The grammar of patterns**: reading accepts the texts that are the written form of a
well-formed list of segments, where one more slash may stand at either end. There is one such list,
and it is the one that is returned; in particular each well-formed list is read back from its
written form. Any other text gives an error that carries it. -/
theorem pattern_parse_exact (raw : String) :
    (∀ p, Pattern.parse raw = .ok p ↔
      p.raw = raw ∧ WellFormed p.segments ∧ Writes raw p.segments) ∧
    ((∃ p, Pattern.parse raw = .ok p) ↔ ∃! ss, WellFormed ss ∧ Writes raw ss) ∧
    (∀ ss, WellFormed ss → Pattern.parse (String.ofList (written ss)) =
      .ok { raw := String.ofList (written ss), segments := ss }) ∧
    ((¬ ∃ ss, WellFormed ss ∧ Writes raw ss) ↔
      ∃ fault, Pattern.parse raw = .error (.invalidPattern raw fault)) := by
  have hiff : (∃ p, Pattern.parse raw = .ok p) ↔ ∃ ss, WellFormed ss ∧ Writes raw ss := by
    refine ⟨?_, ?_⟩
    · rintro ⟨p, hp⟩
      exact ⟨p.segments, (parse_eq_ok_iff_writes.1 hp).2⟩
    · rintro ⟨ss, hwf, hw⟩
      exact ⟨⟨raw, ss⟩, parse_eq_ok_iff_writes.2 ⟨rfl, hwf, hw⟩⟩
  refine ⟨fun p => parse_eq_ok_iff_writes, ?_, fun ss hwf => ?_, ?_⟩
  · rw [hiff]
    refine ⟨?_, ?_⟩
    · rintro ⟨ss, hwf, hw⟩
      exact ⟨ss, ⟨hwf, hw⟩, fun ts ⟨hwf', hw'⟩ => segments_unique hwf' hw' hwf hw⟩
    · rintro ⟨ss, h, -⟩
      exact ⟨ss, h⟩
  · exact parse_eq_ok_iff_writes.2 ⟨rfl, hwf, [], [], .inl rfl, .inl rfl, by simp⟩
  · rw [← hiff]
    refine ⟨?_, ?_⟩
    · intro h
      exact (parse_total raw).resolve_left h
    · rintro ⟨fault, hf⟩ ⟨p, hp⟩
      rw [hf] at hp
      cases hp

/-- A slash within a constraint does not separate, and the slashes around a pattern are no part of
it. -/
theorem pattern_parse_exact_slash_within :
    let segments := [.literal "menu", .parameter "id" (some "a/b"), .wildcard]
    WellFormed segments ∧
      Pattern.parse (String.ofList "menu/:id(a/b)/*".toList) =
        .ok { raw := String.ofList "menu/:id(a/b)/*".toList, segments } ∧
      Pattern.parse "/menu/:id(a/b)/*/" = .ok { raw := "/menu/:id(a/b)/*/", segments } := by
  intro segments
  have hc : ∃ e, Regex.parse "a/b" = .ok e := by
    have h : (Regex.parse "a/b").toOption.isSome := by decide +kernel
    cases hp : Regex.parse "a/b" with
    | ok e => exact ⟨e, rfl⟩
    | error e => simp [hp, Except.toOption] at h
  have hbal : Balanced 1 ['a', '/', 'b'] :=
    .plain (by decide) (by decide) (by decide) (by decide)
      (.plain (by decide) (by decide) (by decide) (by decide)
        (.plain (by decide) (by decide) (by decide) (by decide) .done))
  have hwf : WellFormed segments := by
    refine ⟨by simp [segments], ?_, by decide, by decide⟩
    intro s hs
    rcases List.mem_cons.1 hs with rfl | hs
    · exact ⟨by decide, by decide, by decide, by decide⟩
    rcases List.mem_cons.1 hs with rfl | hs
    · exact ⟨by decide, by simp, by rintro t ⟨⟩; exact ⟨by decide, hc, by simpa using hbal⟩⟩
    · rw [List.mem_singleton.1 hs]
      trivial
  have hwrites : Writes "/menu/:id(a/b)/*/" segments :=
    ⟨['/'], ['/'], .inr rfl, .inr rfl, by decide⟩
  exact ⟨hwf, (pattern_parse_exact "menu/:id(a/b)/*").2.2.1 _ hwf,
    ((pattern_parse_exact "/menu/:id(a/b)/*/").1 ⟨_, segments⟩).2 ⟨rfl, hwf, hwrites⟩⟩

end AppLinks.Route
