import AppLinks.Router.Run
import Mathlib.Data.List.Basic

/-!
What a ledger says about each completion.

A place is made for one completion, and the uses of its sinks say which signals were sent and what
came of them. A ledger is sound if every place tells a right story, one in which the first signal
called the completion and no other did, and if the journal agrees with all these stories.
-/

namespace AppLinks

/-! ## Views -/

/-- What the completion of an attempt receives by an event. -/
def Event.receipt? (call : Nat) : Event → Option (Bool × Option LinkError)
  | .completion k handled error => if k = call then some (handled, error) else none
  | _ => none

/-- What the signal of a use says. -/
def Use.signal? : Use → Option (Bool × Option LinkError)
  | .signal handled error _ => some (handled, error)
  | _ => none

/-- The signals among the uses of a place. -/
def signals (us : List Use) : List (Bool × Option LinkError) := us.filterMap Use.signal?

/-- What comes of the signal that calls a completion. -/
def Completion.answer (c : Completion) : Except Panic Bool :=
  match c.panics with
  | none => .ok true
  | some p => .error p

/-- What comes of a signal after the uses `us` of the same place: the first signal calls the
completion, every later one is refused. -/
def Completion.answerAfter (c : Completion) (us : List Use) : Except Panic Bool :=
  if signals us = [] then c.answer else .ok false

/-- What has to come of a use after the uses `before` of the same place; a question is answered by
whether there was a signal. -/
def Use.Right (c : Completion) (before : List Use) : Use → Prop
  | .opened _ => False
  | .signal _ _ result => result = c.answerAfter before
  | .asked answer => answer = !(signals before).isEmpty

/-- Every one of the uses is right after those before it. -/
def RightStory (c : Completion) (us : List Use) : Prop :=
  ∀ before u after, us = before ++ u :: after → u.Right c before

namespace Ledger

/-- What the completion of an attempt has received, in order. -/
def received (l : Ledger) (call : Nat) : List (Bool × Option LinkError) :=
  l.journal.filterMap (Event.receipt? call)

/-- What was done with the sinks of a place, in order. -/
def usesOf (l : Ledger) (place : Nat) : List Use :=
  (l.uses.filter (·.1 = place)).map Prod.snd

end Ledger

@[simp] lemma signals_nil : signals [] = [] := rfl

lemma signals_append (us vs : List Use) : signals (us ++ vs) = signals us ++ signals vs :=
  List.filterMap_append

lemma signals_snoc (us : List Use) (u : Use) :
    signals (us ++ [u]) = signals us ++ u.signal?.toList := by
  cases h : u.signal? <;> simp [signals, h]

@[simp] lemma rightStory_nil (c : Completion) : RightStory c [] := by
  intro before u after h
  simp at h

lemma rightStory_snoc {c : Completion} {us : List Use} {u : Use} (h : RightStory c us)
    (hu : u.Right c us) : RightStory c (us ++ [u]) := by
  intro before v after hsplit
  rcases List.eq_nil_or_concat after with rfl | ⟨rest, w, rfl⟩
  · obtain ⟨rfl, hv⟩ := List.append_inj' hsplit rfl
    cases hv
    exact hu
  · rw [List.concat_eq_append, ← List.cons_append, ← List.append_assoc] at hsplit
    exact h before v rest (List.append_inj' hsplit rfl).1

/-! ## Sound ledgers -/

/-- A place was made for a completion, and what was done with its sinks since then is right; the
completion has received the first signal, and is pending until then. -/
structure Ledger.Serves (l : Ledger) (place : Nat) (c : Completion) (us : List Use) : Prop where
  uses : l.usesOf place = .opened c :: us
  right : RightStory c us
  received : l.received c.call = (signals us).take 1
  slot : l.pending[place]? = some (if signals us = [] then some c else none)

/-- A completion is the one that an attempt was made with, if `panics` says of each attempt how its
completion ends. -/
def Completion.IsOf (c : Completion) (panics : List (Option Panic)) : Prop :=
  panics[c.call]? = some c.panics

lemma Completion.IsOf.append {c : Completion} {panics : List (Option Panic)} (h : c.IsOf panics)
    (p : Option Panic) : c.IsOf (panics ++ [p]) := by
  rw [IsOf, List.getElem?_append_left (List.getElem?_eq_some_iff.mp h).1]
  exact h

lemma Completion.isOf_snoc {c : Completion} {panics : List (Option Panic)}
    (hc : c.call = panics.length) : c.IsOf (panics ++ [c.panics]) := by
  simp [IsOf, hc]

/-- Every place tells a right story, the places have completions of different attempts, and the
attempts so far have each a place or were answered without one; `panics` says of each attempt how
its completion ends. -/
structure Ledger.Sound (panics : List (Option Panic)) (l : Ledger) : Prop where
  kept : ∀ s ∈ l.saved, s.place < l.pending.length
  served : ∀ p < l.pending.length, ∃ c us, c.IsOf panics ∧ l.Serves p c us
  unused : ∀ p, l.pending.length ≤ p → l.usesOf p = []
  apart : ∀ p q c d us vs, l.Serves p c us → l.Serves q d vs → c.call = d.call → p = q
  once : ∀ call, (l.received call).length ≤ 1
  fresh : ∀ call, panics.length ≤ call → l.received call = []
  reached : ∀ call < panics.length,
    (l.received call).length = 1 ∨ ∃ p c us, c.call = call ∧ l.Serves p c us

namespace Ledger

variable {l l' : Ledger} {panics : List (Option Panic)} {p q : Nat} {c d : Completion}
  {us vs : List Use}

lemma Serves.lt (h : l.Serves p c us) : p < l.pending.length :=
  (List.getElem?_eq_some_iff.mp h.slot).1

lemma Serves.set_slot (h : l.Serves p c us) :
    l.pending.set p (if signals us = [] then some c else none) = l.pending := by
  obtain ⟨hlt, heq⟩ := List.getElem?_eq_some_iff.mp h.slot
  rw [← heq, List.set_getElem_self]

lemma Serves.unique (h : l.Serves p c us) (h' : l.Serves p d vs) : c = d ∧ us = vs := by
  have heads := h.uses.symm.trans h'.uses
  simp only [List.cons.injEq, Use.opened.injEq] at heads
  exact heads

/-- A ledger that agrees about a place and its completion serves it in the same way. -/
lemma Serves.congr (h : l.Serves p c us) (huses : l'.usesOf p = l.usesOf p)
    (hreceived : l'.received c.call = l.received c.call) (hslot : l'.pending[p]? = l.pending[p]?) :
    l'.Serves p c us :=
  ⟨huses.trans h.uses, h.right, hreceived.trans h.received, hslot.trans h.slot⟩

lemma sound_empty : Sound [] {} where
  kept := by simp
  served := by simp
  unused _ _ := rfl
  apart p q c d us vs h := by simpa using h.lt
  once _ := by simp [Ledger.received]
  fresh _ _ := rfl
  reached := by simp

/-- Only the places, the sinks that were kept, the uses and the receipts matter. -/
lemma Sound.congr (h : l.Sound panics) (hpending : l'.pending = l.pending)
    (hsaved : ∀ s ∈ l'.saved, s.place < l.pending.length)
    (huses : l'.uses = l.uses) (hreceived : ∀ call, l'.received call = l.received call) :
    l'.Sound panics := by
  have husesOf : ∀ p, l'.usesOf p = l.usesOf p := fun p => by rw [usesOf, huses, usesOf]
  have hserves : ∀ p c us, l'.Serves p c us ↔ l.Serves p c us := fun p c us =>
    ⟨fun hs => hs.congr (husesOf p).symm (hreceived _).symm (by rw [hpending]),
      fun hs => hs.congr (husesOf p) (hreceived _) (by rw [hpending])⟩
  refine ⟨?_, ?_, ?_, ?_, ?_, ?_, ?_⟩
  · simpa only [hpending] using hsaved
  · simpa only [hpending, hserves] using h.served
  · simpa only [hpending, husesOf] using h.unused
  · simpa only [hserves] using h.apart
  · simpa only [hreceived] using h.once
  · simpa only [hreceived] using h.fresh
  · simpa only [hreceived, hserves] using h.reached

lemma Sound.isOf (h : l.Sound panics) (hs : l.Serves p c us) : c.IsOf panics := by
  obtain ⟨d, vs, hof, hs'⟩ := h.served p hs.lt
  rw [(hs.unique hs').1]
  exact hof

lemma Sound.call_lt (h : l.Sound panics) (hs : l.Serves p c us) : c.call < panics.length :=
  (List.getElem?_eq_some_iff.mp (h.isOf hs)).1

/-- A place with uses was made for a completion. -/
lemma Sound.serves (h : l.Sound panics) {u : Use} (huses : l.usesOf p = u :: us) :
    ∃ c, u = .opened c ∧ l.Serves p c us := by
  have hlt : p < l.pending.length := by
    by_contra hge
    rw [h.unused p (Nat.le_of_not_lt hge)] at huses
    cases huses
  obtain ⟨c, vs, -, hs⟩ := h.served p hlt
  obtain ⟨rfl, rfl⟩ := List.cons.inj (huses.symm.trans hs.uses)
  exact ⟨c, rfl, hs⟩

/-- If what a sound ledger says about a place holds of another one, then that one says no more. -/
lemma Sound.serves_iff (h : l.Sound panics) (hq : q < l.pending.length)
    (hto : ∀ d vs, l.Serves q d vs → l'.Serves q d vs) : l'.Serves q d vs ↔ l.Serves q d vs := by
  refine ⟨fun hs' => ?_, hto d vs⟩
  obtain ⟨e, ws, -, hs⟩ := h.served q hq
  obtain ⟨rfl, rfl⟩ := (hto e ws hs).unique hs'
  exact hs

/-! ### What changes a ledger -/

lemma usesOf_snoc_self {u : Use} (huses : l'.uses = l.uses ++ [(p, u)]) :
    l'.usesOf p = l.usesOf p ++ [u] := by
  simp [usesOf, huses]

lemma usesOf_snoc_of_ne {u : Use} (huses : l'.uses = l.uses ++ [(p, u)]) (hq : q ≠ p) :
    l'.usesOf q = l.usesOf q := by
  simp [usesOf, huses, hq.symm]

/-- A right use of the sinks of a place leads from one ledger to another. Only a first signal is
received, and by the completion of the place; nothing else changes. -/
structure Using (l l' : Ledger) (p : Nat) (c : Completion) (us : List Use) (u : Use) : Prop where
  right : u.Right c us
  saved : l'.saved = l.saved
  uses : l'.uses = l.uses ++ [(p, u)]
  pending : l'.pending = l.pending.set p (if signals (us ++ [u]) = [] then some c else none)
  received : ∀ call, l'.received call =
    l.received call ++ if call = c.call ∧ signals us = [] then u.signal?.toList else []

lemma Using.length_eq {u : Use} (hu : l.Using l' p c us u) :
    l'.pending.length = l.pending.length := by
  rw [hu.pending, List.length_set]

lemma Using.usesOf_eq {u : Use} (hu : l.Using l' p c us u) (hq : q ≠ p) :
    l'.usesOf q = l.usesOf q := usesOf_snoc_of_ne hu.uses hq

lemma Using.slot_eq {u : Use} (hu : l.Using l' p c us u) (hq : q ≠ p) :
    l'.pending[q]? = l.pending[q]? := by
  rw [hu.pending, List.getElem?_set_ne hq.symm]

lemma Using.received_eq {u : Use} (hu : l.Using l' p c us u) {call : Nat} (hcall : call ≠ c.call) :
    l'.received call = l.received call := by
  simp [hu.received, hcall]

/-- The story of the place goes on. -/
lemma Serves.use {u : Use} (h : l.Serves p c us) (hu : l.Using l' p c us u) :
    l'.Serves p c (us ++ [u]) where
  uses := by rw [usesOf_snoc_self hu.uses, h.uses, List.cons_append]
  right := rightStory_snoc h.right hu.right
  received := by
    rw [hu.received, h.received, signals_snoc]
    by_cases hnone : signals us = []
    · cases hs : u.signal? <;> simp [hnone]
    · obtain ⟨x, xs, hx⟩ := List.exists_cons_of_ne_nil hnone
      simp [hx]
  slot := by rw [hu.pending, List.getElem?_set_self h.lt]

/-- **A use keeps a ledger sound.** -/
lemma Sound.use {u : Use} (h : l.Sound panics) (hs : l.Serves p c us) (hu : l.Using l' p c us u) :
    l'.Sound panics := by
  have hlength := hu.length_eq
  have hself := hs.use hu
  -- no other place has the completion that is called here, if one is
  have hother : ∀ q, q ≠ p → q < l.pending.length → ∀ d vs,
      (l'.Serves q d vs ↔ l.Serves q d vs) := by
    intro q hq hlt d vs
    refine h.serves_iff hlt fun e ws hs' => hs'.congr (hu.usesOf_eq hq) ?_ (hu.slot_eq hq)
    exact hu.received_eq fun heq => hq (h.apart q p e c ws us hs' hs heq)
  have hthere : ∀ q d vs, l'.Serves q d vs → ∃ ws, l.Serves q d ws := by
    intro q d vs hs'
    by_cases hq : q = p
    · subst hq
      exact ⟨us, (hs'.unique hself).1 ▸ hs⟩
    · exact ⟨vs, (hother q hq (hlength ▸ hs'.lt) d vs).mp hs'⟩
  have honce : ∀ call, (l'.received call).length ≤ 1 := by
    intro call
    rw [hu.received]
    split
    · rename_i hcall
      rw [hcall.1, hs.received, hcall.2]
      cases u.signal? <;> simp
    · simpa using h.once call
  refine ⟨?_, ?_, ?_, ?_, ?_, ?_, ?_⟩
  · simpa only [hu.saved, hlength] using h.kept
  · intro q hlt
    rw [hlength] at hlt
    by_cases hq : q = p
    · exact ⟨c, us ++ [u], h.isOf hs, hq ▸ hself⟩
    · obtain ⟨d, vs, hcall, hs'⟩ := h.served q hlt
      exact ⟨d, vs, hcall, (hother q hq hlt d vs).mpr hs'⟩
  · intro q hle
    rw [hlength] at hle
    have hq : q ≠ p := by have := hs.lt; omega
    rw [hu.usesOf_eq hq, h.unused q hle]
  · intro q q' d d' vs vs' h₁ h₂ hcall
    obtain ⟨ws, h₁⟩ := hthere q d vs h₁
    obtain ⟨ws', h₂⟩ := hthere q' d' vs' h₂
    exact h.apart q q' d d' ws ws' h₁ h₂ hcall
  · exact honce
  · intro call hle
    have hcall : call ≠ c.call := by have := h.call_lt hs; omega
    rw [hu.received_eq hcall, h.fresh call hle]
  · intro call hlt
    rcases h.reached call hlt with hdirect | ⟨q, d, vs, hcall, hs'⟩
    · refine .inl (Nat.le_antisymm (honce call) ?_)
      rw [hu.received, List.length_append]
      omega
    · right
      by_cases hq : q = p
      · subst hq
        exact ⟨q, c, us ++ [u], (hs'.unique hs).1 ▸ hcall, hself⟩
      · exact ⟨q, d, vs, hcall, (hother q hq hs'.lt d vs).mpr hs'⟩

/-- **A new place for the next attempt** keeps a ledger sound. -/
lemma Sound.opened (h : l.Sound panics) (hc : c.call = panics.length) (hsaved : l'.saved = l.saved)
    (hpending : l'.pending = l.pending ++ [some c])
    (huses : l'.uses = l.uses ++ [(l.pending.length, .opened c)])
    (hjournal : l'.journal = l.journal) : l'.Sound (panics ++ [c.panics]) := by
  have hlength : l'.pending.length = l.pending.length + 1 := by simp [hpending]
  have hreceived : ∀ call, l'.received call = l.received call := by simp [received, hjournal]
  have hself : l'.Serves l.pending.length c [] := by
    refine ⟨?_, rightStory_nil c, ?_, by simp [hpending]⟩
    · rw [usesOf_snoc_self huses, h.unused _ (Nat.le_refl _), List.nil_append]
    · rw [hreceived, h.fresh _ (Nat.le_of_eq hc.symm), signals_nil, List.take_nil]
  -- the attempt is new, so that no place from before has its completion
  have hother : ∀ q < l.pending.length, ∀ d vs, (l'.Serves q d vs ↔ l.Serves q d vs) := by
    intro q hlt d vs
    refine h.serves_iff hlt fun e ws hs' =>
      hs'.congr (usesOf_snoc_of_ne huses (Nat.ne_of_lt hlt)) (hreceived _) ?_
    rw [hpending, List.getElem?_append_left hlt]
  have hthere : ∀ q d vs, l'.Serves q d vs →
      (q = l.pending.length ∧ d = c) ∨ (l.Serves q d vs ∧ d.call < panics.length) := by
    intro q d vs hs'
    rcases Nat.lt_or_ge q l.pending.length with hlt | hge
    · have hs := (hother q hlt d vs).mp hs'
      exact .inr ⟨hs, h.call_lt hs⟩
    · obtain rfl : q = l.pending.length := by have := hs'.lt; omega
      exact .inl ⟨rfl, (hs'.unique hself).1⟩
  refine ⟨?_, ?_, ?_, ?_, ?_, ?_, ?_⟩
  · intro s hs
    rw [hlength]
    exact Nat.lt_succ_of_lt (h.kept s (hsaved ▸ hs))
  · intro q hlt
    rcases Nat.lt_or_ge q l.pending.length with hlt' | hge
    · obtain ⟨d, vs, hof, hs⟩ := h.served q hlt'
      exact ⟨d, vs, hof.append c.panics, (hother q hlt' d vs).mpr hs⟩
    · obtain rfl : q = l.pending.length := by omega
      exact ⟨c, [], Completion.isOf_snoc hc, hself⟩
  · intro q hle
    rw [usesOf_snoc_of_ne huses (by omega), h.unused q (by omega)]
  · intro q q' d d' vs vs' h₁ h₂ hcall
    rcases hthere q d vs h₁ with ⟨rfl, rfl⟩ | ⟨h₁, hlt⟩ <;>
      rcases hthere q' d' vs' h₂ with ⟨rfl, rfl⟩ | ⟨h₂, hlt'⟩
    · rfl
    · omega
    · omega
    · exact h.apart q q' d d' vs vs' h₁ h₂ hcall
  · simpa only [hreceived] using h.once
  · intro call hle
    rw [List.length_append] at hle
    rw [hreceived, h.fresh call (by omega)]
  · intro call hlt
    rw [List.length_append, List.length_singleton] at hlt
    rcases Nat.lt_or_ge call panics.length with hlt' | hge
    · rcases h.reached call hlt' with hdirect | ⟨q, d, vs, hcall, hs⟩
      · exact .inl ((hreceived call).symm ▸ hdirect)
      · exact .inr ⟨q, d, vs, hcall, (hother q hs.lt d vs).mpr hs⟩
    · exact .inr ⟨l.pending.length, c, [], by omega, hself⟩

/-- **An answer without a place** to the next attempt keeps a ledger sound. -/
lemma Sound.direct (h : l.Sound panics) (hc : c.call = panics.length) {handled : Bool}
    {error : Option LinkError}
    (hpending : l'.pending = l.pending) (hsaved : l'.saved = l.saved) (huses : l'.uses = l.uses)
    (hjournal : l'.journal = l.journal ++ [.completion c.call handled error]) :
    l'.Sound (panics ++ [c.panics]) := by
  have hreceived : ∀ call, l'.received call =
      l.received call ++ if call = panics.length then [(handled, error)] else [] := by
    intro call
    by_cases hcall : call = panics.length <;>
      simp [received, hjournal, Event.receipt?, hc, hcall, eq_comm (a := panics.length)]
  have husesOf : ∀ p, l'.usesOf p = l.usesOf p := fun p => by rw [usesOf, huses, usesOf]
  have hserves : ∀ q d vs, l'.Serves q d vs ↔ l.Serves q d vs := by
    intro q d vs
    by_cases hlt : q < l.pending.length
    · refine h.serves_iff hlt fun e ws hs => hs.congr (husesOf q) ?_ (by rw [hpending])
      simp [hreceived, Nat.ne_of_lt (h.call_lt hs)]
    · refine ⟨fun hs => absurd hs.lt ?_, fun hs => absurd hs.lt hlt⟩
      rwa [hpending]
  refine ⟨?_, ?_, ?_, ?_, ?_, ?_, ?_⟩
  · simpa only [hpending, hsaved] using h.kept
  · intro q hlt
    rw [hpending] at hlt
    obtain ⟨d, vs, hof, hs⟩ := h.served q hlt
    exact ⟨d, vs, hof.append c.panics, (hserves q d vs).mpr hs⟩
  · simpa only [hpending, husesOf] using h.unused
  · simpa only [hserves] using h.apart
  · intro call
    rw [hreceived]
    split
    · rename_i hcall
      simp [h.fresh call (Nat.le_of_eq hcall.symm)]
    · simpa using h.once call
  · intro call hle
    rw [List.length_append, List.length_singleton] at hle
    have hcall : call ≠ panics.length := by omega
    simp [hreceived, hcall, h.fresh call (by omega)]
  · intro call hlt
    rw [List.length_append, List.length_singleton] at hlt
    rw [hreceived]
    split
    · rename_i hcall
      exact .inl (by simp [h.fresh call (Nat.le_of_eq hcall.symm)])
    · rename_i hcall
      simpa only [List.append_nil, hserves] using h.reached call (by omega)

end Ledger

end AppLinks
