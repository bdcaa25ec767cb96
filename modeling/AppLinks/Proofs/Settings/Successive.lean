import AppLinks.Proofs.Settings.Layers
import Mathlib.Data.List.Basic
import Mathlib.Data.List.Pairwise

/-!
Overrides one after another.

Settings can be overridden by one environment after another. This comes to the same as laying the
environments over each other and overriding once. Of each variable only the last value counts, and
one that was there before it leaves nothing behind, even if no host pattern can be read from it.
-/

namespace AppLinks

/-- No environment has a variable of this name. -/
def NeverSet (environments : List Params) (name : String) : Prop :=
  ∀ e ∈ environments, e.get? name = none

/-- Of the environments that have a variable of this name the last one gives it this value. -/
def LastSet (environments : List Params) (name value : String) : Prop :=
  ∃ before e after, environments = before ++ e :: after ∧ e.get? name = some value ∧
    NeverSet after name

/-- An environment that takes each variable from the last of others that has it. -/
def TakesLast (environments : List Params) (e : Params) : Prop :=
  ∀ name value, e.get? name = some value ↔ LastSet environments name value

/-- The value of a setting in the end: that of the last value of its variable, else the old one. -/
structure Kind.EndsAs {α : Type} (k : Kind α) (environments : List Params) (name : String)
    (old a : α) : Prop where
  ofLast : ∀ text, LastSet environments name text → k.inVariable text a
  kept : NeverSet environments name → a = old

namespace Params

variable {environments : List Params} {name value : String}

/-- Environments laid over each other; later ones win. -/
def overlayAll (environments : List Params) : Params := environments.foldl merge empty

lemma get?_foldl_merge (environments : List Params) (p : Params) (name : String) :
    (environments.foldl merge p).get? name =
      (environments.reverse.findSome? (·.get? name)).or (p.get? name) := by
  induction environments generalizing p with
  | nil => rfl
  | cons e es ih =>
    rw [List.foldl_cons, ih, get?_merge, List.reverse_cons, List.findSome?_append, Option.or_assoc,
      List.findSome?_singleton]

lemma get?_overlayAll (environments : List Params) (name : String) :
    (overlayAll environments).get? name = environments.reverse.findSome? (·.get? name) := by
  rw [overlayAll, get?_foldl_merge, get?_empty, Option.or_none]

lemma get?_overlayAll_eq_none_iff :
    (overlayAll environments).get? name = none ↔ NeverSet environments name := by
  rw [get?_overlayAll, List.findSome?_eq_none_iff]
  simp only [List.mem_reverse, NeverSet]

/-- Environments laid over each other take each variable from the last one that has it. -/
lemma takesLast_overlayAll (environments : List Params) :
    TakesLast environments (overlayAll environments) := by
  intro name value
  rw [get?_overlayAll, List.findSome?_eq_some_iff]
  constructor
  · rintro ⟨after, e, before, hsplit, he, hafter⟩
    refine ⟨before.reverse, e, after.reverse, ?_, he, fun f hf => hafter f (List.mem_reverse.1 hf)⟩
    simpa using List.reverse_eq_append_iff.1 hsplit
  · rintro ⟨before, e, after, rfl, he, hafter⟩
    exact ⟨after.reverse, e, before.reverse, by simp, he,
      fun f hf => hafter f (List.mem_reverse.1 hf)⟩

end Params

open Params

lemma TakesLast.get?_eq {environments : List Params} {e : Params} (h : TakesLast environments e)
    (name : String) : e.get? name = (overlayAll environments).get? name :=
  Option.ext fun value => (h name value).trans (takesLast_overlayAll environments name value).symm

namespace Kind

variable {α : Type} {k : Kind α} {environments : List Params} {name : String} {old a : α}

/-- What a setting ends as is its value in layers: that of the variable, over the old one. -/
lemma endsAs_iff_layered : k.EndsAs environments name old a ↔
    k.Layered old none ((overlayAll environments).get? name) a := by
  have hlast := takesLast_overlayAll environments name
  constructor
  · intro h
    exact ⟨fun text htext => h.ofLast text ((hlast text).1 htext), nofun,
      fun hnone _ => h.kept (get?_overlayAll_eq_none_iff.1 hnone)⟩
  · intro h
    exact ⟨fun text htext => h.ofVariable text ((hlast text).2 htext),
      fun hnever => h.ofNeither (get?_overlayAll_eq_none_iff.2 hnever) rfl⟩

lemma ReadBy.endsAs_iff {read : Json.Value → Except Json.ShapeError α} {set : String → α}
    (hk : k.ReadBy read set) : k.EndsAs environments name old a ↔
      a = (((overlayAll environments).get? name).map set).getD old := by
  rw [endsAs_iff_layered]
  exact hk.layered_iff rfl

end Kind

namespace Settings

def overrideAll (environments : List Params) (s : Settings) : Settings :=
  environments.foldl (fun s e => s.override e) s

/-- Settings each of which is what the last value of its variable says, else as it was in `s`. -/
structure Overridden (environments : List Params) (s s' : Settings) : Prop where
  debug : Kind.flag.EndsAs environments "DEEPLINK_DEBUG" s.debug s'.debug
  logLevel : Kind.text.EndsAs environments "DEEPLINK_LOG_LEVEL" s.logLevel s'.logLevel
  useStartAnchors : Kind.flag.EndsAs environments "DEEPLINK_USE_START_ANCHORS"
    s.router.useStartAnchors s'.router.useStartAnchors
  useNormalizedPaths : Kind.flag.EndsAs environments "DEEPLINK_USE_NORMALIZED_PATHS"
    s.router.useNormalizedPaths s'.router.useNormalizedPaths
  additionalHostPattern : Kind.pattern.EndsAs environments "DEEPLINK_ADDITIONAL_HOST_PATTERN"
    s.router.additionalHostPattern s'.router.additionalHostPattern

/-- No variable that counts is in both environments. -/
def Apart (e e' : Params) : Prop := ∀ n ∈ variableNames, e.get? n = none ∨ e'.get? n = none

/-- Settings with this host pattern, and else the usual ones. -/
def ofHostPattern (p : Option String) : Settings := { router := { additionalHostPattern := p } }

/-! ### One override -/

/-- To override twice is to override once with one environment laid over the other. -/
lemma override_override (s : Settings) (e e' : Params) :
    (s.override e).override e' = s.override (e.merge e') := by
  simp only [override, get?_merge, Option.map_or, Option.getD_or]

lemma override_comm {e e' : Params} (h : Apart e e') (s : Settings) :
    (s.override e).override e' = (s.override e').override e := by
  rw [override_override, override_override]
  refine override_congr (fun n hn => ?_) s
  rw [get?_merge, get?_merge]
  rcases h n hn with hnone | hnone
  · rw [hnone, Option.or_none, Option.none_or]
  · rw [hnone, Option.or_none, Option.none_or]

/-- The host pattern alone decides whether settings are valid. -/
lemma validate_eq_ofHostPattern (s : Settings) :
    s.validate = (ofHostPattern s.router.additionalHostPattern).validate := rfl

/-! ### Many overrides -/

lemma overrideAll_eq (environments : List Params) (s : Settings) :
    s.overrideAll environments = s.override (overlayAll environments) := by
  have hstep (p : Params) :
      (s.override p).overrideAll environments = s.override (environments.foldl merge p) := by
    induction environments generalizing p with
    | nil => rfl
    | cons e es ih => rw [overrideAll, List.foldl_cons, override_override, ← overrideAll, ih,
        List.foldl_cons]
  exact hstep empty

/-- Environments of which no two have a variable in common can come in any order. -/
lemma overrideAll_perm {environments environments' : List Params}
    (hapart : environments.Pairwise Apart) (hperm : environments.Perm environments')
    (s : Settings) : s.overrideAll environments = s.overrideAll environments' := by
  have hcomm : ∀ e ∈ environments, ∀ e' ∈ environments, ∀ s : Settings,
      (s.override e).override e' = (s.override e').override e := by
    have hpairs := hapart.imp override_comm
    have : Std.Symm fun e e' : Params =>
        ∀ s : Settings, (s.override e).override e' = (s.override e').override e :=
      ⟨fun _ _ h s => (h s).symm⟩
    exact fun e he e' he' => hpairs.forall_of_forall (fun _ _ _ => rfl) he he'
  exact hperm.foldl_eq' hcomm s

/-- What each setting ends as tells the settings in the end. -/
lemma overridden_iff {environments : List Params} {s s' : Settings} :
    s.Overridden environments s' ↔ s' = s.overrideAll environments := by
  rw [overrideAll_eq, eq_override_iff, ← Kind.flag_readBy.endsAs_iff, ← Kind.text_readBy.endsAs_iff,
    ← Kind.flag_readBy.endsAs_iff, ← Kind.flag_readBy.endsAs_iff, ← Kind.pattern_readBy.endsAs_iff]
  exact ⟨fun ⟨h₁, h₂, h₃, h₄, h₅⟩ => ⟨h₁, h₂, h₃, h₄, h₅⟩,
    fun ⟨h₁, h₂, h₃, h₄, h₅⟩ => ⟨h₁, h₂, h₃, h₄, h₅⟩⟩

/-- **Overrides compose.** To override settings with one environment after another is to override
them once, with the environment that takes each variable from the last one that has it. To go
through all of them again changes nothing, and where no two have a variable in common their order
does not count. Each setting ends as what the last value of its variable says, or stays as it was if
there is none. The host pattern that is there in the end decides alone whether the settings are
valid, and what is wrong with them if they are not. -/
theorem overrides_compose (environments : List Params) (s : Settings) :
    (∃ e, TakesLast environments e) ∧
    (∀ e, TakesLast environments e → s.overrideAll environments = s.override e) ∧
    s.overrideAll (environments ++ environments) = s.overrideAll environments ∧
    (∀ environments', environments.Perm environments' → environments.Pairwise Apart →
      s.overrideAll environments = s.overrideAll environments') ∧
    (∀ s', s.Overridden environments s' ↔ s' = s.overrideAll environments) ∧
    ∀ p, Kind.pattern.EndsAs environments "DEEPLINK_ADDITIONAL_HOST_PATTERN"
        s.router.additionalHostPattern p →
      (s.overrideAll environments).validate = (ofHostPattern p).validate := by
  refine ⟨⟨_, takesLast_overlayAll environments⟩, fun e he => ?_, ?_,
    fun environments' hperm hapart => overrideAll_perm hapart hperm s, fun s' => overridden_iff,
    fun p hp => ?_⟩
  · rw [overrideAll_eq]
    exact override_congr (fun n _ => (he.get?_eq n).symm) s
  · rw [overrideAll_eq, overrideAll_eq]
    refine override_congr (fun n _ => ?_) s
    rw [get?_overlayAll, get?_overlayAll, List.reverse_append, List.findSome?_append,
      Option.or_self]
  · obtain rfl := Kind.pattern_readBy.endsAs_iff.1 hp
    rw [overrideAll_eq, validate_eq_ofHostPattern]
    rfl

/-- A pattern that cannot be read, taken away by one of blanks. -/
theorem overrides_compose_cleared :
    let pattern := Params.ofPairs [("DEEPLINK_DEBUG", " Yes"),
      ("DEEPLINK_ADDITIONAL_HOST_PATTERN", "(")]
    let blank := Params.ofPairs [("DEEPLINK_ADDITIONAL_HOST_PATTERN", "  ")]
    let level := Params.ofPairs [("DEEPLINK_LOG_LEVEL", "warn")]
    let e := Params.ofPairs [("DEEPLINK_DEBUG", " Yes"),
      ("DEEPLINK_ADDITIONAL_HOST_PATTERN", "  "), ("DEEPLINK_LOG_LEVEL", "warn")]
    let s : Settings := { debug := false, router := { additionalHostPattern := some "site" } }
    TakesLast [pattern, blank, level] e ∧ s.overrideAll [pattern, blank, level] = s.override e ∧
      s.override e = { debug := true, logLevel := "warn" } ∧
      [blank, level].Pairwise Apart ∧ s.overrideAll [blank, level] = s.overrideAll [level, blank] ∧
      Kind.pattern.EndsAs [pattern, blank, level] "DEEPLINK_ADDITIONAL_HOST_PATTERN" (some "site")
        none ∧
      (s.overrideAll [pattern, blank, level]).validate = .ok () := by
  intro pattern blank level e s
  have hlast : TakesLast [pattern, blank, level] e := by
    have he : overlayAll [pattern, blank, level] = e := by decide +kernel
    rw [← he]
    exact takesLast_overlayAll _
  have hends : Kind.pattern.EndsAs [pattern, blank, level] "DEEPLINK_ADDITIONAL_HOST_PATTERN"
      (some "site") none := by
    rw [Kind.pattern_readBy.endsAs_iff]
    decide +kernel
  have hapart : [blank, level].Pairwise Apart := by
    refine List.pairwise_pair.2 ?_
    unfold Apart
    decide +kernel
  obtain ⟨-, honce, -, -, -, hvalid⟩ := overrides_compose [pattern, blank, level] s
  obtain ⟨-, -, -, horder, -, -⟩ := overrides_compose [blank, level] s
  exact ⟨hlast, honce e hlast, by decide +kernel, hapart,
    horder [level, blank] (.swap level blank []) hapart, hends, hvalid none hends⟩

end Settings

end AppLinks
