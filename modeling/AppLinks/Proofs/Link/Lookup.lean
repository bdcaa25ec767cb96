import AppLinks.Link
import AppLinks.Proofs.Result

/-!
Looking up the parameters of a link.

A link can be asked for one parameter or for all of them. Asked for one, it looks among the
parameters of the route first; for all of them, these are laid over those of the query. Both come to
the same, and of the pairs of the query only the last one of a name counts.
-/

namespace AppLinks

/-- Of the pairs with this name the last one has this value. -/
def LastPair (pairs : List (String × String)) (k v : String) : Prop :=
  ∃ before after, pairs = before ++ (k, v) :: after ∧ ∀ kv ∈ after, kv.1 ≠ k

namespace Params

variable {pairs : List (String × String)} {k v : String}

/-- Pairs that are set one after another leave the last value of each name. -/
lemma get?_ofPairs_eq_some_iff_lastPair :
    (ofPairs pairs).get? k = some v ↔ LastPair pairs k v := by
  rw [get?_ofPairs, List.lookup_eq_some_iff]
  constructor
  · rintro ⟨after, before, hsplit, hafter⟩
    refine ⟨before.reverse, after.reverse, ?_, fun kv hkv => ?_⟩
    · simpa using List.reverse_eq_append_iff.1 hsplit
    · exact (bne_iff_ne.1 (hafter kv (List.mem_reverse.1 hkv))).symm
  · rintro ⟨before, after, rfl, hafter⟩
    refine ⟨after.reverse, before.reverse, by simp, fun kv hkv => ?_⟩
    exact bne_iff_ne.2 (hafter kv (List.mem_reverse.1 hkv)).symm

lemma exists_get?_ofPairs_iff :
    (∃ v, (ofPairs pairs).get? k = some v) ↔ ∃ v, (k, v) ∈ pairs := by
  constructor
  · rintro ⟨v, hv⟩
    rw [get?_ofPairs] at hv
    exact ⟨v, List.mem_reverse.1 (mem_of_lookup hv)⟩
  · rintro ⟨v, hv⟩
    cases hlookup : (ofPairs pairs).get? k with
    | some w => exact ⟨w, rfl⟩
    | none =>
      rw [get?_ofPairs] at hlookup
      have hne := List.lookup_eq_none_iff.1 hlookup (k, v) (List.mem_reverse.2 hv)
      simp at hne

end Params

namespace Link

variable {url : Url} {route : String} {params : Params}

/-- The two ways to look up a parameter come to the same for any link. -/
lemma get?_parameters (l : Link) (key : String) : l.parameters.get? key = l.get? key := by
  rw [parameters, Params.get?_merge, get?]
  cases l.routeParameters.get? key <;> rfl

/-- A parameter of the route is found, whatever the query says. -/
lemma get?_of_routeParameter {l : Link} {key v : String}
    (h : l.routeParameters.get? key = some v) : l.get? key = some v := by
  rw [get?, h]

lemma get?_of_not_routeParameter {l : Link} {key : String}
    (h : l.routeParameters.get? key = none) : l.get? key = l.queryParameters.get? key := by
  rw [get?, h]

/-- **Looking up one parameter agrees with looking at all of them.** Both give the parameter of the
route if there is one of the name, else the value of the last pair of the query with this name, and
nothing if there is none. The parameters of the query are the last values of its pairs, whatever the
parameters of the route are. So is the URL to go back to, which is there if the last pair of its
name has a URL. -/
theorem lookups_agree (url : Url) (route : String) (params : Params) (key : String) :
    let link := Link.ofMatch url route params
    link.get? key = link.parameters.get? key ∧
    (∀ v, link.get? key = some v ↔ params.get? key = some v ∨
      params.get? key = none ∧ LastPair url.queryPairs key v) ∧
    (link.get? key = none ↔ params.get? key = none ∧ ∀ v, (key, v) ∉ url.queryPairs) ∧
    (∀ v, link.queryParameters.get? key = some v ↔ LastPair url.queryPairs key v) ∧
    ((∃ v, link.queryParameters.get? key = some v) ↔ ∃ v, (key, v) ∈ url.queryPairs) ∧
    ∀ back, link.callbackUrl = some back ↔
      ∃ text, LastPair url.queryPairs "dpl_callback_url" text ∧ Url.parse text = .ok back := by
  intro link
  have hquery (k v : String) :
      link.queryParameters.get? k = some v ↔ LastPair url.queryPairs k v :=
    Params.get?_ofPairs_eq_some_iff_lastPair
  have hpresent : (∃ v, link.queryParameters.get? key = some v) ↔
      ∃ v, (key, v) ∈ url.queryPairs := Params.exists_get?_ofPairs_iff
  refine ⟨(link.get?_parameters key).symm, fun v => ?_, ?_, hquery key, hpresent, fun back => ?_⟩
  · cases hroute : params.get? key with
    | some w => simp [get?_of_routeParameter (l := link) hroute]
    | none =>
      rw [get?_of_not_routeParameter (l := link) hroute, hquery]
      simp
  · cases hroute : params.get? key with
    | some w => simp [get?_of_routeParameter (l := link) hroute]
    | none =>
      rw [get?_of_not_routeParameter (l := link) hroute, Option.eq_none_iff_forall_ne_some,
        ← not_exists, hpresent]
      simp
  · change ((link.queryParameters.get? callbackKey).bind fun text => (Url.parse text).toOption) =
      some back ↔ _
    simp only [Option.bind_eq_some_iff, Result.toOption_eq_some, hquery]
    rfl

end Link

end AppLinks
