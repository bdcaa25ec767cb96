import AppLinks.Proofs.Route.NormalForm
import Mathlib.Logic.Function.Iterate

/-!
Normal forms of normal forms.

A route that begins with a slash is taken to be in normal form, unless it is the route of its URL.
So a normal form stays as it is, with one exception: where the route of the URL begins with a slash
itself, it may come out for another text, and is then brought into its own normal form.
-/

namespace AppLinks.Route

variable {n : Normalizer} {u : Url} {r : List Char}

/-! ### Routes that begin with a slash -/

lemma isRooted_root (r : List Char) : isRooted (root r) = true := by
  unfold root
  split
  · assumption
  · rfl

/-- Something is left out of a route that begins with a slash, unless it is the slash alone. -/
lemma dropLeading_eq_self_iff (hr : isRooted r = true) : dropLeading r = r ↔ r = ['/'] := by
  have hhead : r.head? = some '/' := of_decide_eq_true hr
  obtain ⟨rest, ⟨hcut, -, -⟩, hdrop⟩ := cutAt_leading hhead
  rw [hdrop]
  by_cases hrest : rest = []
  · rw [if_pos hrest]
    exact eq_comm
  · have hlen : rest.length < r.length := by
      rw [hcut, List.length_cons, List.length_append]
      omega
    have hlong : 0 < rest.length := List.length_pos_iff.2 hrest
    rw [if_neg hrest]
    constructor
    · intro h
      rw [h] at hlen
      omega
    · intro h
      rw [h, List.length_singleton] at hlen
      omega

namespace Normalizer

lemma isRooted_trim (hr : isRooted r = true) : isRooted (n.trim r) = true := by
  unfold trim
  split
  · rfl
  · exact hr

/-- A route stays as it is if the host pattern does not match its leading segment. -/
lemma trim_eq_self_iff (hr : isRooted r = true) :
    n.trim r = r ↔ (n.hostExpr.any (·.accepts (leading r)) = true → r = ['/']) := by
  unfold trim
  split
  · rename_i haccepts
    rw [dropLeading_eq_self_iff hr]
    exact ⟨fun h _ => h, fun h => h haccepts⟩
  · rename_i haccepts
    exact iff_of_true rfl fun h => absurd h haccepts

/-! ### Normal forms -/

lemma isRooted_normalizeRoute (n : Normalizer) (r : List Char) (u : Url) :
    isRooted (n.normalizeRoute r u) = true := by
  unfold normalizeRoute
  split
  · rename_i hsettled
    exact (Bool.and_eq_true_iff.1 hsettled).1
  · exact isRooted_trim (isRooted_root _)

/-- Of the routes that begin with a slash only the route of the URL is changed. -/
lemma normalizeRoute_of_isRooted (hr : isRooted r = true) :
    n.normalizeRoute r u = if r = rawRoute u then n.trim r else r := by
  have hsite : dropSite u r = r := by simp [dropSite, hr]
  have hroot : root r = r := by rw [root, if_pos hr]
  rw [normalizeRoute, isSettled, hr, Bool.true_and, hsite, hroot]
  by_cases hraw : r = rawRoute u
  · rw [if_neg (by simpa using hraw), if_pos hraw]
  · rw [if_pos (by simpa using hraw), if_neg hraw]

/-- What comes out for a route that does not begin with a slash is taken for the route of the URL,
of which the host pattern matches the leading segment. -/
structure Mistakes (n : Normalizer) (r : List Char) (u : Url) : Prop where
  unrooted : isRooted r = false
  raw : n.normalizeRoute r u = rawRoute u
  matched : n.hostExpr.any (·.accepts (leading (rawRoute u))) = true
  long : rawRoute u ≠ ['/']

/-- The normal form of a route is its own normal form, unless it is taken for another route. -/
lemma normalizeRoute_normalizeRoute_iff :
    n.normalizeRoute (n.normalizeRoute r u) u = n.normalizeRoute r u ↔ ¬ n.Mistakes r u := by
  have hrooted := isRooted_normalizeRoute n r u
  rw [normalizeRoute_of_isRooted hrooted]
  by_cases hraw : n.normalizeRoute r u = rawRoute u
  · rw [if_pos hraw, trim_eq_self_iff hrooted, hraw]
    constructor
    · rintro h ⟨-, -, hmatched, hlong⟩
      exact hlong (h hmatched)
    · intro h hmatched
      by_contra hlong
      cases hr : isRooted r with
      | false => exact h ⟨hr, hraw, hmatched, hlong⟩
      | true =>
        -- then the route of the URL was itself given, and came out unchanged
        rw [normalizeRoute_of_isRooted hr] at hraw
        split at hraw
        · rename_i hgiven
          rw [← hgiven] at hraw hmatched hlong
          exact hlong ((trim_eq_self_iff hr).1 hraw hmatched)
        · rename_i hother
          exact hother hraw
  · rw [if_neg hraw]
    exact iff_of_true rfl fun h => hraw h.raw

/-- The route of a URL is not taken for another one. -/
lemma not_mistakes_rawRoute (n : Normalizer) (u : Url) : ¬ n.Mistakes (rawRoute u) u := by
  rintro ⟨hunrooted, hraw, -, -⟩
  have hrooted := isRooted_normalizeRoute n (rawRoute u) u
  rw [hraw, hunrooted] at hrooted
  cases hrooted

/-- **Normal forms are final.** The normal form of any text begins with a slash. It is its own
normal form, except if the text does not begin with a slash, what comes out for it is the route of
the URL, and the host pattern matches the leading segment of this route, which is more than a slash;
the route then loses that segment. The normal form of the route of a URL is never changed, however
often it is brought into its normal form. -/
theorem normal_form_final (n : Normalizer) (u : Url) :
    (∀ r, isRooted (n.normalizeRoute r u) = true ∧
      (n.normalizeRoute (n.normalizeRoute r u) u = n.normalizeRoute r u ↔ ¬ n.Mistakes r u)) ∧
    ∀ k, (fun r => n.normalizeRoute r u)^[k] (n.normalize u) = n.normalize u := by
  refine ⟨fun r => ⟨isRooted_normalizeRoute n r u, normalizeRoute_normalizeRoute_iff⟩, fun k => ?_⟩
  have hfixed : n.normalizeRoute (n.normalize u) u = n.normalize u :=
    normalizeRoute_normalizeRoute_iff.2 (not_mistakes_rawRoute n u)
  exact Function.iterate_fixed hfixed k

/-- A leading segment that comes twice in a text, and once in the route of a URL without a host. -/
theorem normal_form_not_final : ∃ n u, Normalizer.ofPattern (some "site") = .ok n ∧
    Url.parse "file:///site/docs" = .ok u ∧
    n.normalizeRoute "site/site/docs".toList u = "/site/docs".toList ∧
    n.normalizeRoute (n.normalizeRoute "site/site/docs".toList u) u = "/docs".toList ∧
    n.normalizeRoute (n.normalizeRoute "site/site/docs".toList u) u ≠
      n.normalizeRoute "site/site/docs".toList u := by
  have hfound : ((Normalizer.ofPattern (some "site")).toOption.bind fun n =>
      (Url.parse "file:///site/docs").toOption.map fun u =>
        (n.normalizeRoute "site/site/docs".toList u,
          n.normalizeRoute (n.normalizeRoute "site/site/docs".toList u) u)) =
      some ("/site/docs".toList, "/docs".toList) := by decide +kernel
  obtain ⟨n, hn, hfound⟩ := Option.bind_eq_some_iff.1 hfound
  obtain ⟨u, hu, hviews⟩ := Option.map_eq_some_iff.1 hfound
  obtain ⟨hfirst, hsecond⟩ := Prod.mk.inj hviews
  refine ⟨n, u, Result.toOption_eq_some.1 hn, Result.toOption_eq_some.1 hu, hfirst, hsecond, ?_⟩
  rw [hsecond, hfirst]
  decide

end Normalizer

end AppLinks.Route
