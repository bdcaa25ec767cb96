import AppLinks.Proofs.Result
import AppLinks.Url.Parse

/-!
The path of a URL of the web begins with a slash.

Dots are resolved so that at least one segment is left, and each segment has a slash before it.
-/

namespace AppLinks.Url

open Result

lemma resolve_ne_nil {l : List (List Char)} (hl : l ≠ []) (done : List (List Char)) :
    Path.resolve done l ≠ [] := by
  induction l generalizing done with
  | nil => exact absurd rfl hl
  | cons s rest ih =>
    -- the last segment leaves one, whatever it is
    have hlast (hrest : rest = []) (d : List (List Char)) :
        Path.resolve (d ++ if rest.isEmpty then [[]] else []) rest ≠ [] := by
      subst hrest
      simp [Path.resolve]
    rw [Path.resolve]
    by_cases hrest : rest = []
    · split
      · exact hlast hrest _
      · split
        · exact hlast hrest _
        · subst hrest
          simp [Path.resolve]
    · split
      · exact ih hrest _
      · split <;> exact ih hrest _

lemma read_ne_nil (special : Bool) (s : List Char) : Path.read special s ≠ [] := by
  have hsplit (s : List Char) : Text.Form.splitOn '/' s ≠ [] := by
    cases s with
    | nil => simp [Text.Form.splitOn]
    | cons c r =>
      rw [Text.Form.splitOn]
      split
      · simp
      · split <;> simp
  exact resolve_ne_nil (hsplit _) []

lemma head_render {l : List (List Char)} (hl : l ≠ []) : (Path.render l).head? = some '/' := by
  cases l with
  | nil => exact absurd rfl hl
  | cons s l => rfl

/-- A special URL has at least one segment. -/
lemma head_readPath (s : List Char) : (readPath true s).text.head? = some '/' := by
  unfold readPath
  dsimp only
  split
  · exact head_render (by simp)
  · exact head_render (read_ne_nil true _)

/-- The schemes of the web are special, and `file` is none of them. -/
lemma special_of_isWeb {u : Url} (hu : u.isWeb = true) :
    isSpecial u.scheme = true ∧ u.scheme ≠ "file".toList := by
  rw [isWeb, Bool.or_eq_true, decide_eq_true_eq, decide_eq_true_eq] at hu
  rcases hu with hu | hu <;> rw [hu] <;> decide

lemma scheme_of_readAfterScheme {scheme s : List Char} {u : Url}
    (h : readAfterScheme scheme s = .ok u) : u.scheme = scheme := by
  unfold readAfterScheme at h
  split at h
  · rename_i hfile
    rw [hfile]
    unfold readFile at h
    dsimp only at h
    split at h
    · split at h
      · split at h
        · cases h
          rfl
        · split at h
          · cases h
            rfl
          · obtain ⟨_, -, h⟩ := bind_eq_ok.1 h
            cases h
            rfl
      · cases h
        rfl
    · cases h
      rfl
  · split at h
    · obtain ⟨_, -, h⟩ := bind_eq_ok.1 h
      cases h
      rfl
    · split at h
      · obtain ⟨_, -, h⟩ := bind_eq_ok.1 h
        cases h
        rfl
      · cases h
        rfl
      · cases h
        rfl

/-- The path of a URL of the web begins with a slash. -/
lemma head_path_of_isWeb {text : String} {u : Url} (h : parse text = .ok u)
    (hu : u.isWeb = true) : u.path.head? = some '/' := by
  obtain ⟨hspecial, hfile⟩ := special_of_isWeb hu
  unfold parse at h
  split at h
  · rename_i scheme s _
    rw [scheme_of_readAfterScheme h] at hspecial hfile
    unfold readAfterScheme at h
    rw [if_neg hfile, if_pos hspecial] at h
    obtain ⟨⟨a, rest⟩, -, h⟩ := bind_eq_ok.1 h
    cases h
    exact head_readPath rest
  · cases h

end AppLinks.Url
