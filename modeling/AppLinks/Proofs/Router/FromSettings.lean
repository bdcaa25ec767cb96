import AppLinks.Proofs.Session.Registry
import AppLinks.Proofs.Settings.Layers

/-!
Routers from settings.

The host pattern is read when settings are validated, when a router is made from them, and when a
router is given another pattern. Each of these reads it in the same way, so they accept the same
patterns and refuse the others with the same error. Whatever is loaded was validated last of all,
after every change of the pattern, and so a router can be made from it.
-/

namespace AppLinks

open Route (CutAt HostMatches Normalizer)
open Result

/-! ### One reading -/

lemma Route.Normalizer.ofPattern_eq (pattern : Option String) :
    ofPattern pattern =
      (fun e => { hostExpr := e }) <$>
        { additionalHostPattern := pattern : RouterConfig }.hostExpr? :=
  (map_eq_pure_bind _ _).symm

namespace Router

lemma ofConfig_eq (config : RouterConfig) :
    ofConfig config =
      (fun e => { config, normalizer := { hostExpr := e } }) <$> config.hostExpr? := by
  rw [ofConfig, ofPattern_hostPattern?, Normalizer.ofPattern_eq]
  change (_ <$> config.hostExpr?) >>= _ = _
  cases config.hostExpr? <;> rfl

lemma setHostPattern_eq (r : Router) (pattern : Option String) :
    r.setHostPattern pattern =
      (fun e => { r with normalizer := { hostExpr := e }
                         config := { r.config with additionalHostPattern := pattern } }) <$>
        { additionalHostPattern := pattern : RouterConfig }.hostExpr? := by
  rw [setHostPattern, Normalizer.ofPattern_eq]
  cases { additionalHostPattern := pattern : RouterConfig }.hostExpr? <;> rfl

/-- A router from valid settings has their configuration and the normalizer of their pattern. -/
lemma ofSettings_of_valid {s : Settings} (h : s.validate = .ok ()) :
    ∃ r, ofSettings s = .ok r ∧ r.config = s.router ∧
      Normalizer.ofPattern s.router.additionalHostPattern = .ok r.normalizer := by
  rw [Settings.validate_eq] at h
  obtain ⟨e, he, -⟩ := map_eq_ok.1 h
  have hr : ofSettings s = .ok { config := s.router, normalizer := { hostExpr := e } } := by
    rw [ofSettings, ofConfig_eq, he]
    rfl
  exact ⟨_, hr, rfl, (Made.ofSettings hr).consistent.normalizer⟩

end Router

/-! ### Loaded settings -/

namespace Settings

/-- Settings as they can be loaded. -/
inductive Loaded (s : Settings) : Prop where
  | ofText {format : Format} {text : String} : Settings.ofText format text = .ok s → Loaded s
  | ofFile {format : Format} {file : SettingsFile} : Settings.ofFile format file = .ok s → Loaded s
  | ofFileAndEnvironment {format : Format} {file : SettingsFile} {environment : Params} :
    Settings.ofFileAndEnvironment format file environment = .ok s → Loaded s
  | ofEnvironment {environment : Params} : Settings.ofEnvironment environment = .ok s → Loaded s

lemma valid_of_validated {s s' : Settings} (h : validated s = .ok s') : s'.validate = .ok () := by
  obtain ⟨rfl, hvalid⟩ := validated_eq_ok_iff.1 h
  exact validate_eq_ok_iff.2 hvalid

lemma valid_of_ofText {s : Settings} {format : Format} {text : String}
    (h : ofText format text = .ok s) : s.validate = .ok () := by
  obtain ⟨_, -, hlast⟩ := bind_eq_ok.1 h
  exact valid_of_validated hlast

/-- **Whatever is loaded is valid**, since it was validated after every change of it. -/
lemma Loaded.valid {s : Settings} (h : s.Loaded) : s.validate = .ok () := by
  cases h with
  | ofText h => exact valid_of_ofText h
  | ofFile h =>
    obtain ⟨_, -, htext⟩ := bind_eq_ok.1 h
    exact valid_of_ofText htext
  | ofFileAndEnvironment h =>
    obtain ⟨_, -, hlast⟩ := bind_eq_ok.1 h
    exact valid_of_validated hlast
  | ofEnvironment h => exact valid_of_validated h

/-- **Loaded settings make routers.** For any settings, either they are valid, a router can be made
from them, and any router can be given their host pattern; or these three are refused with the same
error of the configuration, which names the pattern. Settings that were loaded, from whatever text,
file or environment, are of the first kind. The router that is made from them has their
configuration, and leaves the leading segment of a link out if their host pattern is not empty and
matches this segment as a whole, and never otherwise. -/
theorem loaded_settings_make_routers :
    (∀ s : Settings,
      (s.validate = .ok () ∧ (∃ r, Router.ofSettings s = .ok r) ∧
        ∀ r : Router, ∃ r', r.setHostPattern s.router.additionalHostPattern = .ok r') ∨
      ∃ p e, s.router.additionalHostPattern = some p ∧ p ≠ "" ∧
        s.validate = .error (.configuration (.hostPattern p e)) ∧
        Router.ofSettings s = .error (.configuration (.hostPattern p e)) ∧
        ∀ r : Router, r.setHostPattern s.router.additionalHostPattern =
          .error (.configuration (.hostPattern p e))) ∧
    ∀ s : Settings, s.Loaded → ∃ r, Router.ofSettings s = .ok r ∧ r.config = s.router ∧
      ∀ text u, Url.parse text = .ok u → ∃ segment rest, CutAt u.base segment rest ∧
        (HostMatches s.router.additionalHostPattern segment →
          r.normalizer.normalize u = if rest = [] then ['/'] else rest) ∧
        (¬ HostMatches s.router.additionalHostPattern segment →
          r.normalizer.normalize u = u.base) := by
  refine ⟨fun s => ?_, fun s hs => ?_⟩
  · have hpattern (r : Router) := r.setHostPattern_eq s.router.additionalHostPattern
    change ∀ r : Router, _ = _ <$> s.router.hostExpr? at hpattern
    rw [validate_eq, Router.ofSettings, Router.ofConfig_eq]
    simp only [hpattern]
    cases hread : s.router.hostExpr? with
    | ok e => exact .inl ⟨rfl, ⟨_, rfl⟩, fun r => ⟨_, rfl⟩⟩
    | error error =>
      obtain ⟨p, e, hp, hne, rfl⟩ := RouterConfig.hostExpr?_eq_error hread
      exact .inr ⟨p, e, hp, hne, rfl, rfl, fun r => rfl⟩
  · obtain ⟨r, hr, hconfig, hnormalizer⟩ := Router.ofSettings_of_valid hs.valid
    refine ⟨r, hr, hconfig, fun text u hu => ?_⟩
    obtain ⟨rest, hcut, hdrop⟩ := Route.cutAt_leading (Route.head_base hu)
    have haccepts := Route.any_hostExpr_iff hnormalizer (Route.leading u.base)
    rw [Route.normalize_eq_trim hu, Normalizer.trim]
    exact ⟨_, rest, hcut, fun hmatch => (if_pos (haccepts.2 hmatch)).trans hdrop,
      fun hmatch => if_neg fun h => hmatch (haccepts.1 h)⟩

/-- A pattern with blanks around it, which is trimmed before it is validated. -/
theorem loaded_settings_make_routers_trimmed :
    let environment := Params.ofPairs [("DEEPLINK_ADDITIONAL_HOST_PATTERN", " (en|fr)-site ")]
    let config : RouterConfig := { additionalHostPattern := some "(en|fr)-site" }
    ∃ s u r, ofEnvironment environment = .ok s ∧ Url.parse "https://[::1]/fr-site/menu" = .ok u ∧
      Router.ofSettings s = .ok r ∧ r.config = config ∧
      ∃ segment rest, CutAt u.base segment rest ∧
        (HostMatches (some "(en|fr)-site") segment →
          r.normalizer.normalize u = if rest = [] then ['/'] else rest) ∧
        (¬ HostMatches (some "(en|fr)-site") segment → r.normalizer.normalize u = u.base) := by
  intro environment config
  have hloaded : (ofEnvironment environment).toOption.map id =
      some { router := config } := by decide +kernel
  have hurl : (Url.parse "https://[::1]/fr-site/menu").toOption.map Url.isWeb = some true := by
    decide +kernel
  obtain ⟨_, hs, rfl⟩ := eq_ok_of_view hloaded
  obtain ⟨u, hu, -⟩ := eq_ok_of_view hurl
  obtain ⟨r, hr, hconfig, hlinks⟩ := loaded_settings_make_routers.2 _ (.ofEnvironment hs)
  exact ⟨_, u, r, hs, hu, hr, hconfig, hlinks _ u hu⟩

end Settings

end AppLinks
