import Patronage.Listing
import Patronage.Proofs.Conduct
/-!
# Reloading is all or nothing

The settings are held twice, by the configuration and, as far as the levels go, by the listing.
Reloading brings both to the contents of the file if these are accepted, and leaves both as they
were if not; so after any number of reloads both are those of the contents that were accepted last.
Main statements:

* `Listing.reload_cases` — what one reload does;
* `Listing.shows_last_accepted` — what a listing answers after any number of them.
-/

namespace Patronage

/-- The settings that some contents of a file give, one after the other, where they are accepted. -/
def Settings.accepted (path : String) (files : List Source) : List Settings :=
  files.filterMap fun file => (read path file).toOption

namespace Settings

variable {path : String} {file : Source} {files : List Source}

theorem accepted_cons_of_ok {s : Settings} (h : read path file = .ok s) :
    accepted path (file :: files) = s :: accepted path files :=
  List.filterMap_cons_some (by rw [h]; rfl)

theorem accepted_cons_of_error {e : LoadError} (h : read path file = .error e) :
    accepted path (file :: files) = accepted path files :=
  List.filterMap_cons_none (by rw [h]; rfl)

end Settings

namespace Listing

/-- The listing after its file was read again with some contents, one after the other. -/
def reloads (l : Listing) (files : List Source) : Listing :=
  files.foldl (fun l file => (l.reload file).1) l

variable {path : String} {s : Settings}

theorem catalog_ofSettings : (ofSettings path s).catalog = .ok ⟨s⟩ := rfl

/-- What one reload does: both copies become those of the contents that were accepted, or nothing
changes. -/
theorem reload_cases (l : Listing) (file : Source) :
    (∃ s, Settings.read l.config.path file = .ok s ∧
      l.reload file = (ofSettings l.config.path s, .ok ())) ∨
    ∃ e, Settings.read l.config.path file = .error e ∧ l.reload file = (l, .error e) := by
  cases hread : Settings.read l.config.path file with
  | ok s =>
    have hload : l.config.load file = (⟨l.config.path, some s⟩, .ok ()) := by
      simp only [Configuration.load, hread]
      rfl
    refine .inl ⟨s, rfl, ?_⟩
    simp only [reload, hload]
    rfl
  | error e =>
    have hload : l.config.load file = (l.config, .error e) := by
      simp only [Configuration.load, hread]
      rfl
    refine .inr ⟨e, rfl, ?_⟩
    simp only [reload, hload]

theorem reload_ofSettings (path : String) (s : Settings) (file : Source) :
    (∃ s', Settings.read path file = .ok s' ∧
      (ofSettings path s).reload file = (ofSettings path s', .ok ())) ∨
    ∃ e, Settings.read path file = .error e ∧
      (ofSettings path s).reload file = (ofSettings path s, .error e) :=
  reload_cases (ofSettings path s) file

/-! ### Any number of reloads -/

/-- After any number of reloads both copies are those of the contents that were accepted last. -/
theorem exists_reloads (path : String) (s : Settings) (files : List Source) :
    ∃ s', (s :: Settings.accepted path files).getLast? = some s' ∧
      (ofSettings path s).reloads files = ofSettings path s' := by
  induction files generalizing s with
  | nil => exact ⟨s, rfl, rfl⟩
  | cons file files ih =>
    rw [reloads, List.foldl_cons, ← reloads]
    obtain ⟨s₁, hread, hreload⟩ | ⟨e, hread, hreload⟩ := reload_ofSettings path s file
    · rw [hreload, Settings.accepted_cons_of_ok hread, List.getLast?_cons_cons]
      exact ih s₁
    · rw [hreload, Settings.accepted_cons_of_error hread]
      exact ih s

/-- The catalog that is kept as one answers like the two copies. -/
theorem catalog_reloads (path : String) (s : Settings) (files : List Source) :
    ((ofSettings path s).reloads files).catalog =
      .ok (files.foldl (fun c file => (c.reload (Settings.read path file)).1) ⟨s⟩) := by
  induction files generalizing s with
  | nil => exact catalog_ofSettings
  | cons file files ih =>
    rw [reloads, List.foldl_cons, ← reloads, List.foldl_cons]
    obtain ⟨s₁, hread, hreload⟩ | ⟨e, hread, hreload⟩ := reload_ofSettings path s file
    · rw [hreload, hread]
      exact ih s₁
    · rw [hreload, hread]
      exact ih s

theorem eq_of_ofConfiguration {l : Listing} {c : Configuration} {file : Source}
    (hc : Configuration.ofFile path file = .ok c) (hl : ofConfiguration c = .ok l) :
    ∃ s, Settings.read path file = .ok s ∧ l = ofSettings path s := by
  unfold Configuration.ofFile Configuration.load at hc
  cases hread : Settings.read path file with
  | error e =>
    rw [hread] at hc
    cases hc
  | ok s =>
    rw [hread] at hc
    obtain rfl := Except.ok.inj hc
    exact ⟨s, rfl, (Except.ok.inj hl).symm⟩

/-- A listing shows the settings of the contents that were accepted last, whatever was read in
between: the configuration holds these settings and everything is answered by them.  One more reload
fails exactly if it finds contents that are not accepted, and then changes nothing. -/
theorem shows_last_accepted {l : Listing} {c : Configuration} {first : Source}
    (hc : Configuration.ofFile path first = .ok c) (hl : ofConfiguration c = .ok l)
    (files : List Source) :
    let now := l.reloads files
    ∃ s, (Settings.accepted path (first :: files)).getLast? = some s ∧
      now.config.settings = .ok s ∧ now.catalog = .ok ⟨s⟩ ∧
      ∀ file, (now.reload file).2 = (Settings.read path file).map (fun _ => ()) ∧
        ∀ e, (now.reload file).2 = .error e → (now.reload file).1 = now := by
  obtain ⟨s₀, hread, rfl⟩ := eq_of_ofConfiguration hc hl
  obtain ⟨s, hlast, hnow⟩ := exists_reloads path s₀ files
  dsimp only
  rw [hnow]
  refine ⟨s, ?_, rfl, catalog_ofSettings, fun file => ?_⟩
  · rwa [Settings.accepted_cons_of_ok hread]
  · obtain ⟨s', hread', hreload⟩ | ⟨e, hread', hreload⟩ := reload_ofSettings path s file
    · rw [hreload, hread']
      exact ⟨rfl, nofun⟩
    · rw [hreload, hread']
      exact ⟨rfl, fun _ _ => rfl⟩

end Listing

namespace Sample

/-- The first contents of a settings file. -/
def weekFile : Source := .text "badge_expiration: P7D\n".toList

/-- Contents that break a rule, no file, contents that are accepted, and bytes that are no text. -/
def rewrites : List Source :=
  [.text "badge_expiration: P0D\n".toList, .absent, .text "badge_expiration: P14D\n".toList,
    .bytes [0xFF]]

end Sample

open Sample in
/-- Of a week, what cannot be used, two weeks and what cannot be used, two weeks are shown. -/
theorem Listing.shows_last_accepted_of_rewrites :
    ∃ week, Configuration.ofFile "subscriptions.yaml" weekFile =
        .ok ⟨"subscriptions.yaml", some week⟩ ∧
      ofConfiguration ⟨"subscriptions.yaml", some week⟩ =
        .ok (ofSettings "subscriptions.yaml" week) ∧
      ∃ s, ((ofSettings "subscriptions.yaml" week).reloads rewrites).catalog = .ok ⟨s⟩ ∧
        s.badgeExpiration.text = "P14D" := by
  have haccepted : (Settings.read "subscriptions.yaml" weekFile).toOption.isSome := by
    decide +kernel
  obtain ⟨week, hweek⟩ := Option.isSome_iff_exists.1 haccepted
  have hopen : Configuration.ofFile "subscriptions.yaml" weekFile =
      .ok ⟨"subscriptions.yaml", some week⟩ := by
    unfold Configuration.ofFile Configuration.load
    rw [eq_ok_of_toOption hweek]
    rfl
  have hcopy : ofConfiguration ⟨"subscriptions.yaml", some week⟩ =
      .ok (ofSettings "subscriptions.yaml" week) := rfl
  have htext : ((Settings.accepted "subscriptions.yaml" (weekFile :: rewrites)).getLast?.map
      (·.badgeExpiration.text)) = some "P14D" := by decide +kernel
  obtain ⟨s, hlast, -, hcatalog, -⟩ := shows_last_accepted hopen hcopy rewrites
  rw [hlast] at htext
  exact ⟨week, hopen, hcopy, s, hcatalog, Option.some.inj htext⟩

end Patronage
