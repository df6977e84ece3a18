import SqlAudit.Proofs.SchemaPieces
import SqlAudit.Session

/-! # Precedence of configuration files

Of the sources of a setting, the environment comes first, then the directory's file, the user's file
and the default: the first that defines the setting has its say. The directory's file takes the
place of the user's file as a whole, though, and so a setting that only the user's file defines is
lost as soon as there is a file in the directory. Where this happens, and only there, the setting
has another value than the order of the sources gives it.
-/

namespace SqlAudit

namespace FileSettings

/-- What a configuration file may define. -/
inductive Key where
  | database
  | parallel
  | disabled
  | severity
  | smallTableRows
  | maxJoinTables
  | maxOffset
  | maxTableIndexes
  | largeTableRows
  | rowCounts
  deriving DecidableEq, Repr

namespace Key

/-- The values of a setting. -/
abbrev Content : Key → Type
  | .database => Option String
  | .parallel => Bool
  | .disabled => List String
  | .severity => List (String × String)
  | .smallTableRows | .maxJoinTables | .maxOffset | .maxTableIndexes | .largeTableRows => Nat
  | .rowCounts => List (String × Nat)

/-- The value that a file defines. -/
def defined? : (k : Key) → FileSettings → Option k.Content
  | .database, f => f.database.map some
  | .parallel, f => f.parallel
  | .disabled, f => f.disabled
  | .severity, f => f.severity
  | .smallTableRows, f => f.smallTableRows
  | .maxJoinTables, f => f.maxJoinTables
  | .maxOffset, f => f.maxOffset
  | .maxTableIndexes, f => f.maxTableIndexes
  | .largeTableRows, f => f.largeTableRows
  | .rowCounts, f => f.rowCounts

/-- The value that is in force. -/
def effective : (k : Key) → Configuration → k.Content
  | .database, c => c.settings.database
  | .parallel, c => c.settings.parallel
  | .disabled, c => c.settings.disabled
  | .severity, c => c.settings.severity
  | .smallTableRows, c => c.settings.thresholds.smallTableRows
  | .maxJoinTables, c => c.settings.thresholds.maxJoinTables
  | .maxOffset, c => c.settings.thresholds.maxOffset
  | .maxTableIndexes, c => c.settings.thresholds.maxTableIndexes
  | .largeTableRows, c => c.settings.thresholds.largeTableRows
  | .rowCounts, c => c.rowCounts

/-- The default. -/
def usual (k : Key) : k.Content :=
  k.effective {}

/-- The value that the environment defines: of the database, unless the name is empty. -/
def named? (environment : Option String) : (k : Key) → Option k.Content
  | .database => (environment.filter (!·.isEmpty)).map some
  | _ => none

/-- The value from the first source that defines one. -/
def documented (user directory : Option FileSettings) (environment : Option String) (k : Key) :
    k.Content :=
  ((k.named? environment).or ((directory.bind k.defined?).or (user.bind k.defined?))).getD k.usual

/-- Only the user's file defines the setting, to something that is not the default, but there is a
file in the directory. -/
structure Lost (user directory : Option FileSettings) (environment : Option String) (k : Key) :
    Prop where
  not_named : k.named? environment = none
  left_open : ∃ f, directory = some f ∧ k.defined? f = none
  defined : ∃ v, user.bind k.defined? = some v ∧ v ≠ k.usual

/-- A setting that a file leaves out has its usual value. -/
theorem effective_complete (k : Key) (f : FileSettings) :
    k.effective f.complete = (k.defined? f).getD k.usual := by
  cases k with
  | database =>
      show f.database = (f.database.map some).getD none
      cases f.database <;> rfl
  | _ => rfl

/-- The environment names the database and nothing else. -/
theorem effective_withDatabase (k : Key) (c : Configuration) (environment : Option String) :
    k.effective (c.withDatabase (environment.filter (!·.isEmpty))) =
      (k.named? environment).getD (k.effective c) := by
  cases k with
  | database =>
      rw [named?]
      cases environment.filter (!·.isEmpty) <;> rfl
  | _ => cases environment.filter (!·.isEmpty) <;> rfl

/-- Of the files only the one in the directory counts, if there is one. -/
theorem effective_inForce (user directory : Option FileSettings) (environment : Option String)
    (k : Key) :
    k.effective (.inForce user directory environment) =
      ((k.named? environment).or ((directory.or user).bind k.defined?)).getD k.usual := by
  have hopen : k.defined? {} = none := by cases k <;> rfl
  rw [Configuration.inForce, effective_withDatabase, effective_complete]
  cases k.named? environment <;> cases directory.or user <;> simp [hopen]

/-- A lost setting is back at its usual value. -/
theorem effective_of_lost {user directory : Option FileSettings} {environment : Option String}
    {k : Key} (hlost : k.Lost user directory environment) :
    k.effective (.inForce user directory environment) = k.usual := by
  obtain ⟨f, rfl, hopen⟩ := hlost.left_open
  simp [effective_inForce, hlost.not_named, hopen]

/-- The documented order of sources is followed except where a setting is lost. -/
theorem effective_eq_documented_iff (user directory : Option FileSettings)
    (environment : Option String) (k : Key) :
    k.effective (.inForce user directory environment) = k.documented user directory environment ↔
      ¬ k.Lost user directory environment := by
  constructor
  · intro heq hlost
    rw [effective_of_lost hlost] at heq
    obtain ⟨f, rfl, hopen⟩ := hlost.left_open
    obtain ⟨v, hv, hne⟩ := hlost.defined
    simp [documented, hlost.not_named, hopen, hv] at heq
    exact hne heq.symm
  · intro hkept
    rw [effective_inForce, documented]
    cases hnamed : k.named? environment with
    | some v => simp
    | none =>
        cases directory with
        | none => simp
        | some f =>
            cases hopen : k.defined? f with
            | some v => simp [hopen]
            | none =>
                cases huser : user.bind k.defined? with
                | none => simp [hopen]
                | some v =>
                    -- The user's value is the default, since it is not lost.
                    have hv : v = k.usual :=
                      Classical.byContradiction fun hne =>
                        hkept ⟨hnamed, ⟨f, rfl, hopen⟩, v, huser, hne⟩
                    simp [hopen, hv]

end Key

end FileSettings

namespace Surroundings

/-- What the user's configuration file defines, if there is a home directory and a file below it. -/
def userSettings (s : Surroundings) : Except Failure (Option FileSettings) :=
  match s.lookup "HOME" with
  | some home => s.settingsOf (userPath home)
  | none => .ok none

/-- A session whose files can be read has the configuration of its sources. -/
theorem configuration_eq {s : Surroundings} {user directory : Option FileSettings}
    (huser : s.userSettings = .ok user) (hdirectory : s.settingsOf directoryPath = .ok directory) :
    s.configuration = .ok (.inForce user directory s.database) := by
  unfold userSettings at huser
  unfold configuration
  cases hhome : s.lookup "HOME" with
  | none =>
      rw [hhome] at huser
      cases huser
      simp only [hdirectory]
      rfl
  | some home =>
      rw [hhome] at huser
      simp only [huser, hdirectory]
      rfl

/-- With valid configuration files, or none, there is a configuration, and every setting has the
value that the order of the sources gives it, except for the settings that are lost. These have
their defaults. -/
theorem configuration_follows_sources_iff {s : Surroundings} {user directory : Option FileSettings}
    (huser : s.userSettings = .ok user) (hdirectory : s.settingsOf directoryPath = .ok directory) :
    ∃ c, s.configuration = .ok c ∧ ∀ k : FileSettings.Key,
      (k.effective c = k.documented user directory s.database ↔
        ¬ k.Lost user directory s.database) ∧
        (k.Lost user directory s.database → k.effective c = k.usual) := by
  refine ⟨_, configuration_eq huser hdirectory, fun k => ⟨?_, ?_⟩⟩
  · exact FileSettings.Key.effective_eq_documented_iff user directory s.database k
  · exact FileSettings.Key.effective_of_lost

/-! ## Two files -/

/-- The user's file switches a rule off, the directory's file sets a limit, and the environment
names a database. -/
def twoFiles : Surroundings where
  file path :=
    if path = "home/.config/sql-review/config.toml" then
      .ok "[review]\ndisabled = [\"select-star\"]\n"
    else if path = ".sql-review.toml" then .ok "[review.thresholds]\nmax_offset = 500\n"
    else .error .missing
  input := .ok ""
  lookup name := if name = "HOME" then some "home"
    else if name = "SQL_REVIEW_DATABASE" then some "billing" else none
  terminal := false

theorem userSettings_twoFiles :
    twoFiles.userSettings = .ok (some { disabled := some ["select-star"] }) := by
  apply eq_ok_of_toOption
  decide +kernel

theorem directorySettings_twoFiles :
    twoFiles.settingsOf directoryPath = .ok (some { maxOffset := some 500 }) := by
  apply eq_ok_of_toOption
  decide +kernel

theorem configuration_follows_sources_iff_twoFiles :
    twoFiles.userSettings = .ok (some { disabled := some ["select-star"] }) ∧
      twoFiles.settingsOf directoryPath = .ok (some { maxOffset := some 500 }) ∧
      ∃ c, twoFiles.configuration = .ok c ∧ c.settings.database = some "billing" ∧
        c.settings.thresholds.maxOffset = 500 := by
  obtain ⟨c, hc, hkeys⟩ :=
    configuration_follows_sources_iff userSettings_twoFiles directorySettings_twoFiles
  refine ⟨userSettings_twoFiles, directorySettings_twoFiles, c, hc, ?_, ?_⟩
  · refine (hkeys .database).1.mpr fun hlost => ?_
    cases hlost.not_named
  · refine (hkeys .maxOffset).1.mpr fun hlost => ?_
    obtain ⟨f, hf, hopen⟩ := hlost.left_open
    cases hf
    cases hopen

/-- The rule that the user's file switches off stays switched on. -/
theorem user_setting_lost :
    twoFiles.userSettings = .ok (some { disabled := some ["select-star"] }) ∧
      twoFiles.settingsOf directoryPath = .ok (some { maxOffset := some 500 }) ∧
      ∃ c, twoFiles.configuration = .ok c ∧ FileSettings.Key.disabled.effective c = [] ∧
        FileSettings.Key.disabled.documented (some { disabled := some ["select-star"] })
          (some { maxOffset := some 500 }) twoFiles.database = ["select-star"] :=
  ⟨userSettings_twoFiles, directorySettings_twoFiles, _,
    configuration_eq userSettings_twoFiles directorySettings_twoFiles, rfl, rfl⟩

end Surroundings

end SqlAudit
