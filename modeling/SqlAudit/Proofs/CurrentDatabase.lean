import SqlAudit.Proofs.FilePrecedence

/-! # The current database

The current database of a review is named by the command line, by the environment or by a
configuration file. The environment is asked twice: by the command line, which takes the name as it
is, and by the configuration, for which an empty name is no name. What counts in the end is the name
on the command line, or else any name from the environment, or else the configured name. So an empty
name in the environment, which should count as none, is the current database unless the command line
names one.
-/

namespace SqlAudit

namespace CommandLine

/-- The environment only fills in for a database that the command line does not name. -/
theorem Given.request_environment (g : Given) (environment : Option String) :
    g.request environment =
      (g.request none).map fun r => { r with database := r.database.or environment } := by
  unfold request
  split
  next => simp [Except.map]
  next => rfl

/-- Only arguments that begin with the name of the review command ask for a review. -/
theorem Command.eq_review_cons {environment : Option String} {arguments : List String}
    {r : ReviewRequest} (hread : Command.read environment arguments = .ok (.review r)) :
    ∃ rest, arguments = "review" :: rest := by
  unfold Command.read at hread
  split at hread
  next => cases hread
  next rest => exact ⟨rest, rfl⟩
  next rest =>
    obtain ⟨given, -, hgiven⟩ := exists_ok_of_bind hread
    cases hgiven
  next rest =>
    obtain ⟨topic, -, htopic⟩ := exists_ok_of_bind hread
    cases htopic
  next argument rest _ _ _ =>
    -- Whatever else stands in front is refused.
    split at hread
    next => split at hread <;> cases hread
    next => cases hread
    next => cases hread
    next => cases hread

/-- A database named in the environment is only a default for the option. -/
theorem Command.read_environment {arguments : List String} {r : ReviewRequest}
    (hread : Command.read none arguments = .ok (.review r)) (environment : Option String) :
    Command.read environment arguments =
      .ok (.review { r with database := r.database.or environment }) := by
  obtain ⟨rest, rfl⟩ := Command.eq_review_cons hread
  rw [Command.read] at hread ⊢
  obtain ⟨given, htaken, hgiven⟩ := exists_ok_of_bind hread
  obtain ⟨_, hrequest, hreview⟩ := exists_ok_of_bind hgiven
  cases hreview
  have hfilled : given.request environment =
      .ok { r with database := r.database.or environment } := by
    rw [given.request_environment, hrequest]
    rfl
  rw [htaken]
  change (given.request environment >>= fun request => pure (review request)) = _
  rw [hfilled]
  rfl

end CommandLine

/-- The configuration with just this current database, or none. -/
def Configuration.under (c : Configuration) (database : Option String) : Configuration :=
  { c with settings := { c.settings with database } }

theorem Configuration.withDatabase_eq_under (c : Configuration) (database : Option String) :
    c.withDatabase database = c.under (database.or c.settings.database) := by
  cases database <;> rfl

theorem Configuration.under_under (c : Configuration) (first second : Option String) :
    (c.under first).under second = c.under second :=
  rfl

/-- What the files define, with the defaults for the rest. -/
def Configuration.ofFiles (user directory : Option FileSettings) : Configuration :=
  ((directory.or user).getD {}).complete

/-- The environment comes before the files, unless it names the empty database. -/
theorem Configuration.inForce_eq (user directory : Option FileSettings)
    (environment : Option String) :
    inForce user directory environment =
      (ofFiles user directory).under
        ((environment.filter (!·.isEmpty)).or (ofFiles user directory).settings.database) :=
  withDatabase_eq_under _ _

/-- How a session ends with what its command gave. -/
def Ending.ofResult : Except Failure Ending → Ending
  | .ok ending => ending
  | .error failure => { exitCode := 1, fatal := some failure }

/-- The ending of the review that is asked for, with just this current database or none. -/
def Surroundings.reviewUnder (s : Surroundings) (r : CommandLine.ReviewRequest) (c : Configuration)
    (database : Option String) : Ending :=
  .ofResult (CommandLine.Command.perform s (c.under database) (.review { r with database := none }))

/-- A review with a database of its own is a review in the configuration with that database. -/
theorem CommandLine.Command.perform_review (s : Surroundings) (c : Configuration)
    (r : ReviewRequest) :
    Command.perform s c (.review r) =
      Command.perform s (c.under (r.database.or c.settings.database))
        (.review { r with database := none }) := by
  simp only [perform, ReviewRequest.review, Configuration.withDatabase_eq_under]
  rfl

namespace Surroundings

/-- The database that a review uses: any name from the environment comes before the configured one.
-/
def usedDatabase (option environment configured : Option String) : Option String :=
  option.or (environment.or configured)

/-- The database that a review should use: an empty name from the environment counts as none. -/
def documentedDatabase (option environment configured : Option String) : Option String :=
  option.or ((environment.filter (!·.isEmpty)).or configured)

/-- The documented database is used unless it is an empty name from the environment that takes
effect. -/
theorem usedDatabase_eq_documented_iff (option environment configured : Option String) :
    usedDatabase option environment configured = documentedDatabase option environment configured ↔
      (option = none → environment = some "" → configured = some "") := by
  unfold usedDatabase documentedDatabase
  cases option with
  | some name => simp
  | none =>
      cases environment with
      | none => simp
      | some name =>
          by_cases hname : name = ""
          · subst hname
            have hnone : (some "").filter (fun name : String => !name.isEmpty) = none := rfl
            simp [hnone, eq_comm]
          · simp [Option.filter, hname]

/-- A session whose files can be read is a review under the database in use. -/
theorem run_eq_reviewUnder {s : Surroundings} {arguments : List String}
    {r : CommandLine.ReviewRequest} {user directory : Option FileSettings}
    (hread : CommandLine.Command.read none arguments = .ok (.review r))
    (huser : s.userSettings = .ok user) (hdirectory : s.settingsOf directoryPath = .ok directory) :
    s.run arguments =
      s.reviewUnder r (.ofFiles user directory)
        (usedDatabase r.database s.database
          (Configuration.ofFiles user directory).settings.database) := by
  have hdatabase : (r.database.or s.database).or
      ((s.database.filter (!·.isEmpty)).or
        (Configuration.ofFiles user directory).settings.database) =
        usedDatabase r.database s.database
          (Configuration.ofFiles user directory).settings.database := by
    unfold usedDatabase
    cases r.database <;> cases s.database <;> rfl
  have hrun : s.run arguments =
      .ofResult (CommandLine.Command.perform s (.inForce user directory s.database)
        (.review { r with database := r.database.or s.database })) := by
    rw [run, CommandLine.Command.read_environment hread, configuration_eq huser hdirectory]
    rfl
  rw [hrun, CommandLine.Command.perform_review, Configuration.inForce_eq,
    Configuration.under_under, ← hdatabase]
  rfl

/-- The same surroundings, but the environment names no database. -/
def unnamed (s : Surroundings) : Surroundings :=
  { s with lookup := fun name => if name = "SQL_REVIEW_DATABASE" then none else s.lookup name }

theorem database_unnamed (s : Surroundings) : s.unnamed.database = none := by
  simp [database, unnamed]

theorem userSettings_unnamed (s : Surroundings) : s.unnamed.userSettings = s.userSettings := by
  simp only [userSettings, unnamed, String.reduceEq, if_false]
  rfl

/-- The review itself does not look at the environment. -/
theorem reviewUnder_unnamed (s : Surroundings) : s.unnamed.reviewUnder = s.reviewUnder := by
  have hcolored : s.unnamed.colored = s.colored := by simp [colored, unnamed]
  funext r c database
  simp only [reviewUnder, CommandLine.Command.perform, hcolored]
  rfl

/-- A review uses the database of the command line, or else the name from the environment, or else
the configured one. This is the database that it should use unless the command line names none, the
environment has an empty name and the configuration has another one or none. The session without the
variable is the one that an empty name should give, and it does give this session where the
databases agree. -/
theorem review_uses_named_database_iff {s : Surroundings} {arguments : List String}
    {r : CommandLine.ReviewRequest} {user directory : Option FileSettings}
    (hread : CommandLine.Command.read none arguments = .ok (.review r))
    (huser : s.userSettings = .ok user) (hdirectory : s.settingsOf directoryPath = .ok directory) :
    (s.run arguments =
      s.reviewUnder r (.ofFiles user directory)
        (usedDatabase r.database s.database
          (Configuration.ofFiles user directory).settings.database)) ∧
    (usedDatabase r.database s.database (Configuration.ofFiles user directory).settings.database =
        documentedDatabase r.database s.database
          (Configuration.ofFiles user directory).settings.database ↔
      (r.database = none → s.database = some "" →
        (Configuration.ofFiles user directory).settings.database = some "")) ∧
    (s.database = some "" →
      s.unnamed.run arguments =
          s.reviewUnder r (.ofFiles user directory)
            (documentedDatabase r.database s.database
              (Configuration.ofFiles user directory).settings.database) ∧
        ((r.database = none → (Configuration.ofFiles user directory).settings.database = some "") →
          s.run arguments = s.unnamed.run arguments)) := by
  have hrun := run_eq_reviewUnder hread huser hdirectory
  have hagree := usedDatabase_eq_documented_iff r.database s.database
    (Configuration.ofFiles user directory).settings.database
  refine ⟨hrun, hagree, fun hempty => ?_⟩
  have hunnamed : s.unnamed.run arguments = s.reviewUnder r (.ofFiles user directory)
      (documentedDatabase r.database s.database
        (Configuration.ofFiles user directory).settings.database) := by
    have hbare := run_eq_reviewUnder hread ((userSettings_unnamed s).trans huser) hdirectory
    rw [hbare, database_unnamed, reviewUnder_unnamed, hempty]
    rfl
  refine ⟨hunnamed, fun hconfigured => ?_⟩
  rw [hrun, hunnamed, hagree.mpr fun hoption _ => hconfigured hoption]

/-! ## A table of another database -/

/-- A script that reads all rows of a table of the database `d`. -/
def qualifiedRead : Surroundings where
  file path :=
    if path = "s.sql" then .ok "CREATE TABLE t (a INT)"
    else if path = "q.sql" then .ok "SELECT a FROM d.t"
    else .error .missing
  input := .ok ""
  lookup name := if name = "SQL_REVIEW_DATABASE" then some "" else none
  terminal := false

def qualifiedArguments : List String :=
  ["review", "-s", "s.sql", "-q", "q.sql", "-r", "t=9"]

theorem review_uses_named_database_iff_qualified :
    CommandLine.Command.read none qualifiedArguments =
        .ok (.review { schema := "s.sql", queries := "q.sql", rows := ["t=9"] }) ∧
      qualifiedRead.userSettings = .ok none ∧ qualifiedRead.settingsOf directoryPath = .ok none ∧
      qualifiedRead.run qualifiedArguments =
        qualifiedRead.reviewUnder { schema := "s.sql", queries := "q.sql", rows := ["t=9"] }
          {} (some "") ∧
      qualifiedRead.unnamed.run qualifiedArguments =
        qualifiedRead.reviewUnder { schema := "s.sql", queries := "q.sql", rows := ["t=9"] }
          {} none := by
  have hread : CommandLine.Command.read none qualifiedArguments =
      .ok (.review { schema := "s.sql", queries := "q.sql", rows := ["t=9"] }) := rfl
  have huser : qualifiedRead.userSettings = .ok none := rfl
  have hdirectory : qualifiedRead.settingsOf directoryPath = .ok none := rfl
  obtain ⟨hrun, -, hempty⟩ := review_uses_named_database_iff hread huser hdirectory
  exact ⟨hread, huser, hdirectory, hrun, (hempty rfl).1⟩

/-- The empty name makes the table unknown, and the finding about it is gone. -/
theorem empty_name_changes_report :
    qualifiedRead.database = some "" ∧ (qualifiedRead.run qualifiedArguments).exitCode = 0 ∧
      (qualifiedRead.unnamed.run qualifiedArguments).exitCode = 1 := by
  decide +kernel

end Surroundings

end SqlAudit
