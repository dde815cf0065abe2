import StatementShell.CommandLine.Program

/-!
# The settings in force

The settings of a run come from three places.  An option counts for more than the
settings file, and the file for more than the standard settings, but the last two are
not mixed: a file with one unusable value is left aside as a whole.  What the options
change is changed after that choice.  So a fault in the file does not reach the options,
and since no option touches what can be at fault, none brings a fault back.

Reading the settings stops in three cases only, which are told apart here from what the
file system shows.

## Main Definitions

* `CommandLine.Given`: the settings that are given.
* `CommandLine.Refused`: what is wrong with the file, where none are given.
* `Settings.orStandard`: the settings to start from.
* `CommandLine.Overridden`: what the options make of the settings to start from.

## Main Results

* `CommandLine.given_or_refused`, `CommandLine.load_eq_error_iff`: what is read.
* `CommandLine.overridden_override`: the options do what they say.
* `configure_follows_precedence`: the settings in force.
-/

namespace StatementShell

/-- Settings, unless they are at fault; then the standard ones in every field. -/
def Settings.orStandard (home : Text) (given : Settings) : Settings :=
  if given.fault? = none then given else .standard home

/-- The settings to start from are usable. -/
theorem Settings.fault?_orStandard (home : Text) (given : Settings) :
    (given.orStandard home).fault? = none := by
  unfold orStandard
  split
  · assumption
  · exact fault?_standard home

namespace CommandLine

/-! ### What the settings file gives -/

/-- The settings that are given: those that the file describes, or the standard ones where
no file is named and there is none at the standard place. -/
inductive Given (s : Surroundings) (o : Options) : Settings → Prop where
  | absent (unnamed : o.settingsFile = none)
      (missing : s.files (Settings.standardPath s.home) = .missing) :
      Given s o (Settings.standard s.home)
  | described {source : Text} {settings : Settings}
      (readable : (s.files (settingsPath s.home o)).text = .ok source)
      (describes : Settings.ofToml s.home source = .ok settings) : Given s o settings

/-- Why no settings are given: a file is named and missing, the file cannot be read, or its
text does not describe settings. -/
inductive Refused (s : Surroundings) (o : Options) : Failure → Prop where
  | missing {path : Text} (named : o.settingsFile = some path)
      (missing : s.files path = .missing) : Refused s o (.settings (.notFound path))
  | unreadable {failure : Failure} (present : s.files (settingsPath s.home o) ≠ .missing)
      (unreadable : (s.files (settingsPath s.home o)).text = .error failure) :
      Refused s o failure
  | undescribed {source : Text} {fault : SettingsFault}
      (readable : (s.files (settingsPath s.home o)).text = .ok source)
      (undescribed : Settings.ofToml s.home source = .error fault) :
      Refused s o (.settings fault)

variable {s : Surroundings} {o : Options}

/-- A text is read from the bytes that encode it. -/
theorem Entry.text_toByteArray (source : String) :
    (Entry.content source.toByteArray).text = .ok source.toList := by
  have decoded : String.fromUTF8? source.toByteArray = some source :=
    dif_pos source.isValidUTF8
  simp only [Entry.text, decoded]

/-- A file that can be read is there. -/
theorem Entry.ne_missing_of_text {entry : Entry} {source : Text}
    (readable : entry.text = .ok source) : entry ≠ .missing := by
  rintro rfl
  cases readable

/-- Either settings are given, or something is wrong with the file. -/
theorem given_or_refused (s : Surroundings) (o : Options) :
    (∃ settings, Given s o settings) ∨ ∃ failure, Refused s o failure := by
  by_cases missing : s.files (settingsPath s.home o) = .missing
  · cases named : o.settingsFile with
    | none =>
      rw [settingsPath, named] at missing
      exact Or.inl ⟨_, .absent named missing⟩
    | some path =>
      rw [settingsPath, named] at missing
      exact Or.inr ⟨_, .missing named missing⟩
  · cases readable : (s.files (settingsPath s.home o)).text with
    | error failure => exact Or.inr ⟨failure, .unreadable missing readable⟩
    | ok source =>
      cases describes : Settings.ofToml s.home source with
      | ok settings => exact Or.inl ⟨settings, .described readable describes⟩
      | error fault => exact Or.inr ⟨_, .undescribed readable describes⟩

/-- Where there is a file, its text is read. -/
theorem load_of_present (present : s.files (settingsPath s.home o) ≠ .missing) :
    load s o = (s.files (settingsPath s.home o)).text.bind fun source =>
      (Settings.ofToml s.home source).mapError .settings := by
  unfold load
  generalize s.files (settingsPath s.home o) = entry at present ⊢
  cases text : entry.text with
  | error failure =>
    cases entry with
    | missing => exact absurd rfl present
    | unreadable | content =>
      dsimp only
      rw [text]
      rfl
  | ok source =>
    cases entry with
    | missing => exact absurd rfl present
    | unreadable | content =>
      dsimp only [bind, Except.bind]
      rw [text]
      dsimp only
      cases Settings.ofToml s.home source <;> rfl

/-- The settings that are given are loaded. -/
theorem Given.load_eq {settings : Settings} (given : Given s o settings) :
    load s o = .ok settings := by
  cases given with
  | absent unnamed missing =>
    have path : settingsPath s.home o = Settings.standardPath s.home := by
      rw [settingsPath, unnamed]
      rfl
    rw [load, path, missing, unnamed]
  | described readable describes =>
    rw [load_of_present (Entry.ne_missing_of_text readable), readable, Except.bind, describes]
    rfl

/-- What is wrong with the file is reported. -/
theorem Refused.load_eq {failure : Failure} (refused : Refused s o failure) :
    load s o = .error failure := by
  cases refused with
  | missing named missing =>
    have path : settingsPath s.home o = _ := congrArg (Option.getD · _) named
    rw [load, path, Option.getD_some, missing, named]
  | unreadable present unreadable =>
    rw [load_of_present present, unreadable]
    rfl
  | undescribed readable undescribed =>
    rw [load_of_present (Entry.ne_missing_of_text readable), readable, Except.bind, undescribed]
    rfl

/-- Loading fails for what is wrong with the file and for nothing else. -/
theorem load_eq_error_iff {failure : Failure} :
    load s o = .error failure ↔ Refused s o failure := by
  refine ⟨?_, Refused.load_eq⟩
  intro failed
  rcases given_or_refused s o with ⟨settings, given⟩ | ⟨failure', refused⟩
  · cases failed.symm.trans given.load_eq
  · cases failed.symm.trans refused.load_eq
    exact refused

/-! ### What the options change -/

/-- What options make of the settings to start from. -/
structure Overridden (o : Options) (base effective : Settings) : Prop where
  arrayPrompt : effective.prompts.arrayPrompt = base.prompts.arrayPrompt
  sqlPrompt : effective.prompts.sqlPrompt = base.prompts.sqlPrompt
  continuationPrompt : effective.prompts.continuationPrompt = base.prompts.continuationPrompt
  history : effective.history = base.history
  timestamps : effective.log.timestamps = base.log.timestamps
  /-- A mode that is asked for is the one to start in. -/
  startMode : effective.prompts.startMode = o.mode.getD base.prompts.startMode
  /-- Colors and highlighting can be switched off. -/
  colorOutput : effective.display.colorOutput = true ↔
    base.display.colorOutput = true ∧ o.noColor = false
  syntaxHighlighting : effective.display.syntaxHighlighting = true ↔
    base.display.syntaxHighlighting = true ∧ o.noHighlight = false
  /-- Of the options about the log the most talkative counts. -/
  trace : o.veryVerbose = true → effective.log.level = .trace
  debug : o.veryVerbose = false → o.verbose = true → effective.log.level = .debug
  error : o.veryVerbose = false → o.verbose = false → o.quiet = true →
    effective.log.level = .error
  level : o.veryVerbose = false → o.verbose = false → o.quiet = false →
    effective.log.level = base.log.level

/-- The options do what they say, and nothing else. -/
theorem overridden_override (o : Options) (base : Settings) :
    Overridden o base (o.override base) where
  arrayPrompt := rfl
  sqlPrompt := rfl
  continuationPrompt := rfl
  history := rfl
  timestamps := rfl
  startMode := rfl
  colorOutput := by simp [Options.override]
  syntaxHighlighting := by simp [Options.override]
  trace veryVerbose := by simp [Options.override, Options.logLevel, veryVerbose]
  debug notVery verbose := by simp [Options.override, Options.logLevel, notVery, verbose]
  error notVery notVerbose quiet := by
    simp [Options.override, Options.logLevel, notVery, notVerbose, quiet]
  level notVery notVerbose notQuiet := by
    simp [Options.override, Options.logLevel, notVery, notVerbose, notQuiet]

/-! ### The settings in force -/

/-- The settings in force are those that are given, or the standard ones, with what the options
change. -/
theorem Given.exists_configure {given : Settings} (isGiven : Given s o given) :
    ∃ warnings, configure s o = .ok ⟨o.override (given.orStandard s.home), warnings⟩ := by
  have opened {α : Type} (next : Settings → Except Failure α) :
      (Except.ok given >>= next) = next given := rfl
  rw [configure, isGiven.load_eq, opened, Settings.orStandard]
  cases given.fault? with
  | none => exact ⟨[], rfl⟩
  | some fault => exact ⟨_, rfl⟩

/-- No settings are in force where none are given. -/
theorem configure_eq_error_iff {failure : Failure} :
    configure s o = .error failure ↔ Refused s o failure := by
  rw [← load_eq_error_iff, configure]
  cases load s o with
  | error failure' =>
    constructor
    · rintro ⟨⟩
      rfl
    · rintro ⟨⟩
      rfl
  | ok loaded =>
    dsimp only [bind, Except.bind]
    cases loaded.fault? <;> exact iff_of_false nofun nofun

/-- A buffer is inspected in the mode that is asked for, or else in the mode to start in. -/
theorem run_check {c : Configuration} (configured : configure s o = .ok c)
    (request : CheckRequest) :
    run s ⟨o, some (.check request)⟩ =
      .ofResult c.warnings ((inputText s request.file).map fun source =>
        .only ((Inspection.ofText (request.mode.getD c.settings.prompts.startMode) source
          request.cursor).report request.json)) := by
  rw [run, configured]
  dsimp only [perform]
  cases inputText s request.file <;> rfl

end CommandLine

open CommandLine in
/-- **The settings in force are usable and follow the documented precedence.**  Settings are given
unless a file is named and missing, the file cannot be read, or its text does not describe
settings, and only then does configuring fail.  Given settings that are at fault in one value give
way to the standard ones in all; the options are applied to what is left, and the result is not at
fault.  A buffer is inspected in the mode that the subcommand asks for, or else in the mode to start
in. -/
theorem configure_follows_precedence (s : Surroundings) (o : Options) :
    ((∃ given, Given s o given) ∨ ∃ failure, Refused s o failure) ∧
      (∀ failure, configure s o = .error failure ↔ Refused s o failure) ∧
      ∀ given, Given s o given → ∃ c, configure s o = .ok c ∧
        c.settings.fault? = none ∧ Overridden o (given.orStandard s.home) c.settings ∧
        ∀ request, run s ⟨o, some (.check request)⟩ =
          .ofResult c.warnings ((inputText s request.file).map fun source =>
            .only ((Inspection.ofText (request.mode.getD c.settings.prompts.startMode) source
              request.cursor).report request.json)) := by
  refine ⟨given_or_refused s o, fun failure => configure_eq_error_iff, ?_⟩
  intro given isGiven
  obtain ⟨warnings, configured⟩ := isGiven.exists_configure
  refine ⟨_, configured, ?_, overridden_override o _, run_check configured⟩
  rw [Options.fault?_override]
  exact given.fault?_orStandard s.home

/-- A settings file with one empty prompt beside a mode and a color that are usable. -/
def fileWithEmptyPrompt : String :=
  "[repl]\nstart_mode = \"sql\"\nsql_prompt = \"\"\n[display]\ncolor_output = false"

open CommandLine in
/-- One empty prompt puts the mode and the color of a file aside with it, but not what the options
say: of two options about the log the more talkative counts. -/
theorem configure_beside_empty_prompt :
    let s : Surroundings :=
      { home := "h".toList
        files := fun path => if path = "c".toList then .content fileWithEmptyPrompt.toByteArray
          else .missing
        input := .missing }
    let o : Options :=
      { Options.none with
        settingsFile := some "c".toList, noHighlight := true, quiet := true, verbose := true }
    let given : Settings :=
      { Settings.standard "h".toList with
        prompts := { PromptSettings.standard with startMode := .sql, sqlPrompt := [] }
        display := ⟨false, true⟩ }
    Given s o given ∧ ∃ c, configure s o = .ok c ∧ c.settings.fault? = none ∧
      c.settings.prompts.startMode = .array ∧ c.settings.display = ⟨true, false⟩ ∧
      c.settings.log.level = .debug := by
  intro s o given
  have readable : (s.files (settingsPath s.home o)).text = .ok fileWithEmptyPrompt.toList :=
    Entry.text_toByteArray fileWithEmptyPrompt
  have described : (Settings.ofToml s.home fileWithEmptyPrompt.toList).toOption = some given := by
    decide +kernel
  have describes : Settings.ofToml s.home fileWithEmptyPrompt.toList = .ok given := by
    cases read : Settings.ofToml s.home fileWithEmptyPrompt.toList with
    | error fault =>
      rw [read] at described
      cases described
    | ok settings =>
      rw [read] at described
      rw [← Option.some.inj described]
  have isGiven : Given s o given := .described readable describes
  have standard : given.orStandard s.home = Settings.standard s.home := rfl
  obtain ⟨c, configured, usable, overridden, -⟩ :=
    (configure_follows_precedence s o).2.2 given isGiven
  rw [standard] at overridden
  have color : c.settings.display.colorOutput = true := overridden.colorOutput.mpr ⟨rfl, rfl⟩
  have highlighting : c.settings.display.syntaxHighlighting = false := by
    rw [← Bool.not_eq_true, overridden.syntaxHighlighting]
    exact fun both => Bool.noConfusion both.2
  refine ⟨isGiven, c, configured, usable, overridden.startMode, ?_, overridden.debug rfl rfl⟩
  rw [← color, ← highlighting]

end StatementShell
