import Mathlib.Data.List.Nodup
import StatementShell.Proofs.TomlDocument
import StatementShell.Settings.Toml

/-!
# Settings written and read back

Settings survive being written to their file, and so does every part of them.  Whatever
keys are deleted from the file, what is left of it describes the settings that have the
standard values for these keys and the written ones for all others.

Two kinds of standard values meet here.  A key that is missing in a table takes a value
where the table is read; a table that is missing altogether is replaced as a whole.  A
table that lost all of its keys may be treated either way, depending on whether its header
is still there, and the result is the same because an empty table is read as the standard
one.

## Main Definitions

* `Toml.Section.without`, `Toml.remaining`: tables from which keys were deleted.
* `Settings.without`: settings with standard values for deleted keys.
* `Settings.layout`: the names of the tables and of the keys in them.

## Main Results

* `Settings.field_without`, `Settings.field_remaining`: what is read where keys and tables are
  missing.
* `Settings.decode_remaining`: what is left of a document describes what is left of the settings.
* `settings_survive_document`: settings are read back, whole or in part.
-/

namespace StatementShell

open Document (Value Entries)

/-! ### Deleting keys -/

namespace Toml

/-- A table without its deleted keys. -/
def Section.without (deleted : Text → Bool) (s : Section) : Section :=
  { s with pairs := s.pairs.filter fun p => !deleted p.1 }

/-- What is left of tables, given which keys of which table are deleted, and whether a table
that has lost all its keys has kept its header. -/
def remaining (deleted : Text → Text → Bool) (headed : Text → Bool)
    (sections : List Section) : List Section :=
  (sections.map fun s => s.without (deleted s.name)).filter fun s =>
    !s.pairs.isEmpty || headed s.name

theorem Section.IsProper.without {s : Section} (proper : s.IsProper) (deleted : Text → Bool) :
    (s.without deleted).IsProper where
  name := proper.name
  keys p member := proper.keys p (List.mem_filter.mp member).1
  distinct := proper.distinct.sublist (List.filter_sublist.map _)

theorem remaining_isProper {sections : List Section} (proper : ∀ s ∈ sections, s.IsProper)
    (deleted : Text → Text → Bool) (headed : Text → Bool) :
    ∀ s ∈ remaining deleted headed sections, s.IsProper := by
  intro s member
  obtain ⟨original, inSections, rfl⟩ := List.mem_map.mp (List.mem_filter.mp member).1
  exact (proper original inSections).without _

theorem nodup_remaining {sections : List Section} (distinct : (sections.map (·.name)).Nodup)
    (deleted : Text → Text → Bool) (headed : Text → Bool) :
    ((remaining deleted headed sections).map (·.name)).Nodup := by
  have names : (sections.map fun s => s.without (deleted s.name)).map (·.name) =
      sections.map (·.name) := by
    rw [List.map_map]
    rfl
  exact (names ▸ distinct).sublist (List.filter_sublist.map _)

/-- Where no key is deleted, all tables are left as they are. -/
theorem remaining_none (headed : Text → Bool) {sections : List Section}
    (nonempty : ∀ s ∈ sections, s.pairs ≠ []) :
    remaining (fun _ _ => false) headed sections = sections := by
  have unchanged : (sections.map fun s => s.without fun _ => false) = sections := by
    simp [Section.without]
  rw [remaining, unchanged, List.filter_eq_self]
  intro s member
  simp [nonempty s member]

end Toml

namespace Settings

open Toml (Section Plain documentEntries remaining)

/-- The value of a key, or the standard one where the key is deleted. -/
def keep {α : Type} (deleted : Text → Text → Bool) (table key : String) (value standard : α) : α :=
  if deleted table.toList key.toList then standard else value

/-- Settings with the standard values for deleted keys, for the given home directory. -/
def without (home : Text) (deleted : Text → Text → Bool) (s : Settings) : Settings where
  prompts := {
    startMode := keep deleted "repl" "start_mode" s.prompts.startMode
      (standard home).prompts.startMode
    arrayPrompt := keep deleted "repl" "array_prompt" s.prompts.arrayPrompt
      (standard home).prompts.arrayPrompt
    sqlPrompt := keep deleted "repl" "sql_prompt" s.prompts.sqlPrompt
      (standard home).prompts.sqlPrompt
    continuationPrompt := keep deleted "repl" "continuation_prompt" s.prompts.continuationPrompt
      (standard home).prompts.continuationPrompt }
  display := {
    colorOutput := keep deleted "display" "color_output" s.display.colorOutput
      (standard home).display.colorOutput
    syntaxHighlighting := keep deleted "display" "syntax_highlighting"
      s.display.syntaxHighlighting (standard home).display.syntaxHighlighting }
  history := {
    maxSize := keep deleted "history" "max_size" s.history.maxSize
      (standard home).history.maxSize
    filePath := keep deleted "history" "file_path" s.history.filePath
      (standard home).history.filePath
    persist := keep deleted "history" "persist" s.history.persist
      (standard home).history.persist }
  log := {
    level := keep deleted "logging" "level" s.log.level (standard home).log.level
    timestamps := keep deleted "logging" "timestamps" s.log.timestamps
      (standard home).log.timestamps }

theorem without_none (home : Text) (s : Settings) : s.without home (fun _ _ => false) = s := rfl

/-! ### Missing keys -/

section Fields

variable {sec : Section} (distinct : (sec.pairs.map (·.1)).Nodup) (deleted : Text → Text → Bool)
  {table key : String}

include distinct

/-- A field of a table without its deleted keys. -/
theorem field_without {α : Type} {p : Plain} (member : (key.toList, p) ∈ sec.pairs)
    {read : Value → Option α} {value : α} (reads : read p.toValue = some value) (standard : α) :
    field (sec.without (deleted table.toList)).entries key standard read =
      some (keep deleted table key value standard) := by
  rw [field, keep]
  by_cases isDeleted : deleted table.toList key.toList = true
  · have absent : key.toList ∉ (sec.without (deleted table.toList)).entries.map (·.1) := by
      simp [Section.entries, Section.without, isDeleted]
    rw [Toml.lookup_eq_none absent, if_pos isDeleted]
  · have kept : (key.toList, p.toValue) ∈ (sec.without (deleted table.toList)).entries :=
      List.mem_map.mpr
        ⟨(key.toList, p), List.mem_filter.mpr ⟨member, by simpa using isDeleted⟩, rfl⟩
    have stillDistinct : ((sec.without (deleted table.toList)).entries.map (·.1)).Nodup := by
      rw [Section.map_fst_entries]
      exact distinct.sublist (List.filter_sublist.map _)
    rw [Toml.lookup_of_mem stillDistinct kept, if_neg isDeleted]
    exact reads

theorem field_text {t : Text} (member : (key.toList, .text t) ∈ sec.pairs) (standard : Text) :
    field (sec.without (deleted table.toList)).entries key standard text? =
      some (keep deleted table key t standard) := by
  have reads : text? (Plain.text t).toValue = some t := rfl
  exact field_without distinct deleted member reads standard

theorem field_boolean {b : Bool} (member : (key.toList, .boolean b) ∈ sec.pairs)
    (standard : Bool) :
    field (sec.without (deleted table.toList)).entries key standard boolean? =
      some (keep deleted table key b standard) := by
  have reads : boolean? (Plain.boolean b).toValue = some b := rfl
  exact field_without distinct deleted member reads standard

theorem field_size {n : UInt64} (member : (key.toList, .natural n.toNat) ∈ sec.pairs)
    (standard : UInt64) :
    field (sec.without (deleted table.toList)).entries key standard size? =
      some (keep deleted table key n standard) := by
  have reads : size? (Plain.natural n.toNat).toValue = some n := by
    have small :
        (if n.toNat < UInt64.size then some (UInt64.ofNat n.toNat) else none) = some n := by
      rw [if_pos n.toNat_lt_size, UInt64.ofNat_toNat]
    exact small
  exact field_without distinct deleted member reads standard

theorem field_name {α : Type} {ofName? : Text → Option α} {t : Text} {value : α}
    (named : ofName? t = some value) (member : (key.toList, .text t) ∈ sec.pairs)
    (standard : α) :
    field (sec.without (deleted table.toList)).entries key standard (name? .toml ofName?) =
      some (keep deleted table key value standard) :=
  field_without distinct deleted member named standard

end Fields

/-- A table without unknown keys is read as it stands. -/
theorem fieldsOf_known {format : Format} {names : List Text} {entries : Entries}
    (known : ∀ entry ∈ entries, entry.1 ∈ names) :
    fieldsOf format names (.table .defined entries) = some entries := by
  have all : ∀ entry ∈ entries, names.contains entry.1 = true :=
    fun entry member => List.contains_iff_mem.mpr (known entry member)
  have none : entries.filter (fun entry => !names.contains entry.1) = [] := by
    rw [List.filter_eq_nil_iff]
    intro entry member
    rw [all entry member]
    decide
  rw [fieldsOf, List.partition_eq_filter_filter]
  simp only [Function.comp_def, none, List.filter_eq_self.mpr all, List.all_nil, if_true]

/-- So is a table from which keys were deleted. -/
theorem fieldsOf_without {format : Format} {sec : Section} {names : List Text}
    (keys : sec.pairs.map (·.1) = names) (deleted : Text → Bool) :
    fieldsOf format names (.table .defined (sec.without deleted).entries) =
      some (sec.without deleted).entries := by
  refine fieldsOf_known fun entry member => ?_
  obtain ⟨p, kept, rfl⟩ := List.mem_map.mp member
  rw [← keys]
  exact List.mem_map.mpr ⟨p, (List.mem_filter.mp kept).1, rfl⟩

/-! ### Missing tables -/

/-- A table is what is left of it, or else nothing is left of it and it is missing. -/
theorem lookup_remaining {sections : List Section} (distinct : (sections.map (·.name)).Nodup)
    {sec : Section} (member : sec ∈ sections) (deleted : Text → Text → Bool)
    (headed : Text → Bool) :
    (documentEntries (remaining deleted headed sections)).lookup sec.name =
        some (.table .defined (sec.without (deleted sec.name)).entries) ∨
      (documentEntries (remaining deleted headed sections)).lookup sec.name = none ∧
        (sec.without (deleted sec.name)).entries = [] := by
  by_cases kept : (!(sec.without (deleted sec.name)).pairs.isEmpty || headed sec.name) = true
  · have found : sec.without (deleted sec.name) ∈ remaining deleted headed sections :=
      List.mem_filter.mpr ⟨List.mem_map.mpr ⟨sec, member, rfl⟩, kept⟩
    exact Or.inl (Toml.lookup_documentEntries (Toml.nodup_remaining distinct deleted headed) found)
  · have absent : sec.name ∉ (remaining deleted headed sections).map (·.name) := by
      intro found
      obtain ⟨other, isLeft, sameName⟩ := List.mem_map.mp found
      obtain ⟨inSections, nonempty⟩ := List.mem_filter.mp isLeft
      obtain ⟨original, originalMember, rfl⟩ := List.mem_map.mp inSections
      obtain rfl : original = sec :=
        List.inj_on_of_nodup_map distinct originalMember member sameName
      exact kept nonempty
    have noPairs : (sec.without (deleted sec.name)).pairs = [] := by
      simp only [Bool.or_eq_true, not_or, Bool.not_eq_true, Bool.not_eq_false',
        List.isEmpty_iff] at kept
      exact kept.1
    rw [← Toml.map_fst_documentEntries] at absent
    exact Or.inr ⟨Toml.lookup_eq_none absent, by rw [Section.entries, noPairs]; rfl⟩

/-- A group whose table may have lost all its keys, and its header. -/
theorem field_remaining {α : Type} {sections : List Section}
    (distinct : (sections.map (·.name)).Nodup) {sec : Section} (member : sec ∈ sections)
    {deleted : Text → Text → Bool} {table : String} (named : sec.name = table.toList)
    {read : Value → Option α} {standard value : α}
    (readsEmpty : read (.table .defined []) = some standard)
    (reads : read (.table .defined (sec.without (deleted table.toList)).entries) = some value)
    (headed : Text → Bool) :
    field (documentEntries (remaining deleted headed sections)) table standard read =
      some value := by
  rw [← named] at reads
  rw [field, ← named]
  rcases lookup_remaining distinct member deleted headed with found | ⟨missing, empty⟩
  · rw [found]
    exact reads
  · -- The table is read as the standard one, as it would be without its keys.
    rw [missing]
    rw [empty, readsEmpty] at reads
    exact reads

/-! ### The tables of a settings file -/

section Tables

variable (s : Settings)

/-- The prompts as a table. -/
def promptsSection : Section :=
  ⟨"repl".toList,
    [("start_mode".toList, .text s.prompts.startMode.name),
     ("array_prompt".toList, .text s.prompts.arrayPrompt),
     ("sql_prompt".toList, .text s.prompts.sqlPrompt),
     ("continuation_prompt".toList, .text s.prompts.continuationPrompt)]⟩

/-- The display as a table. -/
def displaySection : Section :=
  ⟨"display".toList,
    [("color_output".toList, .boolean s.display.colorOutput),
     ("syntax_highlighting".toList, .boolean s.display.syntaxHighlighting)]⟩

/-- The history as a table. -/
def historySection : Section :=
  ⟨"history".toList,
    [("max_size".toList, .natural s.history.maxSize.toNat),
     ("file_path".toList, .text s.history.filePath),
     ("persist".toList, .boolean s.history.persist)]⟩

/-- The log as a table. -/
def logSection : Section :=
  ⟨"logging".toList,
    [("level".toList, .text s.log.level.name),
     ("timestamps".toList, .boolean s.log.timestamps)]⟩

theorem sections_eq :
    s.sections = [s.promptsSection, s.displaySection, s.historySection, s.logSection] := rfl

theorem promptsSection_mem : s.promptsSection ∈ s.sections := by
  rw [sections_eq]
  exact .head _

theorem displaySection_mem : s.displaySection ∈ s.sections := by
  rw [sections_eq]
  exact .tail _ (.head _)

theorem historySection_mem : s.historySection ∈ s.sections := by
  rw [sections_eq]
  exact .tail _ (.tail _ (.head _))

theorem logSection_mem : s.logSection ∈ s.sections := by
  rw [sections_eq]
  exact .tail _ (.tail _ (.tail _ (.head _)))

/-- The names of the tables, with the keys in them. -/
def layout : List (Text × List Text) :=
  [("repl".toList, names ["start_mode", "array_prompt", "sql_prompt", "continuation_prompt"]),
   ("display".toList, names ["color_output", "syntax_highlighting"]),
   ("history".toList, names ["max_size", "file_path", "persist"]),
   ("logging".toList, names ["level", "timestamps"])]

theorem layout_sections :
    s.sections.map (fun sec => (sec.name, sec.pairs.map (·.1))) = layout := rfl

theorem sections_isProper : ∀ sec ∈ s.sections, sec.IsProper := by
  have proper : ∀ table ∈ layout,
      Toml.IsBare table.1 ∧ (∀ key ∈ table.2, Toml.IsBare key) ∧ table.2.Nodup := by
    decide
  intro sec member
  have listed : (sec.name, sec.pairs.map (·.1)) ∈ layout := by
    rw [← layout_sections s]
    exact List.mem_map.mpr ⟨sec, member, rfl⟩
  obtain ⟨bareName, bareKeys, distinct⟩ := proper _ listed
  exact ⟨bareName, fun p isPair => bareKeys p.1 (List.mem_map.mpr ⟨p, isPair, rfl⟩), distinct⟩

theorem nodup_sections : (s.sections.map (·.name)).Nodup := by
  have names : s.sections.map (·.name) = layout.map (·.1) := rfl
  rw [names]
  decide

end Tables

/-! ### The groups -/

section Groups

variable (home : Text) (deleted : Text → Text → Bool) (s : Settings)

theorem decodePrompts_without :
    decodePrompts .toml
        (.table .defined (s.promptsSection.without (deleted "repl".toList)).entries) =
      some (s.without home deleted).prompts := by
  have distinct := (sections_isProper s _ s.promptsSection_mem).distinct
  have keys : s.promptsSection.pairs.map (·.1) =
      names ["start_mode", "array_prompt", "sql_prompt", "continuation_prompt"] := rfl
  rw [decodePrompts, fieldsOf_without keys]
  simp only [Option.bind_eq_bind, Option.bind_some]
  rw [field_name distinct deleted (Mode.ofName?_name s.prompts.startMode) (.head _),
    field_text distinct deleted (.tail _ (.head _)),
    field_text distinct deleted (.tail _ (.tail _ (.head _))),
    field_text distinct deleted (.tail _ (.tail _ (.tail _ (.head _))))]
  rfl

theorem decodeDisplay_without :
    decodeDisplay .toml
        (.table .defined (s.displaySection.without (deleted "display".toList)).entries) =
      some (s.without home deleted).display := by
  have distinct := (sections_isProper s _ s.displaySection_mem).distinct
  have keys : s.displaySection.pairs.map (·.1) =
      names ["color_output", "syntax_highlighting"] := rfl
  rw [decodeDisplay, fieldsOf_without keys]
  simp only [Option.bind_eq_bind, Option.bind_some]
  rw [field_boolean distinct deleted (.head _), field_boolean distinct deleted (.tail _ (.head _))]
  rfl

theorem decodeHistory_without :
    decodeHistory .toml home
        (.table .defined (s.historySection.without (deleted "history".toList)).entries) =
      some (s.without home deleted).history := by
  have distinct := (sections_isProper s _ s.historySection_mem).distinct
  have keys : s.historySection.pairs.map (·.1) =
      names ["max_size", "file_path", "persist"] := rfl
  rw [decodeHistory, fieldsOf_without keys]
  simp only [Option.bind_eq_bind, Option.bind_some]
  rw [field_size distinct deleted (.head _), field_text distinct deleted (.tail _ (.head _)),
    field_boolean distinct deleted (.tail _ (.tail _ (.head _)))]
  rfl

theorem decodeLog_without :
    decodeLog .toml (.table .defined (s.logSection.without (deleted "logging".toList)).entries) =
      some (s.without home deleted).log := by
  have distinct := (sections_isProper s _ s.logSection_mem).distinct
  have keys : s.logSection.pairs.map (·.1) =
      names ["level", "timestamps"] := rfl
  rw [decodeLog, fieldsOf_without keys]
  simp only [Option.bind_eq_bind, Option.bind_some]
  rw [field_name distinct deleted (LogLevel.ofName?_name s.log.level) (.head _),
    field_boolean distinct deleted (.tail _ (.head _))]
  rfl

/-- What is left of a settings file describes what is left of the settings. -/
theorem decode_remaining (headed : Text → Bool) :
    decode .toml home (.table .defined (documentEntries (remaining deleted headed s.sections))) =
      some (s.without home deleted) := by
  have distinct := nodup_sections s
  have known : ∀ entry ∈ documentEntries (remaining deleted headed s.sections),
      entry.1 ∈ names ["repl", "display", "history", "logging"] := by
    intro entry member
    obtain ⟨sec, isLeft, rfl⟩ := List.mem_map.mp member
    obtain ⟨original, inSections, rfl⟩ := List.mem_map.mp (List.mem_filter.mp isLeft).1
    have named : s.sections.map (·.name) = names ["repl", "display", "history", "logging"] := rfl
    rw [← named]
    exact List.mem_map.mpr ⟨original, inSections, rfl⟩
  rw [decode, fieldsOf_known known]
  simp only [Option.bind_eq_bind, Option.bind_some]
  have noPrompts : decodePrompts .toml (.table .defined []) = some (standard home).prompts := rfl
  have noDisplay : decodeDisplay .toml (.table .defined []) = some (standard home).display := rfl
  have noHistory : decodeHistory .toml home (.table .defined []) =
      some (standard home).history := rfl
  have noLog : decodeLog .toml (.table .defined []) = some (standard home).log := rfl
  rw [field_remaining distinct s.promptsSection_mem rfl noPrompts
      (decodePrompts_without home deleted s),
    field_remaining distinct s.displaySection_mem rfl noDisplay
      (decodeDisplay_without home deleted s),
    field_remaining distinct s.historySection_mem rfl noHistory
      (decodeHistory_without home deleted s),
    field_remaining distinct s.logSection_mem rfl noLog (decodeLog_without home deleted s)]
  rfl

/-- What is left of the lines of a settings file is read as what is left of the settings. -/
theorem ofToml_remaining (headed : Text → Bool) {lines : List Toml.Line}
    (same : lines.filter (· ≠ .blank) =
      (remaining deleted headed s.sections).flatMap Section.lines) :
    ofToml home (Toml.writeLines lines) = .ok (s.without home deleted) := by
  have read := Toml.readDocument_writeLines same
    (Toml.remaining_isProper (sections_isProper s) deleted headed)
    (Toml.nodup_remaining (nodup_sections s) deleted headed)
  have described : ofToml? home (Toml.writeLines lines) = some (s.without home deleted) := by
    rw [ofToml?, read]
    exact decode_remaining home deleted s headed
  rw [ofToml, described]

end Groups

end Settings

/-- **Settings are read back as they were written, whole or in part.**  The document of settings
describes them.  It is written line by line, and after some of the keys are deleted, with or
without the headers of the tables that lose all of theirs, and with whatever blank lines, what is
left describes the settings with the standard values for these keys. -/
theorem settings_survive_document (home : Text) (s : Settings) :
    Settings.ofToml home s.toToml = .ok s ∧
      s.toToml = Toml.writeLines (Toml.documentLines s.sections) ∧
      ∀ (deleted : Text → Text → Bool) (headed : Text → Bool) (lines : List Toml.Line),
        lines.filter (· ≠ .blank) =
            (Toml.remaining deleted headed s.sections).flatMap Toml.Section.lines →
          Settings.ofToml home (Toml.writeLines lines) = .ok (s.without home deleted) := by
  have written : s.toToml = Toml.writeLines (Toml.documentLines s.sections) :=
    Toml.writeSections_eq s.sections
  have nonempty : ∀ sec ∈ s.sections, sec.pairs ≠ [] := by
    simp [Settings.sections]
  have whole : (Toml.documentLines s.sections).filter (· ≠ .blank) =
      (Toml.remaining (fun _ _ => false) (fun _ => true) s.sections).flatMap
        Toml.Section.lines := by
    rw [Toml.remaining_none _ nonempty]
    exact Toml.filter_documentLines s.sections
  refine ⟨?_, written, fun deleted headed lines same => s.ofToml_remaining home deleted headed same⟩
  rw [written, s.ofToml_remaining home _ _ whole, Settings.without_none]

/-- A file in which two of the eleven keys are left, one table has only its header and another
is missing: the prompt with a control character and three quotes is the one that was written, and
so is the largest possible size. -/
theorem partial_document_of_quotes_and_controls :
    Settings.ofToml "/home/q".toList
        ("[repl]\narray_prompt = \"\"\"\n'\\u0001\n\"\"\\\"\"\"\"\n\n[display]\n\n".toList ++
          "[history]\nmax_size = 18446744073709551615\n".toList) =
      .ok {
        prompts := ⟨.array, "'\x01\n\"\"\"".toList, "sql) ".toList, "... ".toList⟩
        display := ⟨true, true⟩
        history := ⟨18446744073709551615, "/home/q/.arrsh_history".toList, true⟩
        log := ⟨.warn, false⟩ } := by
  let s : Settings := {
    prompts := ⟨.sql, "'\x01\n\"\"\"".toList, "'".toList, "\\".toList⟩
    display := ⟨false, false⟩
    history := ⟨18446744073709551615, "\n'\"".toList, false⟩
    log := ⟨.trace, true⟩ }
  let deleted (_ key : Text) : Bool := key ≠ "array_prompt".toList && key ≠ "max_size".toList
  let headed (table : Text) : Bool := table = "display".toList
  let lines : List Toml.Line :=
    [.header "repl".toList, .pair "array_prompt".toList (.text s.prompts.arrayPrompt), .blank,
      .header "display".toList, .blank,
      .header "history".toList, .pair "max_size".toList (.natural 18446744073709551615)]
  have same : lines.filter (· ≠ .blank) =
      (Toml.remaining deleted headed s.sections).flatMap Toml.Section.lines := by decide
  have read := (settings_survive_document "/home/q".toList s).2.2 deleted headed lines same
  refine (congrArg (Settings.ofToml "/home/q".toList) ?_).trans read
  decide

end StatementShell
