import Mathlib.Tactic.TFAE
import StatementShell.Console
import StatementShell.Proofs.Concatenation
import StatementShell.Proofs.Painting

/-!
# Where system commands are found

No part of the shell tells another that a buffer is a system command.  The rules of
both modes ask it of the lines before they look at the cursor, the dispatch asks it of
the lines and then reads the command from the buffer itself, the painter asks it before
it turns to a language, and a script asks it of every line collected.  This module shows
that all of them mean the same, a buffer of one line that starts with the mark, and that
nothing else looks like a command to any of them: there is a place of the cursor at which
any other buffer is held back, and no character of a language is painted as a command is.

The rules place the cursor with the arithmetic of machine words, each in its own way.
The two ways differ for the greatest word only, and there only on a buffer of as many
lines.

## Main Definitions

* `SpellsCommand`: a buffer that is a system command.
* `Action.OfCommand`: the actions of system commands.
* `Mode.onLastLine`, `Mode.acceptsWord`: the rules with a machine word for the cursor.
* `HandledAs`, `ObeyedAs`: what becomes of a command, at the prompt and in a script.

## Main Results

* `spellsCommand_iff_isSystemCommand`, `ofCommand_dispatch_iff`, `accepts_everywhere_iff`,
  `acceptsWord_everywhere_iff`, `highlight_magenta_iff`: what each part finds.
* `Runner.runLines_command`, `Segmented.append_command`: commands in scripts.
* `command_detectors_agree`: all parts agree, on buffers and in scripts.
-/

namespace StatementShell

variable {σ : Type}

/-- A buffer of one line that starts with the mark. -/
def SpellsCommand (buffer : Text) : Prop :=
  '\n' ∉ buffer ∧ buffer.head? = some Lexis.systemCommandMark

instance (buffer : Text) : Decidable (SpellsCommand buffer) :=
  inferInstanceAs (Decidable (_ ∧ _))

/-- The lines of a buffer are a single command where the buffer is one. -/
theorem spellsCommand_iff_isSystemCommand {buffer : Text} :
    SpellsCommand buffer ↔ isSystemCommand buffer.bufferLines = true := by
  constructor
  · rintro ⟨oneLine, marked⟩
    rw [Text.bufferLines_of_not_mem oneLine]
    exact beq_iff_eq.mpr marked
  · intro isCommand
    by_contra spellsNot
    rw [SpellsCommand, not_and_or, not_not] at spellsNot
    rw [isSystemCommand_bufferLines spellsNot] at isCommand
    exact Bool.noConfusion isCommand

/-- A command is not blank. -/
theorem SpellsCommand.nonblank {buffer : Text} (spells : SpellsCommand buffer) :
    buffer.isBlank = false := by
  obtain ⟨rest, rfl⟩ := List.head?_eq_some_iff.mp spells.2
  rfl

/-! ### The dispatch -/

/-- The actions of system commands. -/
def Action.OfCommand : Action → Prop
  | switchMode _ | message _ | unknown _ | exit => True
  | evaluate _ | ignore => False

theorem Command.ofCommand_action (command : Command) (m : Mode) :
    (command.action m).OfCommand := by
  cases command <;> trivial

/-- Only the command that shows the mode depends on it. -/
theorem Command.action_eq {command : Command} (other : command ≠ .showMode) (m m' : Mode) :
    command.action m = command.action m' := by
  cases command with
  | showMode => exact absurd rfl other
  | _ => rfl

/-- A buffer that is a command is dispatched as the command it spells. -/
theorem SpellsCommand.dispatch_eq {buffer : Text} (spells : SpellsCommand buffer) :
    ∃ command, Command.parse buffer = some command ∧
      ∀ m, dispatch m buffer = command.action m := by
  obtain ⟨command, parsed⟩ := Option.isSome_iff_exists.mp
    ((Command.isSome_parse_iff buffer).mpr spells.2)
  have found : Command.ofBuffer? buffer = some command := by
    rw [Command.ofBuffer?, if_pos (spellsCommand_iff_isSystemCommand.mp spells), parsed]
  refine ⟨command, parsed, ?_⟩
  intro m
  rw [dispatch, spells.nonblank, found]
  rfl

/-- Any other buffer is ignored where it is blank, and evaluated as it stands. -/
theorem dispatch_of_not_spellsCommand {buffer : Text} (spellsNot : ¬ SpellsCommand buffer)
    (m : Mode) : dispatch m buffer = if buffer.isBlank then .ignore else .evaluate buffer := by
  have noCommand : Command.ofBuffer? buffer = none :=
    if_neg (mt spellsCommand_iff_isSystemCommand.mpr spellsNot)
  rw [dispatch, noCommand]

theorem ofCommand_dispatch_iff {m : Mode} {buffer : Text} :
    (dispatch m buffer).OfCommand ↔ SpellsCommand buffer := by
  constructor
  · intro ofCommand
    by_contra spellsNot
    rw [dispatch_of_not_spellsCommand spellsNot] at ofCommand
    split at ofCommand <;> exact ofCommand
  · intro spells
    obtain ⟨command, -, dispatched⟩ := spells.dispatch_eq
    rw [dispatched]
    exact command.ofCommand_action m

/-! ### The completion rules -/

namespace Mode

/-- Whether the cursor is on the last of a number of lines, told with machine words.  The
array language takes one from the number of lines, unless there is none; the SQL dialect
adds one to the cursor and stops at the greatest word. -/
def onLastLine (lines : Nat) (cursor : UInt64) : Mode → Bool
  | array => (if lines = 0 then none else some (lines - 1)) == some cursor.toNat
  | sql => min (cursor.toNat + 1) (UInt64.size - 1) == lines

/-- Whether Enter submits the lines, with a machine word for the cursor. -/
def acceptsWord (m : Mode) (lines : List Text) (cursor : UInt64) : Bool :=
  isSystemCommand lines || (m.onLastLine lines.length cursor && m.acceptsLines lines)

/-- Both ways ask whether the cursor is on the last line, for all but the greatest word and
as many lines. -/
theorem onLastLine_eq (m : Mode) {lines : Nat} {cursor : UInt64}
    (inRange : lines + 1 < UInt64.size ∨ cursor.toNat + 1 < UInt64.size) :
    m.onLastLine lines cursor = (cursor.toNat + 1 == lines) := by
  have word : cursor.toNat < UInt64.size := cursor.toNat_lt_size
  rw [Bool.eq_iff_iff, beq_iff_eq]
  cases m with
  | array =>
    rw [onLastLine, beq_iff_eq]
    split
    · case isTrue none =>
      simp [none]
    · case isFalse some =>
      rw [Option.some.injEq]
      omega
  | sql =>
    rw [onLastLine, beq_iff_eq]
    omega

/-- For buffers of any size that a machine holds, the cursor may be read as a number. -/
theorem acceptsWord_eq (m : Mode) {lines : List Text} {cursor : UInt64}
    (inRange : lines.length + 1 < UInt64.size ∨ cursor.toNat + 1 < UInt64.size) :
    m.acceptsWord lines cursor = m.accepts lines cursor.toNat := by
  rw [acceptsWord, m.onLastLine_eq inRange, accepts]

/-- Lines that are no command are held back with the cursor at some place. -/
theorem exists_held_back (m : Mode) {lines : List Text}
    (noCommand : isSystemCommand lines = false) :
    ∃ cursor : UInt64,
      m.accepts lines cursor.toNat = false ∧ m.acceptsWord lines cursor = false := by
  -- The cursor is on the first line, or below it where there is no other.
  have elsewhere : ∃ cursor : UInt64, cursor.toNat + 1 < UInt64.size ∧
      cursor.toNat + 1 ≠ lines.length := by
    by_cases single : lines.length = 1
    · refine ⟨1, by decide, ?_⟩
      rw [single]
      decide
    · exact ⟨0, by decide, Ne.symm single⟩
  obtain ⟨cursor, below, notLast⟩ := elsewhere
  have heldBack : m.accepts lines cursor.toNat = false := by
    rw [accepts, noCommand, beq_false_of_ne notLast]
    rfl
  refine ⟨cursor, heldBack, ?_⟩
  rw [m.acceptsWord_eq (Or.inr below), heldBack]

end Mode

theorem accepts_everywhere_iff {m : Mode} {buffer : Text} :
    (∀ cursor : UInt64, m.accepts buffer.bufferLines cursor.toNat = true) ↔
      SpellsCommand buffer := by
  rw [spellsCommand_iff_isSystemCommand]
  constructor
  · intro everywhere
    by_contra noCommand
    obtain ⟨cursor, heldBack, -⟩ := m.exists_held_back (Bool.eq_false_iff.mpr noCommand)
    exact Bool.false_ne_true (heldBack.symm.trans (everywhere cursor))
  · intro isCommand cursor
    exact m.accepts_of_isSystemCommand cursor.toNat isCommand

theorem acceptsWord_everywhere_iff {m : Mode} {buffer : Text} :
    (∀ cursor : UInt64, m.acceptsWord buffer.bufferLines cursor = true) ↔
      SpellsCommand buffer := by
  rw [spellsCommand_iff_isSystemCommand]
  constructor
  · intro everywhere
    by_contra noCommand
    obtain ⟨cursor, -, heldBack⟩ := m.exists_held_back (Bool.eq_false_iff.mpr noCommand)
    exact Bool.false_ne_true (heldBack.symm.trans (everywhere cursor))
  · intro isCommand cursor
    rw [Mode.acceptsWord, isCommand, Bool.true_or]

/-! ### The painter -/

namespace Highlight

theorem arrayStyle_ne_magenta (place : Context) (c : Char) (mismatched : Bool) :
    arrayStyle place c mismatched ≠ .boldly .magenta := by
  unfold arrayStyle
  repeat' split
  all_goals decide

/-- No character of the array language is painted as a command is. -/
theorem paintFrom_ne_magenta (s : Scanner) (t : Text) :
    ∀ painted ∈ paintFrom s t, painted.1 ≠ .boldly .magenta := by
  induction t generalizing s with
  | nil => exact List.forall_mem_nil _
  | cons c t ih =>
    rw [paintFrom, List.forall_mem_cons]
    exact ⟨arrayStyle_ne_magenta _ c _, ih _⟩

/-- No token of the SQL dialect is painted as a command is. -/
theorem SqlToken.style_ne_magenta (token : SqlToken) : token.style ≠ .boldly .magenta := by
  cases token with
  | literal =>
    show Style.colored .yellow ≠ .boldly .magenta
    decide
  | comment =>
    show Style.dimly .darkGray ≠ .boldly .magenta
    decide
  | word t =>
    unfold style wordStyle
    dsimp only
    repeat' split
    all_goals decide
  | mark c =>
    unfold style markStyle
    dsimp only
    repeat' split
    all_goals decide

end Highlight

/-- A segment has the style of one of its characters. -/
theorem Merged.exists_char {segments : List Segment} {chars : List (Style × Char)}
    (merged : Merged segments chars) {segment : Segment} (member : segment ∈ segments) :
    ∃ c, (segment.style, c) ∈ chars := by
  obtain ⟨c, within⟩ := List.exists_mem_of_ne_nil _ (merged.nonempty segment member)
  refine ⟨c, ?_⟩
  rw [← merged.chars_eq]
  exact List.mem_flatMap.mpr ⟨segment, member, List.mem_map_of_mem within⟩

/-- No segment of any other buffer is painted as a command is. -/
theorem highlight_ne_magenta {buffer : Text} (spellsNot : ¬ SpellsCommand buffer) (m : Mode) :
    ∀ segment ∈ highlight m true buffer, segment.style ≠ .boldly .magenta := by
  have noCommand := mt spellsCommand_iff_isSystemCommand.mpr spellsNot
  intro segment member
  cases m with
  | array =>
    rw [highlight_array noCommand] at member
    obtain ⟨c, within⟩ := (merged_ofChars _).exists_char member
    exact Highlight.paintFrom_ne_magenta .fresh buffer _ within
  | sql =>
    rw [highlight_sql noCommand] at member
    obtain ⟨token, -, rfl⟩ := List.mem_map.mp member
    exact token.style_ne_magenta

theorem SpellsCommand.highlight_eq {buffer : Text} (spells : SpellsCommand buffer) (m : Mode) :
    highlight m true buffer = [⟨.boldly .magenta, buffer⟩] :=
  if_pos (spellsCommand_iff_isSystemCommand.mp spells)

theorem highlight_magenta_iff {m : Mode} {buffer : Text} :
    (∃ text, highlight m true buffer = [⟨.boldly .magenta, text⟩]) ↔ SpellsCommand buffer := by
  constructor
  · rintro ⟨text, shown⟩
    by_contra spellsNot
    have member : ⟨.boldly .magenta, text⟩ ∈ highlight m true buffer := by
      rw [shown]
      exact List.mem_singleton_self _
    exact highlight_ne_magenta spellsNot m _ member rfl
  · intro spells
    exact ⟨buffer, spells.highlight_eq m⟩

/-! ### What becomes of a command -/

/-- A buffer is handled as a command: accepted wherever the cursor was last seen, routed in
every mode alike but for the mode it may show, and kept from the evaluator, at the console
and in scripts. -/
structure HandledAs (buffer : Text) (command : Command) : Prop where
  accepted : ∀ s : Session, s.validate buffer = true
  routed : ∀ m, dispatch m buffer = command.action m
  routedAlike : command ≠ .showMode → ∀ m m', dispatch m buffer = dispatch m' buffer
  showsMode : command = .showMode →
    ∀ m, dispatch m buffer = .message ("mode: ".toList ++ m.name)
  keptAtConsole : ∀ {σ : Type} (E : Evaluator σ) (c : Console σ),
    (c.submit E buffer).evaluator = c.evaluator
  keptInScript : ∀ {σ : Type} (E : Evaluator σ) (r : Runner σ) (start : Nat) (done : Produced),
    (r.submit E start done buffer).1.evaluator = r.evaluator

theorem Console.evaluator_submit_of_ofCommand (E : Evaluator σ) (c : Console σ) {text : Text}
    (ofCommand : (dispatch c.session.mode text).OfCommand) :
    (c.submit E text).evaluator = c.evaluator := by
  unfold submit Session.process
  cases action : dispatch c.session.mode text with
  | evaluate =>
    rw [action] at ofCommand
    exact ofCommand.elim
  | _ => rfl

theorem Runner.evaluator_submit_of_ofCommand (E : Evaluator σ) (r : Runner σ) (start : Nat)
    (done : Produced) {text : Text} (ofCommand : (dispatch r.mode text).OfCommand) :
    (r.submit E start done text).1.evaluator = r.evaluator := by
  unfold submit
  cases action : dispatch r.mode text with
  | evaluate =>
    rw [action] at ofCommand
    exact ofCommand.elim
  | _ => rfl

/-- A buffer that is a command is handled as the command it spells. -/
theorem SpellsCommand.exists_handledAs {buffer : Text} (spells : SpellsCommand buffer) :
    ∃ command, Command.parse buffer = some command ∧ HandledAs buffer command := by
  obtain ⟨command, parsed, routed⟩ := spells.dispatch_eq
  have ofCommand (m : Mode) : (dispatch m buffer).OfCommand := ofCommand_dispatch_iff.mpr spells
  refine ⟨command, parsed, ?_, routed, ?_, ?_, ?_, ?_⟩
  · intro s
    exact s.mode.accepts_of_isSystemCommand _ (spellsCommand_iff_isSystemCommand.mp spells)
  · intro other m m'
    rw [routed, routed, command.action_eq other m m']
  · rintro rfl m
    exact routed m
  · intro σ E c
    exact c.evaluator_submit_of_ofCommand E (ofCommand c.session.mode)
  · intro σ E r start done
    exact r.evaluator_submit_of_ofCommand E start done (ofCommand r.mode)

/-! ### Scripts -/

/-- How a script goes on after a command on the line of a number. -/
def Runner.obey (E : Evaluator σ) (r : Runner σ) (k : Nat) (done : Produced)
    (rest : List Text) : Command → Runner σ × Except Failure Report
  | .switchMode mode => Runner.runLines E ⟨mode, r.evaluator⟩ (k + 1) .empty done rest
  | .showMode =>
    let shown := "mode: ".toList ++ r.mode.name
    r.runLines E (k + 1) .empty ⟨done.statements, done.outputs ++ [shown]⟩ rest
  | .help =>
    r.runLines E (k + 1) .empty ⟨done.statements, done.outputs ++ [Command.helpText]⟩ rest
  | .exit => (r, .ok (r.report done true))
  | .unknown _ => r.runLines E (k + 1) .empty done rest

/-- A line of a script is a run of its own and obeyed as a command, by a runner that has
collected no line and after lines that leave no statement open. -/
structure ObeyedAs (line : Text) (command : Command) (rest : List Text) : Prop where
  obeyed : ∀ {σ : Type} (E : Evaluator σ) (r : Runner σ) (k : Nat) (opened : Collected)
    (done : Produced), opened.lines = [] →
    r.runLines E k opened done (line :: rest) = r.obey E k done rest command
  alone : ∀ {m mid : Mode} {k : Nat} {before : List Text} {subs : List Submission},
    Segmented m k before subs mid .finished →
    ∃ later final ending, Segmented m k (before ++ line :: rest)
      (subs ++ ⟨k + before.length, mid, [line]⟩ :: later) final ending

/-- A line that is a command is obeyed by itself while no line is collected. -/
theorem Runner.runLines_command {line : Text} (spells : SpellsCommand line) {command : Command}
    {r : Runner σ} (routed : dispatch r.mode line = command.action r.mode) (E : Evaluator σ)
    (k : Nat) {opened : Collected} (nothingOpen : opened.lines = []) (done : Produced)
    (rest : List Text) :
    r.runLines E k opened done (line :: rest) = r.obey E k done rest command := by
  have accepted : r.mode.accepts (opened.lines ++ [line]) opened.lines.length = true := by
    rw [nothingOpen]
    exact r.mode.accepts_of_isSystemCommand 0 (beq_iff_eq.mpr spells.2)
  have alone : Text.join (opened.lines ++ [line]) = line := by
    rw [nothingOpen]
    rfl
  rw [runLines_collect (fun _ => spells.nonblank), if_pos accepted, alone, submit, routed]
  cases command <;> rfl

/-- A line that is a command is the first run of the lines it begins. -/
theorem exists_segmented_command {line : Text} (spells : SpellsCommand line) (m : Mode) (k : Nat)
    (rest : List Text) :
    ∃ later final ending, Segmented m k (line :: rest) (⟨k, m, [line]⟩ :: later) final ending := by
  have accepted : m.AcceptsRun [line] :=
    Mode.acceptsRun_iff.mpr ⟨List.cons_ne_nil _ _, Or.inl (beq_iff_eq.mpr spells.2)⟩
  have shortest : Shortest m.AcceptsRun [line] := by
    refine ⟨accepted, ?_⟩
    intro front within acceptsFront
    cases front with
    | nil => exact absurd rfl acceptsFront.1
    | cons first front =>
      obtain ⟨rfl, nothing⟩ := List.cons_prefix_cons.mp within
      rw [List.prefix_nil.mp nothing]
  by_cases leaves : (Submission.mk k m [line]).action = .exit
  · exact ⟨[], m, .exited, .exit rfl spells.nonblank shortest leaves⟩
  · obtain ⟨later, final, ending, onward⟩ :=
      exists_segmented (Submission.mk k m [line]).modeAfter (k + 1) rest
    exact ⟨later, final, ending, .submit rfl spells.nonblank shortest leaves onward⟩

/-- After lines that leave no statement open, a line that is a command is submitted alone. -/
theorem Segmented.append_command {m mid : Mode} {k : Nat} {lines : List Text}
    {subs : List Submission} (segmented : Segmented m k lines subs mid .finished) {line : Text}
    (spells : SpellsCommand line) (rest : List Text) :
    ∃ later final ending, Segmented m k (lines ++ line :: rest)
      (subs ++ ⟨k + lines.length, mid, [line]⟩ :: later) final ending := by
  obtain ⟨onward, final, ending, whole, fromThere, -⟩ := segmented.append (line :: rest)
  obtain ⟨later, final', ending', commandFirst⟩ :=
    exists_segmented_command spells mid (k + lines.length) rest
  obtain ⟨rfl, -, -⟩ := commandFirst.unique (fromThere rfl)
  exact ⟨later, final, ending, whole⟩

/-! ### Agreement -/

/-- **All parts of the shell find the same system commands.**  In either mode, a buffer is
one line that starts with the mark exactly when it is dispatched as a command, when the
rule accepts it wherever the cursor is, and when it is painted as one bold magenta
segment.  Then every part handles it as the command it spells; otherwise it is ignored or
evaluated as it stands.  A line of a script that starts with the mark, while no statement
is open, is obeyed by itself as a command. -/
theorem command_detectors_agree (buffer : Text) :
    (∀ m : Mode, List.TFAE [
      SpellsCommand buffer,
      (dispatch m buffer).OfCommand,
      ∀ cursor : UInt64, m.accepts buffer.bufferLines cursor.toNat = true,
      ∀ cursor : UInt64, m.acceptsWord buffer.bufferLines cursor = true,
      ∃ text, highlight m true buffer = [⟨.boldly .magenta, text⟩]]) ∧
    (SpellsCommand buffer → ∃ command, Command.parse buffer = some command ∧
      HandledAs buffer command) ∧
    (¬ SpellsCommand buffer → ∀ m, dispatch m buffer =
      if buffer.isBlank then .ignore else .evaluate buffer) ∧
    ∀ (source : Text) (before : List Text) (line : Text) (rest : List Text),
      source.lines = before ++ line :: rest → line.head? = some Lexis.systemCommandMark →
      ∃ command, Command.parse line = some command ∧ ObeyedAs line command rest := by
  refine ⟨?_, SpellsCommand.exists_handledAs, dispatch_of_not_spellsCommand, ?_⟩
  · intro m
    tfae_have 1 ↔ 2 := ofCommand_dispatch_iff.symm
    tfae_have 1 ↔ 3 := accepts_everywhere_iff.symm
    tfae_have 1 ↔ 4 := acceptsWord_everywhere_iff.symm
    tfae_have 1 ↔ 5 := highlight_magenta_iff.symm
    tfae_finish
  · intro source before line rest split marked
    have oneLine : '\n' ∉ line := by
      refine Text.newlineFree_lines source line ?_
      rw [split]
      exact List.mem_append_right _ List.mem_cons_self
    have spells : SpellsCommand line := ⟨oneLine, marked⟩
    obtain ⟨command, parsed, routed⟩ := spells.dispatch_eq
    refine ⟨command, parsed, ?_, ?_⟩
    · intro σ E r k opened done nothingOpen
      exact Runner.runLines_command spells (routed r.mode) E k nothingOpen done rest
    · intro m mid k before subs segmented
      exact segmented.append_command spells rest

/-- A command in capitals with more words after it, a line that does not start with the
mark, and a command that ends a script. -/
theorem command_detectors_agree_on_switch_and_exit :
    HandledAs ")SQL, please".toList (.unknown "SQL, please".toList) ∧
      HandledAs ")SQL please".toList (.switchMode .sql) ∧
      dispatch .array " )sql".toList = .evaluate " )sql".toList ∧
      ObeyedAs ")exit".toList .exit [['2']] := by
  have handled {buffer : Text} {command : Command} (spells : SpellsCommand buffer)
      (parsed : Command.parse buffer = some command) : HandledAs buffer command := by
    obtain ⟨command', parsed', handled⟩ := (command_detectors_agree buffer).2.1 spells
    obtain rfl : command = command' := Option.some.inj (parsed.symm.trans parsed')
    exact handled
  have spellsNot : ¬ SpellsCommand " )sql".toList := by decide
  refine ⟨handled (by decide) (by decide), handled (by decide) (by decide),
    (command_detectors_agree _).2.2.1 spellsNot .array, ?_⟩
  obtain ⟨command, parsed, obeyed⟩ := (command_detectors_agree []).2.2.2
    "1\n)exit\n2".toList [['1']] ")exit".toList [['2']] rfl rfl
  obtain rfl : Command.exit = command := Option.some.inj parsed
  exact obeyed

end StatementShell
