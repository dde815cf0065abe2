import StatementShell.Action
import StatementShell.Completion
import StatementShell.Evaluator

/-!
# Running a script

A script is fed to the completion rules line by line, as if it were typed at
the prompt: blank lines between statements are skipped, the lines collected are
submitted as soon as the rule of the active mode accepts them, system commands
take effect for the next line, and input that is still open at the end is a
failure.

## Main Definitions

* `Runner`: what lives on from one script to the next.
* `Report`: what a script did.
* `Collected`: the lines of the statement being collected.
* `Runner.run`: the run of a script.
-/

namespace StatementShell

/-- What a runner carries from one script to the next. -/
structure Runner (σ : Type) where
  /-- The active mode. -/
  mode : Mode
  /-- The state of the evaluator. -/
  evaluator : σ

/-- What a script did. -/
structure Report where
  /-- The number of statements the evaluator answered. -/
  statements : Nat
  /-- The answers of the evaluator and the messages of system commands, in
  order. -/
  outputs : List Text
  /-- The mode active at the end. -/
  finalMode : Mode
  /-- Whether an exit command ended the script. -/
  exited : Bool
  deriving DecidableEq, Repr

/-- The lines of a statement that is being collected. -/
structure Collected where
  /-- The line on which the statement starts. -/
  start : Nat
  /-- Its lines so far, in order. -/
  lines : List Text
  deriving DecidableEq, Repr

namespace Collected

/-- No line collected yet. -/
def empty : Collected := ⟨0, []⟩

/-- One more line, the one of the given number.  The first line collected gives
the statement its number. -/
def add (c : Collected) (number : Nat) (line : Text) : Collected :=
  ⟨if c.lines.isEmpty then number else c.start, c.lines ++ [line]⟩

end Collected

/-! ### One submission -/

/-- What a run has produced so far. -/
structure Produced where
  statements : Nat
  outputs : List Text
  deriving DecidableEq, Repr

/-- How a run goes on after a submission. -/
inductive Step where
  | proceed (produced : Produced)
  | exit
  | fail (failure : Failure)

namespace Runner

variable {σ : Type}

/-- Submits the statement collected and tells how the run goes on. -/
def submit (E : Evaluator σ) (r : Runner σ) (start : Nat) (done : Produced)
    (text : Text) : Runner σ × Step :=
  match dispatch r.mode text with
  | .evaluate statement =>
    match E.submit r.evaluator r.mode statement with
    | (after, .ok output) =>
      ({ r with evaluator := after },
        .proceed ⟨done.statements + 1, done.outputs ++ output.toList⟩)
    | (after, .error cause) => ({ r with evaluator := after }, .fail (.atLine start cause))
  | .switchMode mode => ({ r with mode }, .proceed done)
  | .message text => (r, .proceed { done with outputs := done.outputs ++ [text] })
  | .unknown _ => (r, .proceed done)
  | .exit => (r, .exit)
  | .ignore => (r, .proceed done)

/-! ### The run -/

/-- The report of a run that ends. -/
def report (r : Runner σ) (done : Produced) (exited : Bool) : Report :=
  ⟨done.statements, done.outputs, r.mode, exited⟩

/-- Runs the remaining lines, the first of which has the given number. -/
def runLines (E : Evaluator σ) (r : Runner σ) (number : Nat) (opened : Collected)
    (done : Produced) : List Text → Runner σ × Except Failure Report
  | [] =>
    if opened.lines.isEmpty then (r, .ok (r.report done false))
    else (r, .error (.script (.incomplete opened.start r.mode.name)))
  | line :: rest =>
    if opened.lines.isEmpty ∧ line.isBlank then r.runLines E (number + 1) opened done rest
    else
      let collected := opened.add number line
      if r.mode.accepts collected.lines (collected.lines.length - 1) then
        match r.submit E collected.start done (Text.join collected.lines) with
        | (after, .proceed produced) => after.runLines E (number + 1) .empty produced rest
        | (after, .exit) => (after, .ok (after.report done true))
        | (after, .fail failure) => (after, .error failure)
      else r.runLines E (number + 1) collected done rest

/-- Runs a script. -/
def run (E : Evaluator σ) (r : Runner σ) (source : Text) :
    Runner σ × Except Failure Report :=
  r.runLines E 1 .empty ⟨0, []⟩ source.lines

end Runner

end StatementShell
