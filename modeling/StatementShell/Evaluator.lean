import StatementShell.Failure
import StatementShell.Mode

/-!
# Evaluators

The interpreter of the array language and the SQL engine are outside the shell.
An evaluator receives complete statements, one after the other, and answers
each with a text to show, with nothing, or with a failure.

## Main Definitions

* `Evaluator`: a state machine that answers statements.
* `Evaluator.recorded`: the same evaluator, with its calls on record.
* `Transcript`, `transcript`: the evaluator that shows how input was cut.
-/

namespace StatementShell

/-- An evaluator with states in `σ`. -/
structure Evaluator (σ : Type) where
  /-- The state after a statement, and the answer to it. -/
  submit : σ → Mode → Text → σ × Except Failure (Option Text)

/-- A statement handed to an evaluator, with the mode active at that moment. -/
structure Call where
  mode : Mode
  text : Text
  deriving DecidableEq, Repr

namespace Evaluator

variable {σ : Type}

/-- The evaluator that answers as the given one and keeps its calls, in order,
beside the state. -/
def recorded (E : Evaluator σ) : Evaluator (List Call × σ) where
  submit s mode text :=
    let (after, answer) := E.submit s.2 mode text
    ((s.1 ++ [⟨mode, text⟩], after), answer)

end Evaluator

/-! ### Transcripts -/

/-- The number of statements a transcript has received. -/
structure Transcript where
  submitted : Nat
  deriving DecidableEq, Repr

namespace Transcript

/-- The transcript before the first statement. -/
def empty : Transcript := ⟨0⟩

/-- What a transcript shows for a statement: its mode, its ordinal, its number
of lines, and the statement itself. -/
def entry (mode : Mode) (ordinal : Nat) (text : Text) : Text :=
  let count := text.lines.length
  "[".toList ++ mode.name ++ " #".toList ++ Text.ofNat ordinal ++ ", ".toList ++
    Text.ofNat count ++ (if count = 1 then " line]\n" else " lines]\n").toList ++ text

end Transcript

/-- The evaluator that numbers the statements it receives and shows each. -/
def transcript : Evaluator Transcript where
  submit t mode text :=
    (⟨t.submitted + 1⟩, .ok (some (Transcript.entry mode (t.submitted + 1) text)))

end StatementShell
