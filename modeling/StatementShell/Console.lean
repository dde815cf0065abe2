import StatementShell.Evaluator
import StatementShell.Session

/-!
# The console

A session is driven from a console: lines are typed into an edit buffer, Enter
asks whether the buffer is to be submitted, and what is submitted goes through
the session to the evaluator.  What the evaluator answers is printed and a
failure is reported; neither ends the session.

The line editor itself is outside the shell.  It is taken to repaint the buffer
after every change with the cursor where the change was made, to hand over and
empty the buffer when it is submitted, and to put in a newline when it is not.

## Main Definitions

* `Console`: a session with its edit buffer, its evaluator and what it shows.
* `Console.submit`: the effect of a submitted buffer.
* `Console.typeLine`, `Console.typeLines`: lines typed one after the other.
-/

namespace StatementShell

/-- A session at a terminal. -/
structure Console (σ : Type) where
  session : Session
  /-- The edit buffer. -/
  buffer : Text
  /-- The state of the evaluator. -/
  evaluator : σ
  /-- The answers and messages printed, in order. -/
  printed : List Text
  /-- The complaints printed beside them, in order. -/
  errors : List Text

namespace Console

variable {σ : Type}

/-- A console at its start. -/
def start (session : Session) (evaluator : σ) : Console σ := ⟨session, [], evaluator, [], []⟩

/-! ### Submitting -/

/-- Routes a submitted buffer, and calls the evaluator where it is a statement. -/
def submit (E : Evaluator σ) (c : Console σ) (text : Text) : Console σ :=
  let (session, action) := c.session.process text
  match action with
  | .evaluate statement =>
    match E.submit c.evaluator session.mode statement with
    | (after, .ok output) =>
      { c with session, evaluator := after, printed := c.printed ++ output.toList }
    | (after, .error cause) =>
      { c with
        session, evaluator := after, errors := c.errors ++ ["Error: ".toList ++ cause.message] }
  | .message text => { c with session, printed := c.printed ++ [text] }
  | .unknown body =>
    { c with
      session
      errors := c.errors ++
        ["Unknown system command: )".toList ++ body ++ " (try )help)".toList] }
  | .switchMode _ | .exit | .ignore => { c with session }

/-! ### Typing -/

/-- Adds to the end of the buffer and repaints it with the cursor there. -/
def write (c : Console σ) (text : Text) : Console σ :=
  let buffer := c.buffer ++ text
  { c with buffer, session := (c.session.highlight buffer buffer.byteLength).1 }

/-- Presses Enter. -/
def enter (E : Evaluator σ) (c : Console σ) : Console σ :=
  if c.session.validate c.buffer then { c.submit E c.buffer with buffer := [] }
  else { c with buffer := c.buffer ++ ['\n'] }

/-- Types a line and presses Enter.  A blank line is left out while the buffer is
empty. -/
def typeLine (E : Evaluator σ) (c : Console σ) (line : Text) : Console σ :=
  if c.buffer.isEmpty ∧ line.isBlank then c else (c.write line).enter E

/-- Types lines until the session ends. -/
def typeLines (E : Evaluator σ) (c : Console σ) : List Text → Console σ
  | [] => c
  | line :: rest => if c.session.running then (c.typeLine E line).typeLines E rest else c

end Console

end StatementShell
