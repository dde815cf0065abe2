import StatementShell.Command

/-!
# Dispatch of a submitted buffer

A submitted buffer is ignored, is a system command, or goes to the evaluator of
the active mode.

## Main Definitions

* `Action`: what is done with a buffer.
* `dispatch`: the action for a buffer.
-/

namespace StatementShell

/-- What is done with a submitted buffer. -/
inductive Action where
  /-- Hand the text to the evaluator of the active mode. -/
  | evaluate (text : Text)
  /-- Read another language from now on. -/
  | switchMode (mode : Mode)
  /-- Show a message. -/
  | message (text : Text)
  /-- Report a system command that does not exist. -/
  | unknown (body : Text)
  /-- Leave the shell. -/
  | exit
  /-- Do nothing. -/
  | ignore
  deriving DecidableEq, Repr

/-- What a system command does in a mode. -/
def Command.action (active : Mode) : Command → Action
  | switchMode mode => .switchMode mode
  | showMode => .message ("mode: ".toList ++ active.name)
  | help => .message helpText
  | exit => .exit
  | unknown body => .unknown body

/-- The system command a buffer is, if it is one. -/
def Command.ofBuffer? (buffer : Text) : Option Command :=
  if isSystemCommand buffer.bufferLines then parse buffer else none

/-- The action for a submitted buffer. -/
def dispatch (active : Mode) (buffer : Text) : Action :=
  if buffer.isBlank then .ignore
  else
    match Command.ofBuffer? buffer with
    | some command => command.action active
    | none => .evaluate buffer

/-- A buffer is a system command exactly when its lines are. -/
theorem Command.isSome_ofBuffer? (buffer : Text) :
    (ofBuffer? buffer).isSome = isSystemCommand buffer.bufferLines := by
  unfold ofBuffer?
  split
  · case isTrue isCommand =>
    rw [isCommand, isSome_parse_iff]
    match pieces : buffer.bufferLines with
    | [line] =>
      have whole := Text.join_bufferLines buffer
      rw [pieces] at whole isCommand
      rw [← whole]
      exact eq_of_beq isCommand
    | [] | _ :: _ :: _ => simp [pieces, isSystemCommand] at isCommand
  · case isFalse notCommand => simpa using notCommand

/-- What goes to the evaluator is the buffer itself, where it is neither blank nor a
system command. -/
theorem dispatch_eq_evaluate_iff {active : Mode} {buffer text : Text} :
    dispatch active buffer = .evaluate text ↔
      buffer.isBlank = false ∧ isSystemCommand buffer.bufferLines = false ∧ text = buffer := by
  rw [← Command.isSome_ofBuffer?]
  unfold dispatch
  cases buffer.isBlank with
  | true => simp
  | false =>
    cases Command.ofBuffer? buffer with
    | none => simp [eq_comm]
    | some command => cases command <;> simp [Command.action]

end StatementShell
