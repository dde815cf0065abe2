import Mathlib.Data.List.TakeWhile
import StatementShell.Proofs.LexicalGrammar
import StatementShell.Proofs.Resumption

/-!
# What a scanner shows along a lexeme

After each character a scanner shows the kind of its context, the number of open
brackets, the mismatch flag, and whether a unit ended.  While a literal or comment is
read nothing happens to the brackets and no unit ends, so that all there is to tell is
the kind of the context after each character.  It is one and the same along a literal and
a line comment, and changes once along a block comment, at the end of its first line.
The last character of a lexeme is where the code is counted and a unit may end.

None of this depends on what the characters are.  The kinds along a literal or comment
are told by its length, and by the length of its first line.

## Main Definitions

* `Face`, `Scanner.faces`: what a scanner shows up to its first boundary.
* `Scanner.Shows`: what it shows on a way on which no unit ends.
* `Lexeme.interior`: what stands between the first and the last character of a literal or
  comment.
* `Opening.kinds`, `Lexeme.kinds`: the kinds of contexts along a lexeme.

## Main Results

* `Unclosed.shows`: what is shown inside a literal or comment.
* `Stands.faces_lexeme`, `Stands.faces_of_unclosed`: what is shown along a lexeme, and
  along a literal or comment that does not end.
-/

namespace StatementShell

open Lexeme (textOf codeOf)

/-- What a scanner shows after a character, and whether a unit ended there. -/
structure Face where
  kind : Context.Kind
  /-- The number of open brackets. -/
  depth : Nat
  mismatched : Bool
  ended : Bool
  deriving DecidableEq, Repr

/-- What is shown of brackets in a context of a kind. -/
def Nesting.face (n : Nesting) (ended : Bool) (kind : Context.Kind) : Face :=
  ⟨kind, n.brackets.length, n.mismatched, ended⟩

namespace Scanner

/-- What a scanner shows. -/
def face (s : Scanner) (ended : Bool) : Face := ⟨s.context.kind, s.depth, s.mismatched, ended⟩

/-- What a scanner shows after each character of a text.  It is stopped at its first
boundary. -/
def faces (s : Scanner) : Text → List Face
  | [] => []
  | c :: rest =>
    if s.ends c then [(s.next c).face true]
    else (s.next c).face false :: (s.next c).faces rest

theorem faces_append {s : Scanner} {u : Text} (passes : s.Passes u) (rest : Text) :
    s.faces (u ++ rest) = s.faces u ++ (s.feed u).faces rest := by
  induction u generalizing s with
  | nil => rfl
  | cons c u ih =>
    obtain ⟨goesOn, passes⟩ := passes
    simp only [List.cons_append, faces, goesOn, Bool.false_eq_true, if_false, ih passes,
      feed_cons]

/-- A text is read without a boundary, moves the scanner on into a context, and on the way
contexts of the given kinds are shown. -/
structure Shows (s : Scanner) (u : Text) (k : Context) (kinds : List Context.Kind) : Prop
    extends s.Traverses u k where
  faces_eq : s.faces u = kinds.map (s.nesting.face false)

namespace Shows

variable {s : Scanner} {c : Char} {u v : Text} {k k' : Context} {kind : Context.Kind}
  {kinds kinds' : List Context.Kind}

theorem nil (within : s.context = k) : s.Shows [] k [] := ⟨.nil within, rfl⟩

theorem single (leads : s.Traverses [c] k) : s.Shows [c] k [k.kind] where
  toTraverses := leads
  faces_eq := by
    have after : s.next c = s.advance [c] k := leads.feed_eq
    rw [faces, leads.passes.1, after]
    rfl

theorem append (first : s.Shows u k kinds) (second : (s.advance u k).Shows v k' kinds') :
    s.Shows (u ++ v) k' (kinds ++ kinds') where
  toTraverses := first.toTraverses.append second.toTraverses
  faces_eq := by
    rw [faces_append first.passes, first.feed_eq, first.faces_eq, second.faces_eq,
      List.map_append]
    rfl

theorem cons (leads : s.Traverses [c] k) (isKind : k.kind = kind)
    (rest : (s.advance [c] k).Shows v k' kinds) : s.Shows (c :: v) k' (kind :: kinds) :=
  isKind ▸ (single leads).append rest

end Shows

end Scanner

/-! ### Bodies of literals -/

/-- All along an escaped body the literal is shown. -/
theorem EscapedBody.shows {quote : Char} {k : Bool → Context} {kind : Context.Kind}
    {s : Scanner} {body : Text} (valid : EscapedBody quote body)
    (contexts : EscapingContexts quote k) (isKind : ∀ escaped, (k escaped).kind = kind)
    (noReturn : '\r' ∉ body) (within : s.context = k false) :
    s.Shows body (k false) (body.map fun _ => kind) := by
  induction valid generalizing s with
  | nil => exact .nil within
  | plain notQuote notEscape _ ih =>
    obtain ⟨notReturn, noReturn⟩ := List.ne_and_not_mem_of_not_mem_cons noReturn
    exact .cons (contexts.traverses_plain within notReturn.symm notQuote notEscape) (isKind _)
      (ih noReturn rfl)
  | pair _ ih =>
    obtain ⟨-, noReturn⟩ := List.ne_and_not_mem_of_not_mem_cons noReturn
    obtain ⟨notReturn, noReturn⟩ := List.ne_and_not_mem_of_not_mem_cons noReturn
    exact .cons (contexts.traverses_escape within) (isKind _)
      (.cons (contexts.traverses_escaped rfl notReturn.symm) (isKind _) (ih noReturn rfl))

/-- So it is along a body that breaks off. -/
theorem EscapingContexts.shows_of_unclosed {quote : Char} {k : Bool → Context}
    {kind : Context.Kind} {s : Scanner} {t : Text} (contexts : EscapingContexts quote k)
    (isKind : ∀ escaped, (k escaped).kind = kind) (noReturn : '\r' ∉ t)
    (within : s.context = k false) (unclosed : EscapedBody quote t ∨
      ∃ body, t = body ++ [Lexis.escapeMark] ∧ EscapedBody quote body) :
    ∃ k', s.Shows t k' (t.map fun _ => kind) := by
  rcases unclosed with valid | ⟨body, rfl, valid⟩
  · exact ⟨_, valid.shows contexts isKind noReturn within⟩
  · have noReturnBody : '\r' ∉ body := fun member => noReturn (List.mem_append_left _ member)
    have upToEscape := valid.shows contexts isKind noReturnBody within
    have escape := Scanner.Shows.single
      (contexts.traverses_escape (s := s.advance body (k false)) rfl)
    rw [isKind] at escape
    exact ⟨k true, by simpa using upToEscape.append escape⟩

/-- All along a raw body the literal is shown. -/
theorem RawBody.shows {d : Char} {s : Scanner} {body : Text} (valid : RawBody d body)
    (notNewline : d ≠ '\n') (noReturn : '\r' ∉ body) (within : s.context = .raw d false) :
    s.Shows body (.raw d false) (body.map fun _ => .raw) := by
  induction valid generalizing s with
  | nil => exact .nil within
  | plain other _ ih =>
    obtain ⟨notReturn, noReturn⟩ := List.ne_and_not_mem_of_not_mem_cons noReturn
    exact .cons (Scanner.traverses_raw_plain within notReturn.symm other) rfl (ih noReturn rfl)
  | doubled _ ih =>
    obtain ⟨notReturn, noReturn⟩ := List.ne_and_not_mem_of_not_mem_cons noReturn
    obtain ⟨-, noReturn⟩ := List.ne_and_not_mem_of_not_mem_cons noReturn
    exact .cons (Scanner.traverses_raw_delimiter within notReturn.symm notNewline) rfl
      (.cons (Scanner.traverses_raw_delimiter rfl notReturn.symm notNewline) rfl
        (ih noReturn rfl))

/-! ### Lines of comments -/

namespace Scanner

variable {s : Scanner}

/-- On its lines a comment stays a comment of its kind. -/
theorem traverses_of_isComment (inside : s.context.isComment = true) {c : Char}
    (notReturn : c ≠ '\r') (notNewline : c ≠ '\n') :
    ∃ k, s.Traverses [c] k ∧ k.kind = s.context.kind ∧ k.isComment = true := by
  have goesOn := s.ends_of_ne_newline notNewline
  cases within : s.context with
  | lineComment openedAtLineStart =>
    refine ⟨.lineComment openedAtLineStart, .single notReturn goesOn ?_, rfl, rfl⟩
    simp only [read, within, readLineComment, if_neg notNewline]
    rw [Scanner.within, ← within]
  | blockComment loneEndMark =>
    refine ⟨.blockComment (c = Lexis.blockCommentEnd ∧ s.atLineStart),
      .single notReturn goesOn ?_, rfl, rfl⟩
    simp [read, within, readBlockComment, notNewline]
  | _ =>
    rw [within] at inside
    exact Bool.noConfusion inside

theorem faces_commentLine {line : Text} (inside : s.context.isComment = true)
    (noReturn : '\r' ∉ line) (oneLine : '\n' ∉ line) :
    s.faces line = (line.map fun _ => s.context.kind).map (s.nesting.face false) := by
  induction line generalizing s with
  | nil => rfl
  | cons c line ih =>
    obtain ⟨notReturn, noReturn⟩ := List.ne_and_not_mem_of_not_mem_cons noReturn
    obtain ⟨notNewline, oneLine⟩ := List.ne_and_not_mem_of_not_mem_cons oneLine
    obtain ⟨k, leads, sameKind, stillInside⟩ :=
      traverses_of_isComment inside notReturn.symm notNewline.symm
    have after : s.next c = s.advance [c] k := leads.feed_eq
    have later := ih (s := s.advance [c] k) stillInside noReturn oneLine
    rw [advance_context, sameKind] at later
    have shown : (s.advance [c] k).face false = s.nesting.face false s.context.kind :=
      congrArg (s.nesting.face false) sameKind
    rw [faces, leads.passes.1, after, later, shown]
    rfl

theorem shows_lineComment {openedAtLineStart : Bool} {body : Text}
    (within : s.context = .lineComment openedAtLineStart) (noReturn : '\r' ∉ body)
    (oneLine : '\n' ∉ body) :
    s.Shows body (.lineComment openedAtLineStart) (body.map fun _ => .lineComment) where
  toTraverses := traverses_lineComment within noReturn oneLine
  faces_eq := by
    rw [faces_commentLine (by rw [within]; rfl) noReturn oneLine, within]
    rfl

theorem shows_blockComment_line {line : Text} (within : s.context = .blockComment false)
    (start : s.atLineStart = true) (noReturn : '\r' ∉ line) (oneLine : '\n' ∉ line) :
    s.Shows line (.blockComment (decide (line = [Lexis.blockCommentEnd])))
      (line.map fun _ => .blockComment) where
  toTraverses := traverses_blockComment_line within start noReturn oneLine
  faces_eq := by
    rw [faces_commentLine (by rw [within]; rfl) noReturn oneLine, within]
    rfl

end Scanner

/-- All along the lines of a block comment it is shown. -/
theorem CommentLines.shows {s : Scanner} {lines : List Text} (valid : CommentLines lines)
    (within : s.context = .blockComment false) (start : s.atLineStart = true)
    (noReturn : '\r' ∉ Text.terminated lines) :
    s.Shows (Text.terminated lines) (.blockComment false)
      ((Text.terminated lines).map fun _ => .blockComment) := by
  induction lines generalizing s with
  | nil => exact .nil within
  | cons line lines ih =>
    rw [Text.terminated_cons] at noReturn ⊢
    obtain ⟨oneLine, notEnd⟩ := valid line List.mem_cons_self
    have noReturnLine : '\r' ∉ line := fun member => noReturn (List.mem_append_left _ member)
    have noReturnRest : '\r' ∉ Text.terminated lines := fun member =>
      noReturn (List.mem_append_right _ (List.mem_cons_of_mem _ member))
    have onLine := Scanner.shows_blockComment_line within start noReturnLine oneLine
    rw [decide_eq_false notEnd] at onLine
    have newline : (s.advance line (.blockComment false)).Traverses ['\n'] (.blockComment false) :=
      .single (by decide) (by simp [Scanner.ends, Scanner.newlineSurfaces])
        (by simp [Scanner.read, Scanner.readBlockComment, Scanner.within, Scanner.advance])
    have atStart : (s.advance (line ++ ['\n']) (.blockComment false)).atLineStart = true := by
      rw [Scanner.atLineStart_advance]
      rfl
    have later := ih (fun l member => valid l (List.mem_cons_of_mem _ member)) rfl
      (s := (s.advance line (.blockComment false)).advance ['\n'] (.blockComment false))
      (by rw [Scanner.advance_advance]; exact atStart) noReturnRest
    have isKind : (Context.blockComment false).kind = .blockComment := rfl
    simpa using onLine.append (.cons newline isKind later)

/-! ### Inside a literal or comment -/

/-- The kind of context that an opening character leads to. -/
def Opening.kind : Opening → Context.Kind
  | string => .string
  | escaped => .quoted
  | raw => .raw
  | lineComment | blockComment => .lineComment

theorem Opening.kind_context (c : Char) (o : Opening) : (o.context c).kind = o.kind := by
  cases o <;> rfl

/-- The kinds of contexts after each character of what follows an opening character. -/
def Opening.kinds (u : Text) : Opening → List Context.Kind
  | blockComment =>
    ((u.takeWhile (· ≠ '\n')).map fun _ => .lineComment) ++
      (u.dropWhile (· ≠ '\n')).map fun _ => .blockComment
  | o => u.map fun _ => o.kind

theorem Opening.kinds_of_oneLine {u : Text} (oneLine : '\n' ∉ u) :
    blockComment.kinds u = u.map fun _ => .lineComment := by
  have all : ∀ c ∈ u, decide (c ≠ '\n') = true := by
    intro c member
    exact decide_eq_true fun newline => oneLine (newline ▸ member)
  rw [kinds, List.takeWhile_eq_self_iff.mpr all, List.dropWhile_eq_nil_iff.mpr all]
  simp

theorem Opening.kinds_append_newline {first : Text} (oneLine : '\n' ∉ first) (rest : Text) :
    blockComment.kinds (first ++ '\n' :: rest) =
      (first.map fun _ => .lineComment) ++ ('\n' :: rest).map fun _ => .blockComment := by
  have all : ∀ c ∈ first, decide (c ≠ '\n') = true := by
    intro c member
    exact decide_eq_true fun newline => oneLine (newline ▸ member)
  rw [kinds, List.takeWhile_append_of_pos all, List.dropWhile_append_of_pos all]
  simp

/-- What is shown inside a literal or comment, whether or not it ends after that. -/
theorem Unclosed.shows {c : Char} {o : Opening} {u : Text} {s : Scanner}
    (unclosed : Unclosed c o u) (within : s.context = o.context c) (notNewline : c ≠ '\n')
    (noReturn : '\r' ∉ u) : ∃ k, s.Shows u k (o.kinds u) := by
  cases o with
  | string =>
    exact escapingContexts_string.shows_of_unclosed (fun _ => rfl) noReturn within unclosed
  | escaped =>
    exact (escapingContexts_quoted c).shows_of_unclosed (fun _ => rfl) noReturn within unclosed
  | raw => exact ⟨_, RawBody.shows unclosed notNewline noReturn within⟩
  | lineComment => exact ⟨_, Scanner.shows_lineComment within noReturn unclosed⟩
  | blockComment =>
    rcases unclosed with oneLine | ⟨first, lines, last, rfl, oneLine, valid, oneLast⟩
    · rw [Opening.kinds_of_oneLine oneLine]
      exact ⟨_, Scanner.shows_lineComment within noReturn oneLine⟩
    · have noReturnFirst : '\r' ∉ first := fun member => noReturn (by simp [member])
      have noReturnLines : '\r' ∉ Text.terminated lines := fun member =>
        noReturn (by simp [member])
      have noReturnLast : '\r' ∉ last := fun member => noReturn (by simp [member])
      have onFirst := Scanner.shows_lineComment within noReturnFirst oneLine
      have newline : (s.advance first (.lineComment true)).Shows ['\n'] (.blockComment false)
          [.blockComment] := .single (.single (by decide) rfl rfl)
      have upToLines := onFirst.append newline
      obtain ⟨-, atStart⟩ := Scanner.traverses_firstLine within noReturnFirst oneLine
      have onLines := valid.shows rfl atStart noReturnLines
      obtain ⟨-, atLast⟩ := valid.traverses rfl atStart noReturnLines
      have onLast := Scanner.shows_blockComment_line rfl atLast noReturnLast oneLast
      rw [Opening.kinds_append_newline oneLine]
      exact ⟨_, by simpa using upToLines.append (onLines.append onLast)⟩

/-! ### One lexeme -/

namespace Lexeme

/-- What stands between the first and the last character of a literal or comment. -/
def interior : Lexeme → Option (Opening × Text)
  | string body => some (.string, body)
  | escaped _ body => some (.escaped, body)
  | raw _ body => some (.raw, body)
  | lineComment body => some (.lineComment, body)
  | blockComment first lines =>
    some (.blockComment, first ++ '\n' :: (Text.terminated lines ++ [Lexis.blockCommentEnd]))
  | code _ => none

/-- The kinds of contexts after each character of a lexeme but its last. -/
def kinds (l : Lexeme) : List Context.Kind :=
  match l.interior with
  | some (o, u) => o.kind :: o.kinds u
  | none => []

/-- The kind of context after the last character of a lexeme.  A raw literal is not known
to be closed yet. -/
def lastKind : Lexeme → Context.Kind
  | raw _ _ => .raw
  | _ => .code

theorem text_eq_of_interior {l : Lexeme} {o : Opening} {u : Text}
    (holds : l.interior = some (o, u)) : l.text = l.first :: u ++ [l.last] := by
  cases l with
  | code c => cases holds
  | blockComment first lines =>
    cases holds
    simp [text, Lexeme.first, last, Text.terminated]
  | _ =>
    cases holds
    rfl

theorem text_eq_of_interior_eq_none {l : Lexeme} (none : l.interior = none) :
    l.text = [l.last] := by
  cases l with
  | code c => rfl
  | _ => cases none

theorem kind_contextAfter (ls : List Lexeme) (l : Lexeme) :
    (contextAfter (ls ++ [l])).kind = l.lastKind := by
  rw [contextAfter, List.getLast?_concat]
  cases l <;> rfl

/-- At a lexeme that ends with a newline of code nothing happens to the brackets. -/
theorem nestingOf_concat_of_surfaces (ls : List Lexeme) {l : Lexeme}
    (surfaces : l.surfaces = true) : nestingOf (codeOf (ls ++ [l])) = nestingOf (codeOf ls) := by
  cases l with
  | code c =>
    obtain rfl : c = '\n' := by simpa [Lexeme.surfaces] using surfaces
    have added : codeOf (ls ++ [.code '\n']) = codeOf ls ++ ['\n'] := codeOf_append ..
    rw [added, nestingOf_concat, Nesting.read_plain _ (by decide) (by decide)]
  | lineComment | blockComment => simp [codeOf, List.filterMap_cons, code?]
  | _ => exact Bool.noConfusion surfaces

end Lexeme

/-- The first character of a literal or comment that is read opens it, and its interior does
not end it. -/
theorem Follows.unclosed_interior {before : List Lexeme} {l : Lexeme} {rest : Text}
    (follows : Follows before l rest) {o : Opening} {u : Text}
    (holds : l.interior = some (o, u)) :
    Opens before l.first o ∧ Unclosed l.first o u := by
  cases follows with
  | string valid =>
    cases holds
    exact ⟨rfl, Or.inl valid⟩
  | escaped opens valid =>
    cases holds
    exact ⟨opens, Or.inl valid⟩
  | raw opens valid single =>
    cases holds
    exact ⟨opens, valid⟩
  | lineComment opens oneLine =>
    cases holds
    exact ⟨opens, oneLine⟩
  | @blockComment first _ lines opens oneLine valid =>
    cases holds
    exact ⟨opens, Or.inr ⟨first, lines, [Lexis.blockCommentEnd], rfl, oneLine, valid, by decide⟩⟩
  | code plain => cases holds

namespace Stands

variable {ls : List Lexeme} {s : Scanner}

theorem delimited (stands : Stands ls s) : s.Delimited := by
  intro d delimiter
  rw [stands.context] at delimiter
  cases ls using List.reverseRecOn with
  | nil => cases delimiter
  | append_singleton init l =>
    obtain ⟨before, rest, follows⟩ := stands.read l (by simp)
    rw [contextAfter, List.getLast?_concat] at delimiter
    cases follows with
    | raw opens _ _ =>
      cases delimiter
      exact opens.1
    | _ => cases delimiter

/-- What opens is shown from its first character on. -/
theorem shows_of_opens (stands : Stands ls s) {c : Char} {o : Opening} {u t : Text}
    (closed : RawClosed ls (c :: t)) (opens : Opens ls c o) (unclosed : Unclosed c o u)
    (noReturn : '\r' ∉ c :: u) : ∃ k, s.Shows (c :: u) k (o.kind :: o.kinds u) := by
  obtain ⟨notReturn, noReturn⟩ := List.ne_and_not_mem_of_not_mem_cons noReturn
  have opening := stands.opened closed opens notReturn.symm
  obtain ⟨k, inside⟩ := unclosed.shows (s := s.advance [c] (o.context c)) rfl opens.ne_newline
    noReturn
  exact ⟨k, .cons opening (o.kind_context c) inside⟩

/-- What is shown along a literal or comment that does not end. -/
theorem faces_of_unclosed (stands : Stands ls s) {c : Char} {o : Opening} {u : Text}
    (closed : RawClosed ls (c :: u)) (opens : Opens ls c o) (unclosed : Unclosed c o u)
    (noReturn : '\r' ∉ c :: u) :
    s.faces (c :: u) = (o.kind :: o.kinds u).map ((nestingOf (codeOf ls)).face false) := by
  obtain ⟨k, shown⟩ := stands.shows_of_opens closed opens unclosed noReturn
  rw [shown.faces_eq, stands.nesting]

/-- What is shown along a lexeme up to its last character. -/
theorem shows_lexeme (stands : Stands ls s) {l : Lexeme} {rest : Text}
    (follows : Follows ls l rest) (closed : RawClosed ls (l.text ++ rest))
    (noReturn : '\r' ∉ l.text) : ∃ u k, l.text = u ++ [l.last] ∧ s.Shows u k l.kinds := by
  unfold Lexeme.kinds
  cases holds : l.interior with
  | none => exact ⟨[], s.context, Lexeme.text_eq_of_interior_eq_none holds, .nil rfl⟩
  | some interior =>
    obtain ⟨o, u⟩ := interior
    obtain ⟨opens, unclosed⟩ := follows.unclosed_interior holds
    have spelled := Lexeme.text_eq_of_interior holds
    rw [spelled] at noReturn closed
    obtain ⟨k, shown⟩ := stands.shows_of_opens closed opens unclosed
      (fun member => noReturn (List.mem_append_left _ member))
    exact ⟨l.first :: u, k, spelled, shown⟩

/-- What is shown along a lexeme: its kinds, and at its last character the brackets of the
code, where the unit ends or the scanner reads on. -/
theorem faces_lexeme (stands : Stands ls s) {l : Lexeme} {rest : Text}
    (follows : Follows ls l rest) (closed : RawClosed ls (l.text ++ rest))
    (noReturn : '\r' ∉ l.text) (more : Text) :
    let ended := l.surfaces && (nestingOf (codeOf (ls ++ [l]))).closed
    s.faces (l.text ++ more) = l.kinds.map ((nestingOf (codeOf ls)).face false) ++
      (nestingOf (codeOf (ls ++ [l]))).face ended l.lastKind ::
        if ended then [] else (s.feed l.text).faces more := by
  intro ended
  obtain ⟨u, split, passes, ends, arrives⟩ := stands.step follows closed noReturn
  obtain ⟨u', k, split', shown⟩ := stands.shows_lexeme follows closed noReturn
  obtain rfl : u = u' := List.append_cancel_right (split.symm.trans split')
  have whole : s.feed l.text = (s.feed u).next l.last := by
    rw [split, Scanner.feed_append, Scanner.feed_cons, Scanner.feed_nil]
  change (s.feed u).ends l.last = ended at ends
  rw [ends, whole] at arrives
  rw [whole, split, List.append_assoc, Scanner.faces_append passes, shown.faces_eq,
    stands.nesting, List.singleton_append, Scanner.faces, ends]
  congr 1
  cases unitEnds : ended with
  | true =>
    rw [unitEnds] at ends
    have surfaces : l.surfaces = true := (Bool.and_eq_true _ _ ▸ unitEnds).1
    have code : l.lastKind = .code := by
      cases l with
      | raw => exact Bool.noConfusion surfaces
      | _ => rfl
    have sameNesting : (s.feed u).nesting = nestingOf (codeOf ls) := by
      rw [shown.feed_eq, ← stands.nesting]
      rfl
    rw [Scanner.next_of_ends (stands.delimited.feed u) ends, code,
      Lexeme.nestingOf_concat_of_surfaces ls surfaces, ← sameNesting]
    rfl
  | false =>
    have after := arrives unitEnds
    rw [← Lexeme.kind_contextAfter ls l, ← after.context, ← after.nesting]
    rfl

end Stands

end StatementShell
