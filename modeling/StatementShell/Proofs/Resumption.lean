import Mathlib.Data.List.Basic
import StatementShell.Proofs.LineBoundaries

/-!
# Reading on after a boundary

A scanner may be fed on after it has reported a boundary.  Nothing that was read
before the boundary reaches beyond it, as long as no bracket mismatched: no
introducer and no line goes across a newline, and all flags but one are back at
their values.  The one that is not says that a comment may begin.  A comment mark
that directly follows the boundary is therefore code to the scanner that is fed
on, while it opens a comment for a scanner that starts afresh.  The two part at
that mark and nowhere else.

## Main Definitions

* `Context.Kind`: a context without its flags.
* `Observation`: what a scanner shows after a character.
* `Scanner.observations`: what it shows while it reads a text.
* `Scanner.onto`: the same scanner with more text read before.

## Main Results

* `Scanner.next_onto`: what stands before the last boundary is not looked at.
* `Scanner.next_of_ends`: the scanner at a boundary.
* `observations_after_boundary_iff`: when reading on is reading afresh.
-/

namespace StatementShell

/-! ### What a scanner shows -/

/-- A context without its flags. -/
inductive Context.Kind where
  | code
  | lineComment
  | blockComment
  | string
  | quoted
  | raw
  deriving DecidableEq, Repr

/-- The kind of a context. -/
def Context.kind : Context → Kind
  | code _ => .code
  | lineComment _ => .lineComment
  | blockComment _ => .blockComment
  | string _ => .string
  | quoted _ _ => .quoted
  | raw _ _ => .raw

/-- What a scanner shows after a character. -/
@[ext]
structure Observation where
  kind : Context.Kind
  /-- The number of open brackets. -/
  depth : Nat
  mismatched : Bool
  /-- The number of bytes read, where the character ended a unit. -/
  boundary : Option Nat
  deriving DecidableEq, Repr

/-- The same observation when some bytes were read before. -/
def Observation.after (bytes : Nat) (o : Observation) : Observation :=
  { o with boundary := o.boundary.map (bytes + ·) }

/-- The bytes read before can be taken away again. -/
theorem Observation.after_injective (bytes : Nat) : Function.Injective (after bytes) := by
  intro o o' same
  obtain ⟨kinds, depths, flags, shifted⟩ := Observation.mk.inj same
  have boundaries : o.boundary = o'.boundary :=
    Option.map_injective (fun _ _ => Nat.add_left_cancel) shifted
  exact Observation.ext kinds depths flags boundaries

namespace Scanner

/-- What a scanner shows after the next character. -/
def observe (s : Scanner) (c : Char) : Observation :=
  ⟨(s.next c).context.kind, (s.next c).depth, (s.next c).mismatched,
    if s.ends c then some (s.next c).consumed.byteLength else none⟩

/-- What a scanner shows after each character of a text; it is fed on after a
boundary. -/
def observations (s : Scanner) : Text → List Observation
  | [] => []
  | c :: rest => s.observe c :: (s.next c).observations rest

/-! ### Text before a boundary -/

/-- The same scanner with more text read before. -/
def onto (s : Scanner) (earlier : List Char) : Scanner :=
  { s with reversed := s.reversed ++ earlier }

variable {s : Scanner} {earlier : List Char}

/-- A newline before the text read is the start of a line, as the start of the
text is. -/
theorem atLineStart_onto (newline : earlier.head? = some '\n') :
    (s.onto earlier).atLineStart = s.atLineStart := by
  unfold atLineStart onto
  cases s.reversed with
  | nil =>
    obtain ⟨rest, rfl⟩ := List.head?_eq_some_iff.mp newline
    rfl
  | cons c reversed => rfl

/-- An introducer is read as one whatever stands on earlier lines. -/
theorem introducerAtEnd_onto (newline : earlier.head? = some '\n') :
    Lexis.introducerAtEnd (s.onto earlier).reversed = Lexis.introducerAtEnd s.reversed := by
  obtain ⟨rest, rfl⟩ := List.head?_eq_some_iff.mp newline
  unfold onto Lexis.introducerAtEnd
  match s.reversed with
  | [] => rfl
  | [b] => simp [Lexis.introducers]
  | b :: a :: reversed => rfl

theorem readPlain_onto (newline : earlier.head? = some '\n') (commentMayBegin : Bool) (c : Char) :
    (s.onto earlier).readPlain commentMayBegin c =
      (s.readPlain commentMayBegin c).onto earlier := by
  have brackets : (s.onto earlier).brackets = s.brackets := rfl
  unfold readPlain closeBracket
  rw [atLineStart_onto newline, brackets]
  split_ifs <;> rfl

theorem readCode_onto (newline : earlier.head? = some '\n') (commentMayBegin : Bool) (c : Char) :
    (s.onto earlier).readCode commentMayBegin c = (s.readCode commentMayBegin c).onto earlier := by
  unfold readCode
  rw [introducerAtEnd_onto newline, readPlain_onto newline]
  split
  · cases Lexis.introducerAtEnd s.reversed with
    | none => rfl
    | some kind => cases kind <;> rfl
  · rfl

/-- What stands before the last boundary is not looked at. -/
theorem next_onto (newline : earlier.head? = some '\n') (c : Char) :
    (s.onto earlier).next c = (s.next c).onto earlier := by
  have read : (s.onto earlier).read c = (s.read c).onto earlier := by
    have same : (s.onto earlier).context = s.context := rfl
    unfold Scanner.read
    rw [same]
    cases s.context with
    | code => exact readCode_onto newline _ c
    | lineComment =>
      dsimp only [readLineComment]
      split_ifs <;> rfl
    | blockComment =>
      dsimp only [readBlockComment]
      rw [atLineStart_onto newline]
      split_ifs <;> rfl
    | string =>
      dsimp only [readString]
      split_ifs <;> rfl
    | quoted =>
      dsimp only [readQuoted]
      split_ifs <;> rfl
    | raw =>
      dsimp only [readRaw]
      rw [readCode_onto newline]
      split_ifs <;> rfl
  unfold next
  rw [read]
  split <;> rfl

theorem onto_nil (s : Scanner) : s.onto [] = s := by simp [onto]

theorem onto_onto (s : Scanner) (later earlier : List Char) :
    (s.onto later).onto earlier = s.onto (later ++ earlier) := by simp [onto]

theorem feed_onto (newline : earlier.head? = some '\n') (t : Text) :
    (s.onto earlier).feed t = (s.feed t).onto earlier := by
  induction t generalizing s with
  | nil => rfl
  | cons c t ih => rw [feed_cons, feed_cons, next_onto newline, ih]

theorem passes_onto (newline : earlier.head? = some '\n') (t : Text) :
    (s.onto earlier).Passes t ↔ s.Passes t := by
  induction t generalizing s with
  | nil => exact Iff.rfl
  | cons c t ih =>
    rw [Passes, Passes, next_onto newline, ih]
    exact Iff.rfl

theorem consumed_onto : (s.onto earlier).consumed = earlier.reverse ++ s.consumed :=
  List.reverse_append

theorem observe_onto (newline : earlier.head? = some '\n') (c : Char) :
    (s.onto earlier).observe c = (s.observe c).after (Text.byteLength earlier.reverse) := by
  have ends : (s.onto earlier).ends c = s.ends c := rfl
  unfold observe Observation.after
  rw [next_onto newline, ends, consumed_onto, Text.byteLength_append]
  split <;> rfl

/-- With more text before, the same is shown, and boundaries are reported later. -/
theorem observations_onto (newline : earlier.head? = some '\n') (t : Text) :
    (s.onto earlier).observations t =
      (s.observations t).map (.after (Text.byteLength earlier.reverse)) := by
  induction t generalizing s with
  | nil => rfl
  | cons c t ih =>
    rw [observations, observations, List.map_cons, observe_onto newline, next_onto newline, ih]

/-! ### At a boundary -/

/-- The scanner at a boundary: in code, with no bracket open or one mismatched, and
no comment may begin. -/
theorem next_of_ends (delimited : s.Delimited) {c : Char} (ends : s.ends c = true) :
    s.next c = (s.within (.code false)).record '\n' := by
  obtain rfl := eq_newline_of_ends ends
  rw [ends_newline, Bool.and_eq_true] at ends
  have resumed := read_newline_of_surfaces delimited ends.1
  rw [next, if_neg (by decide), resumed, resume, ends.2]
  rfl

/-- The scanner at the start of a unit where no comment may begin. -/
def barred : Scanner := fresh.within (.code false)

/-- At a boundary without mismatch the scanner is as at its start, but that no
comment may begin. -/
theorem feed_of_ends {u : Text} {c : Char} (ends : (fresh.feed u).ends c = true)
    (clean : (fresh.feed (u ++ [c])).mismatched = false) :
    fresh.feed (u ++ [c]) = barred.onto (fresh.feed (u ++ [c])).reversed ∧
      (fresh.feed (u ++ [c])).reversed.head? = some '\n' := by
  have arrives : fresh.feed (u ++ [c]) = ((fresh.feed u).within (.code false)).record '\n' := by
    rw [feed_append, feed_cons, feed_nil, next_of_ends (delimited_fresh.feed u) ends]
  rw [arrives] at clean ⊢
  obtain rfl := eq_newline_of_ends ends
  rw [ends_newline, Bool.and_eq_true, closed, Bool.or_eq_true, List.isEmpty_iff] at ends
  have noMismatch : (fresh.feed u).mismatched = false := clean
  have noBracket : (fresh.feed u).brackets = [] := by
    rcases ends.2 with empty | mismatched
    · exact empty
    · exact Bool.noConfusion (mismatched.symm.trans noMismatch)
  refine ⟨?_, rfl⟩
  rw [record, within, noBracket, noMismatch]
  rfl

/-- Only a comment mark tells whether a comment may begin. -/
theorem next_barred {c : Char} (notReturn : c ≠ '\r') (other : c ≠ Lexis.commentMark) :
    barred.next c = fresh.next c := by
  have noIntroducer : Lexis.introducerAtEnd [] = none := by decide
  have plain : barred.readPlain false c = fresh.readPlain true c := by
    have notMark (may : Prop) : ¬ (c = Lexis.commentMark ∧ may) := fun mark => other mark.1
    unfold readPlain
    rw [if_neg (notMark _), if_neg (notMark _)]
    rfl
  have read : barred.read c = fresh.read c := by
    show barred.readCode false c = fresh.readCode true c
    unfold readCode
    rw [show barred.reversed = [] from rfl, show fresh.reversed = [] from rfl, noIntroducer, plain]
  rw [next, next, if_neg notReturn, if_neg notReturn, read]

/-- Reading starts alike, whether or not a comment may begin, unless a comment mark
comes first. -/
theorem observations_barred_iff (t : Text) :
    barred.observations t = fresh.observations t ↔
      (Text.withoutReturns t).head? ≠ some Lexis.commentMark := by
  induction t with
  | nil => simp [observations, Text.withoutReturns]
  | cons c t ih =>
    by_cases isReturn : c = '\r'
    · subst isReturn
      have same : barred.observe '\r' = fresh.observe '\r' := rfl
      rw [Text.withoutReturns_return, ← ih, observations, observations, same, next_return,
        next_return, List.cons.injEq]
      exact and_iff_right rfl
    · rw [Text.withoutReturns_cons isReturn, List.head?_cons]
      by_cases mark : c = Lexis.commentMark
      · subst mark
        have differs : barred.observe Lexis.commentMark ≠ fresh.observe Lexis.commentMark := by
          decide
        simp [observations, differs]
      · have same : barred.observe c = fresh.observe c := by
          unfold observe
          rw [next_barred isReturn mark]
          rfl
        rw [observations, observations, same, next_barred isReturn mark]
        simpa using mark

end Scanner

open Scanner (fresh)

/-- A scanner that has reported a boundary, and met no mismatch, reads on as a
scanner that starts afresh, with every boundary reported later by what was read
before, exactly when the text that follows does not begin with a comment mark.
Carriage returns do not count. -/
theorem observations_after_boundary_iff {u : Text} {c : Char}
    (ends : (fresh.feed u).ends c = true)
    (clean : (fresh.feed (u ++ [c])).mismatched = false) (t : Text) :
    (fresh.feed (u ++ [c])).observations t =
        (fresh.observations t).map (.after (fresh.feed (u ++ [c])).consumed.byteLength) ↔
      (Text.withoutReturns t).head? ≠ some Lexis.commentMark := by
  obtain ⟨arrives, newline⟩ := Scanner.feed_of_ends ends clean
  rw [← Scanner.observations_barred_iff, Scanner.consumed]
  generalize (fresh.feed (u ++ [c])).reversed = earlier at arrives newline ⊢
  rw [arrives, Scanner.observations_onto newline]
  exact (List.map_injective_iff.mpr (Observation.after_injective _)).eq_iff

/-- A string over two lines is read alike by both, and its boundary reported seven
bytes later. -/
theorem observations_after_closed_bracket :
    (fresh.feed "(1;\n2)".toList).ends '\n' = true ∧
      (fresh.feed "(1;\n2)\n".toList).mismatched = false ∧
      (fresh.feed "(1;\n2)\n".toList).observations "\r\"/\n\"\n".toList =
        (fresh.observations "\r\"/\n\"\n".toList).map (.after 7) := by
  have ends : (fresh.feed "(1;\n2)".toList).ends '\n' = true := by decide
  have clean : (fresh.feed ("(1;\n2)".toList ++ ['\n'])).mismatched = false := by decide
  exact ⟨ends, clean, (observations_after_boundary_iff ends clean _).mpr (by decide)⟩

/-- A comment mark after a boundary is code to the scanner that is fed on, and opens
a comment for a fresh one. -/
theorem comment_mark_after_boundary :
    ¬ ∀ (u : Text) (c : Char), (fresh.feed u).ends c = true →
      (fresh.feed (u ++ [c])).mismatched = false → ∀ t : Text,
        (fresh.feed (u ++ [c])).observations t =
          (fresh.observations t).map (.after (fresh.feed (u ++ [c])).consumed.byteLength) := by
  intro alike
  have same := alike "1".toList '\n' (by decide) (by decide) "/".toList
  have fedOn : (fresh.feed ("1".toList ++ ['\n'])).observations "/".toList =
      [⟨.code, 0, false, none⟩] := by decide
  have afresh : fresh.observations "/".toList = [⟨.lineComment, 0, false, none⟩] := by decide
  rw [fedOn, afresh] at same
  cases same

end StatementShell
