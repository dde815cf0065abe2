import StatementShell.Proofs.Reading
import StatementShell.Proofs.Traversal

/-!
# The scanner reads lexemes

The scanner keeps no tokens; its context, its stack and the text it has written
are all it knows.  Between two lexemes these three are determined by the lexemes
read, which is the invariant `Stands`.  From there a lexeme is read in one move:
it either ends the unit or leaves the scanner standing after one lexeme more.

The introducer of a literal is looked up in the written text, not in the code.
That the two are the same, and that a raw literal is closed only by the character
after its delimiter, is what the invariant has to carry.

## Main Definitions

* `contextAfter`: the context of the scanner between two lexemes.
* `Stands`: the scanner between two lexemes.

## Main Results

* `Stands.step`: one lexeme is read.
* `scan_reads_lexemes`: the verdict on a text is about the lexemes it is read
  as.
-/

namespace StatementShell

open Lexeme (textOf codeOf)
open Scanner (Traverses newlineSurfaces)

/-! ### What the written text tells about the lexemes -/

/-- Every lexeme was read after some lexemes. -/
def WereRead (ls : List Lexeme) : Prop := ∀ l ∈ ls, ∃ before rest, Follows before l rest

theorem WereRead.concat {ls : List Lexeme} (read : WereRead ls) {l : Lexeme} {rest : Text}
    (follows : Follows ls l rest) : WereRead (ls ++ [l]) := by
  intro l' member
  rcases List.mem_append.mp member with earlier | isLast
  · exact read l' earlier
  · obtain rfl := List.mem_singleton.mp isLast
    exact ⟨ls, rest, follows⟩

/-- The last character of a lexeme. -/
def Lexeme.last : Lexeme → Char
  | string _ => Lexis.stringQuote
  | escaped d _ | raw d _ => d
  | lineComment _ | blockComment _ _ => '\n'
  | code c => c

theorem Lexeme.getLast?_text (l : Lexeme) : l.text.getLast? = some l.last := by
  cases l with
  | blockComment first lines =>
    have spelled : text (.blockComment first lines) =
        Lexis.commentMark :: Text.terminated (first :: lines) ++ [Lexis.blockCommentEnd] ++
          ['\n'] := by
      simp [text, Text.terminated]
    rw [spelled]
    exact List.getLast?_concat
  | code c => rfl
  | _ => exact List.getLast?_concat

/-- The last character of lexemes is the last of the last lexeme. -/
theorem getLast?_textOf_concat (ls : List Lexeme) (l : Lexeme) :
    (textOf (ls ++ [l])).getLast? = some l.last := by
  simp [Lexeme.getLast?_text]

/-- The delimiter of a literal that was read may delimit literals. -/
theorem Follows.delimiter {before : List Lexeme} {l : Lexeme} {rest : Text}
    (follows : Follows before l rest) :
    l.last = Lexis.stringQuote ∨ Lexis.isDelimiter l.last = true ∨ l.last = '\n' ∨
      l = .code l.last := by
  cases follows with
  | string _ => exact Or.inl rfl
  | escaped opens _ => exact Or.inr (Or.inl opens.1)
  | raw opens _ _ => exact Or.inr (Or.inl opens.1)
  | lineComment _ _ => exact Or.inr (Or.inr (Or.inl rfl))
  | blockComment _ _ _ => exact Or.inr (Or.inr (Or.inl rfl))
  | code _ => exact Or.inr (Or.inr (Or.inr rfl))

/-- A letter that ends the text of lexemes is code. -/
theorem WereRead.concat_of_letter {ls : List Lexeme} (read : WereRead ls) {t : Text} {a : Char}
    (ends : textOf ls = t ++ [a]) (notQuote : a ≠ Lexis.stringQuote)
    (notDelimiter : Lexis.isDelimiter a = false) (notNewline : a ≠ '\n') :
    ∃ init, ls = init ++ [.code a] ∧ textOf init = t ∧ WereRead init := by
  cases ls using List.reverseRecOn with
  | nil => simp at ends
  | append_singleton init l =>
    obtain ⟨before, rest, follows⟩ := read l (by simp)
    have isLast : l.last = a := by
      have found := getLast?_textOf_concat init l
      rw [ends] at found
      simpa using found.symm
    rcases follows.delimiter with quote | delimiter | newline | code
    · exact absurd (isLast ▸ quote) notQuote
    · rw [isLast, notDelimiter] at delimiter
      exact Bool.noConfusion delimiter
    · exact absurd (isLast ▸ newline) notNewline
    · rw [isLast] at code
      subst code
      refine ⟨init, rfl, ?_, fun l member => read l (List.mem_append_left _ member)⟩
      simpa [Lexeme.text] using ends

/-- An introducer at the end of a text that is given last character first. -/
theorem introducerAtEnd_eq_some_iff {reversed : List Char} {kind : QuoteKind} :
    Lexis.introducerAtEnd reversed = some kind ↔
      ∃ a b tail, reversed = b :: a :: tail ∧ ([a, b], kind) ∈ Lexis.introducers := by
  constructor
  · intro found
    rw [Lexis.introducerAtEnd, Option.map_eq_some_iff] at found
    obtain ⟨entry, found, rfl⟩ := found
    have member := List.mem_of_find?_eq_some found
    have front : entry.1.reverse.isPrefixOf reversed = true := by
      simpa using List.find?_some found
    obtain ⟨tail, rfl⟩ := List.isPrefixOf_iff_prefix.mp front
    have pairs : ∀ p ∈ Lexis.introducers, p.1 = [p.1.headD ' ', p.1.getLastD ' '] := by decide
    have spelled := pairs entry member
    refine ⟨entry.1.headD ' ', entry.1.getLastD ' ', tail, ?_, ?_⟩
    · rw [spelled]
      rfl
    · rw [← spelled]
      exact member
  · rintro ⟨a, b, tail, rfl, member⟩
    simp only [Lexis.introducers, List.mem_cons, Prod.mk.injEq, List.cons.injEq, and_true,
      List.not_mem_nil, or_false] at member
    rcases member with ⟨⟨rfl, rfl⟩, rfl⟩ | ⟨⟨rfl, rfl⟩, rfl⟩ | ⟨⟨rfl, rfl⟩, rfl⟩ <;> rfl

/-- The introducer found at the end of the written text consists of code. -/
theorem WereRead.introducerAtEnd_iff {ls : List Lexeme} (read : WereRead ls)
    {kind : QuoteKind} :
    Lexis.introducerAtEnd (textOf ls).reverse = some kind ↔ Introduced ls kind := by
  have letters : ∀ p ∈ Lexis.introducers, ∀ c ∈ p.1,
      c ≠ Lexis.stringQuote ∧ Lexis.isDelimiter c = false ∧ c ≠ '\n' := by
    simp [Lexis.introducers, Lexis.stringQuote, Lexis.isDelimiter, Lexis.delimiters]
  rw [introducerAtEnd_eq_some_iff]
  constructor
  · rintro ⟨a, b, tail, spelled, member⟩
    have written : textOf ls = (tail.reverse ++ [a]) ++ [b] := by
      rw [← List.reverse_reverse (textOf ls), spelled]
      simp
    have letterA := letters _ member a (by simp)
    have letterB := letters _ member b (by simp)
    obtain ⟨init, rfl, written, read⟩ :=
      read.concat_of_letter written letterB.1 letterB.2.1 letterB.2.2
    obtain ⟨earlier, rfl, -, -⟩ :=
      read.concat_of_letter written letterA.1 letterA.2.1 letterA.2.2
    exact ⟨earlier, a, b, by simp, member⟩
  · rintro ⟨earlier, a, b, rfl, member⟩
    exact ⟨a, b, (textOf earlier).reverse, by simp [Lexeme.text], member⟩

/-! ### The scanner between two lexemes -/

/-- Whether a comment may begin after lexemes. -/
def commentMayFollow (ls : List Lexeme) : Bool :=
  match (textOf ls).getLast? with
  | none => true
  | some c => c == '\n' || Lexis.isGap c || Lexis.isOpenBracket c

theorem commentMayFollow_concat (ls : List Lexeme) (l : Lexeme) :
    commentMayFollow (ls ++ [l]) =
      (l.last == '\n' || Lexis.isGap l.last || Lexis.isOpenBracket l.last) := by
  rw [commentMayFollow, getLast?_textOf_concat]

/-- A comment may begin at the start of a line and after a gap. -/
theorem commentMayFollow_iff {ls : List Lexeme} :
    commentMayFollow ls = true ↔ AtLineStart ls ∨ FollowsGap ls := by
  unfold commentMayFollow AtLineStart FollowsGap
  cases last : (textOf ls).getLast? with
  | none =>
    have empty := List.getLast?_eq_none_iff.mp last
    simp [empty]
  | some c =>
    have nonempty : textOf ls ≠ [] := by
      intro empty
      simp [empty] at last
    simp [nonempty, Lexis.isGap]
    tauto

/-- The context of the scanner between two lexemes.  A raw literal is not known
to be closed yet. -/
def contextAfter (ls : List Lexeme) : Context :=
  match ls.getLast? with
  | some (.raw d _) => .raw d true
  | _ => .code (commentMayFollow ls)

/-- The context that an opening character leads to. -/
def Opening.context (c : Char) : Opening → Context
  | string => .string false
  | escaped => .quoted c false
  | raw => .raw c false
  | lineComment => .lineComment false
  | blockComment => .lineComment true

/-- The stack and the flag of the scanner. -/
def Scanner.nesting (s : Scanner) : Nesting := ⟨s.brackets, s.mismatched⟩

/-- Plain code counts for the brackets only, and a gap or an opening bracket lets
a comment follow. -/
theorem Scanner.readPlain_code (s : Scanner) {commentMayBegin : Bool} {c : Char}
    (notNewline : c ≠ '\n') (notQuote : c ≠ Lexis.stringQuote)
    (notComment : ¬ (c = Lexis.commentMark ∧ commentMayBegin = true)) :
    (s.readPlain commentMayBegin c).context = .code (Lexis.isGap c || Lexis.isOpenBracket c) ∧
      (s.readPlain commentMayBegin c).nesting = s.nesting.read c := by
  rw [readPlain, if_neg notNewline, if_neg notQuote, if_neg notComment]
  cases isOpen : Lexis.isOpenBracket c with
  | true =>
    rw [if_pos rfl, Nesting.read_open _ isOpen]
    simp [nesting]
  | false =>
    rw [if_neg (by decide)]
    cases close : Lexis.isCloseBracket c with
    | false =>
      rw [if_neg (by decide), Nesting.read_plain _ isOpen close]
      simp [nesting, within]
    | true =>
      have noGap : ∀ e ∈ Lexis.closeBrackets, Lexis.isGap e = false := by
        simp [Lexis.closeBrackets, Lexis.isGap]
      have notGap := noGap c (by simpa [Lexis.isCloseBracket] using close)
      rw [if_pos rfl, closeBracket]
      by_cases kind : s.brackets.head? = Lexis.openerFor c
      · rw [if_pos kind, Nesting.read_match _ close kind]
        simp [nesting, notGap]
      · rw [if_neg kind, Nesting.read_mismatch _ close kind]
        simp [nesting, notGap]

/-- The scanner after lexemes, none of which ended a unit. -/
structure Stands (ls : List Lexeme) (s : Scanner) : Prop where
  read : WereRead ls
  written : s.reversed = (textOf ls).reverse
  nesting : s.nesting = nestingOf (codeOf ls)
  context : s.context = contextAfter ls

/-- How one lexeme is read: no unit ends before its last character, and there one
ends exactly when the lexeme surfaces at a newline and the code is settled;
otherwise the scanner stands after one lexeme more. -/
def Steps (ls : List Lexeme) (l : Lexeme) (s : Scanner) : Prop :=
  ∃ u, l.text = u ++ [l.last] ∧ s.Passes u ∧
    (s.feed u).ends l.last = (l.surfaces && (nestingOf (codeOf (ls ++ [l]))).closed) ∧
    ((s.feed u).ends l.last = false → Stands (ls ++ [l]) (s.feed l.text))

/-- A raw literal at the end of the lexemes is not followed by its delimiter. -/
def RawClosed (ls : List Lexeme) (t : Text) : Prop :=
  ∀ d body, ls.getLast? = some (.raw d body) → t.head? ≠ some d

theorem stands_fresh : Stands [] .fresh where
  read _ member := absurd member List.not_mem_nil
  written := rfl
  nesting := rfl
  context := rfl

namespace Stands

variable {ls : List Lexeme} {s : Scanner}

theorem atLineStart_iff (stands : Stands ls s) : s.atLineStart = true ↔ AtLineStart ls := by
  rw [Scanner.atLineStart, stands.written, AtLineStart]
  generalize textOf ls = t
  cases t using List.reverseRecOn with
  | nil => simp
  | append_singleton t c => simp

/-- The next character is read as code, also after a raw literal, which it does
not go on. -/
theorem read_eq (stands : Stands ls s) {c : Char} {t : Text} (closed : RawClosed ls (c :: t)) :
    s.read c = s.readCode (commentMayFollow ls) c := by
  cases ls using List.reverseRecOn with
  | nil =>
    rw [Scanner.read, stands.context]
    rfl
  | append_singleton init l =>
    cases l with
    | raw d body =>
      have other : c ≠ d := by
        have single := closed d body (by simp)
        simpa using single
      obtain ⟨before, rest, follows⟩ := stands.read (.raw d body) (by simp)
      have delimiter : Lexis.isDelimiter d = true := by
        cases follows with
        | raw opens _ _ => exact opens.1
      have flag : commentMayFollow (init ++ [.raw d body]) = false := by
        rw [commentMayFollow_concat]
        exact (Lexis.delimiter_spec delimiter).2.2
      have within : s.context = .raw d true := by rw [stands.context]; simp [contextAfter]
      rw [flag, Scanner.read, within]
      simp [Scanner.readRaw, other]
    | _ =>
      rw [Scanner.read, stands.context]
      simp [contextAfter]

/-- Where no introducer stands before a delimiter, the next character is read as
plain code. -/
theorem read_eq_readPlain (stands : Stands ls s) {c : Char} {t : Text}
    (closed : RawClosed ls (c :: t))
    (plain : ∀ kind, Introduced ls kind → Lexis.isDelimiter c = false) :
    s.read c = s.readPlain (commentMayFollow ls) c := by
  rw [stands.read_eq closed, Scanner.readCode]
  split
  · case isTrue delimiter =>
    cases found : Lexis.introducerAtEnd s.reversed with
    | none => rfl
    | some kind =>
      rw [stands.written, stands.read.introducerAtEnd_iff] at found
      rw [plain kind found] at delimiter
      exact Bool.noConfusion delimiter
  · rfl

/-- An opening character leads into what it opens. -/
theorem read_opening (stands : Stands ls s) {c : Char} {t : Text} {o : Opening}
    (closed : RawClosed ls (c :: t)) (opens : Opens ls c o) :
    s.read c = s.within (o.context c) := by
  have literal {kind : QuoteKind} (delimiter : Lexis.isDelimiter c = true)
      (introduced : Introduced ls kind) :
      s.read c = match kind with
        | .escaped => s.within (.quoted c false)
        | .raw => s.within (.raw c false) := by
    rw [stands.read_eq closed, Scanner.readCode, if_pos delimiter, stands.written,
      stands.read.introducerAtEnd_iff.mpr introduced]
    cases kind <;> rfl
  have comment (mark : c = Lexis.commentMark) (may : AtLineStart ls ∨ FollowsGap ls) :
      s.read c = s.within (.lineComment s.atLineStart) := by
    have noIntroducer : ∀ kind, Introduced ls kind → Lexis.isDelimiter c = false := by
      intro kind introduced
      rcases may with start | gap
      · exact absurd start introduced.no_comment.2
      · exact absurd gap introduced.no_comment.1
    subst mark
    rw [stands.read_eq_readPlain closed noIntroducer, commentMayFollow_iff.mpr may]
    rfl
  cases o with
  | string =>
    obtain rfl : c = Lexis.stringQuote := opens
    rw [stands.read_eq_readPlain closed (fun _ _ => by decide)]
    rfl
  | escaped => exact literal opens.1 opens.2
  | raw => exact literal opens.1 opens.2
  | lineComment =>
    have inside : s.atLineStart = false := by
      simpa using mt stands.atLineStart_iff.mp opens.2.2
    rw [comment opens.1 (Or.inr opens.2.1), inside]
    rfl
  | blockComment =>
    rw [comment opens.1 (Or.inl opens.2), stands.atLineStart_iff.mpr opens.2]
    rfl

/-- A newline between two lexemes is read as code. -/
theorem read_newline (stands : Stands ls s) {t : Text} (closed : RawClosed ls ('\n' :: t)) :
    s.read '\n' = s.resume := by
  rw [stands.read_eq_readPlain closed (fun _ _ => by decide)]
  rfl

/-- A newline between two lexemes ends the unit when the code before it is
settled. -/
theorem ends_newline (stands : Stands ls s) :
    s.ends '\n' = (nestingOf (codeOf ls)).closed := by
  have surfaces : newlineSurfaces s.context = true := by
    rw [stands.context, contextAfter]
    split <;> rfl
  rw [Scanner.ends_newline, surfaces, ← stands.nesting]
  rfl

/-- A character that opens nothing counts for the brackets only. -/
theorem read_plain (stands : Stands ls s) {c : Char} {t : Text}
    (closed : RawClosed ls (c :: t)) (plain : ∀ o, ¬ Opens ls c o) (notNewline : c ≠ '\n') :
    (s.read c).context = .code (Lexis.isGap c || Lexis.isOpenBracket c) ∧
      (s.read c).nesting = s.nesting.read c := by
  have notIntroduced : ∀ kind, Introduced ls kind → Lexis.isDelimiter c = false := by
    intro kind introduced
    by_contra delimiter
    have isDelimiter : Lexis.isDelimiter c = true := by simpa using delimiter
    cases kind with
    | escaped => exact plain .escaped ⟨isDelimiter, introduced⟩
    | raw => exact plain .raw ⟨isDelimiter, introduced⟩
  have notComment : ¬ (c = Lexis.commentMark ∧ commentMayFollow ls = true) := by
    rintro ⟨mark, may⟩
    by_cases start : AtLineStart ls
    · exact plain .blockComment ⟨mark, start⟩
    · rcases commentMayFollow_iff.mp may with start' | gap
      · exact start start'
      · exact plain .lineComment ⟨mark, gap, start⟩
  rw [stands.read_eq_readPlain closed notIntroduced]
  exact s.readPlain_code notNewline (plain .string) notComment

/-! ### One lexeme -/

/-- The first character of a literal or comment leads into it. -/
theorem opened (stands : Stands ls s) {c : Char} {t : Text} {o : Opening}
    (closed : RawClosed ls (c :: t)) (opens : Opens ls c o) (notReturn : c ≠ '\r') :
    s.Traverses [c] (o.context c) :=
  .single notReturn (s.ends_of_ne_newline opens.ne_newline)
    (stands.read_opening closed opens)

/-- A literal is read without a boundary. -/
theorem steps_literal (stands : Stands ls s) {l : Lexeme} {rest u : Text} {k : Context}
    (follows : Follows ls l rest) (noCode : l.code? = none) (stays : l.surfaces = false)
    (split : l.text = u ++ [l.last]) (inside : s.Traverses u k)
    (closes : (s.advance u k).Traverses [l.last] (contextAfter (ls ++ [l]))) :
    Steps ls l s := by
  have traverses : s.Traverses l.text (contextAfter (ls ++ [l])) := by
    rw [split]
    exact inside.append closes
  have goesOn : (s.feed u).ends l.last = false := by
    rw [inside.feed_eq]
    exact closes.passes.1
  have same : codeOf (ls ++ [l]) = codeOf ls := by simp [codeOf, noCode]
  refine ⟨u, split, inside.passes, by rw [goesOn, stays, Bool.false_and], ?_⟩
  intro _
  constructor
  · exact stands.read.concat follows
  · rw [traverses.feed_eq, Scanner.advance, stands.written]
    simp
  · rw [traverses.feed_eq, same, ← stands.nesting]
    rfl
  · rw [traverses.feed_eq]
    rfl

/-- The newline of a comment ends the unit after settled code. -/
theorem steps_comment (stands : Stands ls s) {l : Lexeme} {rest u : Text} {k : Context}
    (follows : Follows ls l rest) (noCode : l.code? = none) (surfaced : l.surfaces = true)
    (comment : l.last = '\n') (split : l.text = u ++ ['\n']) (inside : s.Traverses u k)
    (surfaces : newlineSurfaces k = true)
    (resumes : (s.advance u k).read '\n' = (s.advance u k).resume) : Steps ls l s := by
  have same : codeOf (ls ++ [l]) = codeOf ls := by simp [codeOf, noCode]
  have ends : (s.feed u).ends '\n' = (nestingOf (codeOf (ls ++ [l]))).closed := by
    rw [inside.feed_eq, Scanner.ends_newline, Scanner.advance_context, surfaces, same,
      ← stands.nesting]
    rfl
  refine ⟨u, comment ▸ split, inside.passes, ?_, ?_⟩
  · rw [comment, ends, surfaced, Bool.true_and]
  · intro goesOn
    -- The newline surfaces, so only an open bracket can have kept the unit from ending.
    have stillOpen : (s.advance u k).closed = false := by
      rw [comment, ends, same, ← stands.nesting] at goesOn
      exact goesOn
    have arrives : s.feed l.text = s.advance l.text (.code true) := by
      rw [split, Scanner.feed_append, inside.feed_eq, Scanner.feed_cons, Scanner.feed_nil,
        Scanner.next, if_neg (by decide), resumes, Scanner.resume, stillOpen]
      simp [Scanner.within, Scanner.record, Scanner.advance]
    have target : contextAfter (ls ++ [l]) = .code true := by
      have flag : commentMayFollow (ls ++ [l]) = true := by
        rw [commentMayFollow_concat, comment]
        rfl
      rw [contextAfter, List.getLast?_concat]
      cases follows with
      | raw opens _ _ => exact Bool.noConfusion surfaced
      | _ => rw [← flag]
    constructor
    · exact stands.read.concat follows
    · rw [arrives, Scanner.advance, stands.written]
      simp
    · rw [arrives, same, ← stands.nesting]
      rfl
    · rw [arrives, target]
      rfl

/-- A character of code is read at once. -/
theorem steps_code (stands : Stands ls s) {c : Char} {rest : Text}
    (plain : ∀ o, ¬ Opens ls c o) (closed : RawClosed ls (c :: rest)) (notReturn : c ≠ '\r') :
    Steps ls (.code c) s := by
  have follows : Follows ls (.code c) rest := .code plain
  have nested : nestingOf (codeOf (ls ++ [.code c])) = (nestingOf (codeOf ls)).read c := by
    rw [Lexeme.codeOf_append]
    exact nestingOf_concat _ c
  have arrives : s.feed (Lexeme.code c).text = (s.read c).record c := by
    rw [Lexeme.text, Scanner.feed_cons, Scanner.feed_nil, Scanner.next, if_neg notReturn]
  have written : ((s.read c).record c).reversed = (textOf (ls ++ [.code c])).reverse := by
    rw [Scanner.record, Scanner.read_reversed, stands.written]
    simp [Lexeme.text]
  have target : contextAfter (ls ++ [.code c]) =
      .code (c == '\n' || Lexis.isGap c || Lexis.isOpenBracket c) := by
    rw [contextAfter, List.getLast?_concat, commentMayFollow_concat]
    rfl
  by_cases newline : c = '\n'
  · subst newline
    have same : (nestingOf (codeOf ls)).read '\n' = nestingOf (codeOf ls) :=
      Nesting.read_plain _ (by decide) (by decide)
    refine ⟨[], rfl, trivial, ?_, ?_⟩
    · rw [nested, same]
      exact stands.ends_newline
    · intro goesOn
      have stillOpen : s.closed = false := by
        have ends := stands.ends_newline
        rw [← stands.nesting] at ends
        exact ends.symm.trans goesOn
      have resumed : s.read '\n' = s.within (.code true) := by
        rw [stands.read_newline closed, Scanner.resume, stillOpen]
        rfl
      constructor
      · exact stands.read.concat follows
      · exact arrives ▸ written
      · rw [arrives, resumed, nested, same, ← stands.nesting]
        rfl
      · rw [arrives, resumed, target]
        rfl
  · obtain ⟨context, nesting⟩ := stands.read_plain closed plain newline
    refine ⟨[], rfl, trivial, ?_, ?_⟩
    · have stays : (Lexeme.code c).surfaces = false := by simp [Lexeme.surfaces, newline]
      rw [stays, Bool.false_and]
      exact s.ends_of_ne_newline newline
    · intro _
      constructor
      · exact stands.read.concat follows
      · exact arrives ▸ written
      · rw [arrives, nested, ← stands.nesting, ← nesting]
        rfl
      · rw [arrives, target, beq_eq_false_iff_ne.mpr newline, Bool.false_or, ← context]
        rfl

/-- One lexeme is read. -/
theorem step (stands : Stands ls s) {l : Lexeme} {rest : Text} (follows : Follows ls l rest)
    (closed : RawClosed ls (l.text ++ rest)) (noReturn : '\r' ∉ l.text) : Steps ls l s := by
  have kept := follows
  cases follows with
  | @string body _ valid =>
    obtain ⟨-, noReturn⟩ := List.ne_and_not_mem_of_not_mem_cons noReturn
    have noReturnBody : '\r' ∉ body := fun member => noReturn (List.mem_append_left _ member)
    have opening := stands.opened (o := .string) closed rfl (by decide)
    have inside := opening.append (valid.traverses escapingContexts_string noReturnBody rfl)
    have target : contextAfter (ls ++ [.string body]) = .code false := by
      rw [contextAfter, List.getLast?_concat, commentMayFollow_concat]
      rfl
    refine stands.steps_literal kept rfl rfl rfl inside ?_
    rw [target]
    exact escapingContexts_string.traverses_quote rfl (by decide) (by decide)
  | @escaped d body _ opens valid =>
    obtain ⟨notReturn, noReturn⟩ := List.ne_and_not_mem_of_not_mem_cons noReturn
    have noReturnBody : '\r' ∉ body := fun member => noReturn (List.mem_append_left _ member)
    have delimiter := Lexis.delimiter_spec opens.1
    have opening := stands.opened closed opens notReturn.symm
    have inside := opening.append (valid.traverses (escapingContexts_quoted d) noReturnBody rfl)
    have target : contextAfter (ls ++ [.escaped d body]) = .code false := by
      rw [contextAfter, List.getLast?_concat, commentMayFollow_concat]
      exact congrArg Context.code delimiter.2.2
    refine stands.steps_literal kept rfl rfl rfl inside ?_
    rw [target]
    exact (escapingContexts_quoted d).traverses_quote rfl notReturn.symm delimiter.1
  | @raw d body _ opens valid single =>
    obtain ⟨notReturn, noReturn⟩ := List.ne_and_not_mem_of_not_mem_cons noReturn
    have noReturnBody : '\r' ∉ body := fun member => noReturn (List.mem_append_left _ member)
    have notNewline := (Lexis.delimiter_spec opens.1).2.1
    have opening := stands.opened closed opens notReturn.symm
    have inside := opening.append (valid.traverses notNewline noReturnBody rfl)
    have target : contextAfter (ls ++ [.raw d body]) = .raw d true := by
      rw [contextAfter, List.getLast?_concat]
    have closes : (s.advance (d :: body) (.raw d false)).Traverses [d] (.raw d (!false)) :=
      Scanner.traverses_raw_delimiter rfl notReturn.symm notNewline
    refine stands.steps_literal kept rfl rfl rfl inside ?_
    rw [target]
    exact closes
  | @lineComment body _ opens oneLine =>
    obtain ⟨-, noReturn⟩ := List.ne_and_not_mem_of_not_mem_cons noReturn
    have noReturnBody : '\r' ∉ body := fun member => noReturn (List.mem_append_left _ member)
    have opening := stands.opened closed opens (by decide)
    have inside := opening.append (Scanner.traverses_lineComment rfl noReturnBody oneLine)
    exact stands.steps_comment kept rfl rfl rfl rfl inside rfl rfl
  | @blockComment first _ lines opens oneLine valid =>
    have spelled : (Lexeme.blockComment first lines).text =
        ['/'] ++ (first ++ ['\n'] ++ Text.terminated lines) ++ [Lexis.blockCommentEnd] ++
          ['\n'] := by
      simp [Lexeme.text, Text.terminated, Lexis.commentMark]
    have noReturnFirst : '\r' ∉ first := fun member => noReturn (by simp [spelled, member])
    have noReturnLines : '\r' ∉ Text.terminated lines := fun member =>
      noReturn (by simp [spelled, member])
    -- The lines of the comment from the mark on, then the end mark.
    have opening := stands.opened closed opens (by decide)
    obtain ⟨overLines, atEndLine⟩ :=
      Scanner.traverses_blockComment (s := s.advance ['/'] (.lineComment true)) rfl noReturnFirst
        oneLine valid noReturnLines
    rw [Scanner.advance_advance] at atEndLine
    have upToEnd := opening.append overLines
    have endLine : (s.advance (['/'] ++ (first ++ ['\n'] ++ Text.terminated lines))
        (.blockComment false)).Traverses [Lexis.blockCommentEnd] (.blockComment true) :=
      Scanner.traverses_blockComment_line rfl atEndLine (by decide) (by decide)
    exact stands.steps_comment kept rfl rfl rfl spelled (upToEnd.append endLine) rfl rfl
  | code plain =>
    exact stands.steps_code plain closed
      (fun isReturn => noReturn (by simp [Lexeme.text, isReturn]))

end Stands

/-! ### A literal or comment that does not end -/

/-- No unit ends in an escaped body that breaks off. -/
theorem EscapingContexts.passes_of_unclosed {quote : Char} {k : Bool → Context} {s : Scanner}
    {t : Text} (contexts : EscapingContexts quote k) (within : s.context = k false)
    (noReturn : '\r' ∉ t)
    (unclosed : EscapedBody quote t ∨
      ∃ body, t = body ++ [Lexis.escapeMark] ∧ EscapedBody quote body) : s.Passes t := by
  rcases unclosed with valid | ⟨body, rfl, valid⟩
  · exact (valid.traverses contexts noReturn within).passes
  · have noReturnBody : '\r' ∉ body := fun member => noReturn (List.mem_append_left _ member)
    have upToEscape := valid.traverses contexts noReturnBody within
    exact (upToEscape.append (contexts.traverses_escape rfl)).passes

/-- No unit ends in a literal or comment that does not end. -/
theorem Unclosed.passes {c : Char} {o : Opening} {t : Text} {s : Scanner}
    (unclosed : Unclosed c o t) (within : s.context = o.context c) (notNewline : c ≠ '\n')
    (noReturn : '\r' ∉ t) : s.Passes t := by
  cases o with
  | string => exact escapingContexts_string.passes_of_unclosed within noReturn unclosed
  | escaped => exact (escapingContexts_quoted c).passes_of_unclosed within noReturn unclosed
  | raw => exact (RawBody.traverses unclosed notNewline noReturn within).passes
  | lineComment => exact (Scanner.traverses_lineComment within noReturn unclosed).passes
  | blockComment =>
    rcases unclosed with oneLine | ⟨first, lines, last, rfl, oneLine, valid, oneLast⟩
    · exact (Scanner.traverses_lineComment within noReturn oneLine).passes
    · have noReturnFirst : '\r' ∉ first := fun member => noReturn (by simp [member])
      have noReturnLines : '\r' ∉ Text.terminated lines := fun member =>
        noReturn (by simp [member])
      have noReturnLast : '\r' ∉ last := fun member => noReturn (by simp [member])
      obtain ⟨overLines, atLast⟩ :=
        Scanner.traverses_blockComment within noReturnFirst oneLine valid noReturnLines
      have lastLine := Scanner.traverses_blockComment_line rfl atLast noReturnLast oneLast
      simpa using (overLines.append lastLine).passes

namespace Stands

variable {ls : List Lexeme} {s : Scanner}

/-- No unit ends where no further lexeme can be read. -/
theorem passes_of_stuck (stands : Stands ls s) {t : Text}
    (stuck : ∀ l rest, t = l.text ++ rest → ¬ Follows ls l rest) (closed : RawClosed ls t)
    (noReturn : '\r' ∉ t) : s.Passes t := by
  rcases unclosed_or_nil_of_stuck stuck with rfl | ⟨c, u, o, rfl, opens, unclosed⟩
  · trivial
  · obtain ⟨notReturn, noReturnTail⟩ := List.ne_and_not_mem_of_not_mem_cons noReturn
    have opening := stands.opened closed opens notReturn.symm
    have goesOn := unclosed.passes (s := s.advance [c] (o.context c)) rfl opens.ne_newline
      noReturnTail
    rw [← opening.feed_eq] at goesOn
    exact Scanner.passes_append.mpr ⟨opening.passes, goesOn⟩

end Stands

/-! ### The verdict -/

theorem endsUnit_concat {ls : List Lexeme} {l : Lexeme} :
    EndsUnit (ls ++ [l]) ↔
      (l.surfaces && (nestingOf (codeOf (ls ++ [l]))).closed) = true := by
  rw [Bool.and_eq_true, settled_iff]
  constructor
  · rintro ⟨init, l', split, surfaces, settled⟩
    obtain ⟨rfl, same⟩ := List.append_inj' split rfl
    obtain rfl : l = l' := by simpa using same
    exact ⟨surfaces, settled⟩
  · rintro ⟨surfaces, settled⟩
    exact ⟨ls, l, rfl, surfaces, settled⟩

/-- After a raw literal its delimiter does not follow. -/
theorem Follows.rawClosed {ls : List Lexeme} {l : Lexeme} {rest : Text}
    (follows : Follows ls l rest) : RawClosed (ls ++ [l]) rest := by
  intro d body last
  rw [List.getLast?_concat] at last
  cases follows with
  | raw _ _ single =>
    cases last
    exact single
  | _ => cases last

theorem rawClosed_nil (t : Text) : RawClosed [] t := by
  intro d body last
  cases last

/-- After a lexeme at whose end the unit goes on, the scanner stands after it. -/
theorem Stands.step_of_goesOn {ls : List Lexeme} {s : Scanner} {l : Lexeme} {rest : Text}
    (stands : Stands ls s) (follows : Follows ls l rest) (closed : RawClosed ls (l.text ++ rest))
    (noReturn : '\r' ∉ l.text) (goesOn : ¬ EndsUnit (ls ++ [l])) :
    s.Passes l.text ∧ Stands (ls ++ [l]) (s.feed l.text) := by
  obtain ⟨u, split, passes, ends, arrives⟩ := stands.step follows closed noReturn
  have stays : (s.feed u).ends l.last = false := by
    rw [ends]
    simpa using mt endsUnit_concat.mpr goesOn
  refine ⟨?_, arrives stays⟩
  rw [split]
  exact Scanner.passes_append.mpr ⟨passes, stays, trivial⟩

/-- A lexeme at whose end a unit ends is read up to its newline, and there the
scanner finds the boundary. -/
theorem Stands.step_of_endsUnit {ls : List Lexeme} {s : Scanner} {l : Lexeme} {rest : Text}
    (stands : Stands ls s) (follows : Follows ls l rest) (closed : RawClosed ls (l.text ++ rest))
    (noReturn : '\r' ∉ l.text) (endsUnit : EndsUnit (ls ++ [l])) :
    ∃ u, l.text = u ++ ['\n'] ∧ s.Passes u ∧ (s.feed u).ends '\n' = true ∧
      (s.feed (u ++ ['\n'])).consumed = textOf (ls ++ [l]) := by
  obtain ⟨u, split, passes, ends, -⟩ := stands.step follows closed noReturn
  rw [endsUnit_concat.mp endsUnit] at ends
  have newline := Scanner.eq_newline_of_ends ends
  rw [newline] at split ends
  refine ⟨u, split, passes, ends, ?_⟩
  rw [Scanner.consumed_feed, Scanner.consumed, stands.written, ← split]
  simp [Text.withoutReturns_of_not_mem noReturn]

/-- The lexemes found after `ls` that complete a unit. -/
def Completes (ls unit : List Lexeme) : Prop :=
  unit ≠ [] ∧ EndsUnit (ls ++ unit) ∧
    ∀ earlier, earlier <+: unit → earlier ≠ [] → EndsUnit (ls ++ earlier) → earlier = unit

/-- A lexeme at whose end a unit ends completes it alone. -/
theorem completes_of_endsUnit {ls found unit : List Lexeme} {l : Lexeme}
    (ends : EndsUnit (ls ++ [l])) : (unit <+: l :: found ∧ Completes ls unit) ↔ unit = [l] := by
  constructor
  · rintro ⟨front, nonempty, -, first⟩
    rcases List.prefix_cons_iff.mp front with rfl | ⟨unit, rfl, -⟩
    · exact absurd rfl nonempty
    · exact (first [l] (by simp) (by simp) ends).symm
  · rintro rfl
    refine ⟨by simp, by simp, ends, ?_⟩
    intro earlier front nonempty _
    rcases List.prefix_cons_iff.mp front with rfl | ⟨rest, rfl, short⟩
    · exact absurd rfl nonempty
    · rw [List.prefix_nil.mp short]

/-- A lexeme at whose end no unit ends is followed by those that complete it. -/
theorem completes_cons {ls unit : List Lexeme} {l : Lexeme} (goesOn : ¬ EndsUnit (ls ++ [l])) :
    Completes ls (l :: unit) ↔ Completes (ls ++ [l]) unit := by
  have shift (us : List Lexeme) : ls ++ l :: us = ls ++ [l] ++ us := by simp
  constructor
  · rintro ⟨-, ends, first⟩
    refine ⟨?_, shift unit ▸ ends, ?_⟩
    · rintro rfl
      exact goesOn ends
    · intro earlier front _ earlierEnds
      have same := first (l :: earlier) ((List.prefix_cons_inj l).mpr front) (by simp)
        (shift earlier ▸ earlierEnds)
      exact (List.cons.inj same).2
  · rintro ⟨-, ends, first⟩
    refine ⟨by simp, shift unit ▸ ends, ?_⟩
    intro earlier front nonempty earlierEnds
    rcases List.prefix_cons_iff.mp front with rfl | ⟨rest, rfl, frontRest⟩
    · exact absurd rfl nonempty
    · rw [shift] at earlierEnds
      by_cases empty : rest = []
      · subst empty
        rw [List.append_nil] at earlierEnds
        exact absurd earlierEnds goesOn
      · rw [first rest frontRest empty earlierEnds]

/-- The verdict of a scanner that stands after lexemes tells where the lexemes
that follow complete a unit. -/
theorem Stands.verdict_iff {ls found : List Lexeme} {s : Scanner} {t tail : Text}
    (stands : Stands ls s) (reading : Reading ls t found tail) (closed : RawClosed ls t)
    (noReturn : '\r' ∉ t) (n : Nat) :
    s.verdict t = .complete n ↔
      ∃ unit, unit <+: found ∧ Completes ls unit ∧ n = (textOf (ls ++ unit)).byteLength := by
  -- Along the reading the scanner stands after the lexemes read so far, until one of
  -- them ends the unit.
  induction reading generalizing s with
  | stop stuck =>
    rw [Scanner.verdict_of_passes (stands.passes_of_stuck stuck closed noReturn)]
    constructor
    · intro complete
      cases complete
    · rintro ⟨unit, front, ⟨nonempty, -, -⟩, -⟩
      exact absurd (List.prefix_nil.mp front) nonempty
  | @step ls found l rest tail follows next ih =>
    have noReturnHead : '\r' ∉ l.text := fun member => noReturn (List.mem_append_left _ member)
    have noReturnRest : '\r' ∉ rest := fun member => noReturn (List.mem_append_right _ member)
    by_cases unitEnds : EndsUnit (ls ++ [l])
    · obtain ⟨u, split, passes, ends, written⟩ :=
        stands.step_of_endsUnit follows closed noReturnHead unitEnds
      rw [split, List.append_assoc, List.singleton_append, Scanner.verdict_of_ends passes ends,
        written]
      constructor
      · intro complete
        cases complete
        obtain ⟨front, completes⟩ := (completes_of_endsUnit unitEnds).mpr rfl
        exact ⟨[l], front, completes, rfl⟩
      · rintro ⟨unit, front, completes, rfl⟩
        rw [(completes_of_endsUnit unitEnds).mp ⟨front, completes⟩]
    · obtain ⟨passes, arrives⟩ := stands.step_of_goesOn follows closed noReturnHead unitEnds
      rw [Scanner.verdict_append passes, ih arrives follows.rawClosed noReturnRest]
      constructor
      · rintro ⟨unit, front, completes, rfl⟩
        exact ⟨l :: unit, (List.prefix_cons_inj l).mpr front,
          (completes_cons unitEnds).mpr completes, by simp⟩
      · rintro ⟨unit, front, completes, rfl⟩
        rcases List.prefix_cons_iff.mp front with rfl | ⟨unit, rfl, frontRest⟩
        · exact absurd rfl completes.1
        · exact ⟨unit, frontRest, (completes_cons unitEnds).mp completes, by simp⟩

theorem completes_nil_iff {unit : List Lexeme} : Completes [] unit ↔ IsUnit unit := by
  constructor
  · rintro ⟨-, ends, first⟩
    refine ⟨ends, fun earlier front earlierEnds => first earlier front ?_ earlierEnds⟩
    rintro rfl
    exact not_endsUnit_nil earlierEnds
  · rintro ⟨ends, first⟩
    refine ⟨?_, ends, fun earlier front _ earlierEnds => first earlier front earlierEnds⟩
    rintro rfl
    exact not_endsUnit_nil ends

/-- **The scanner reads the lexemes of the array language.**  A text without its
carriage returns is read as lexemes in exactly one way, up to its end or to a
literal or comment that does not end.  The verdict is complete exactly when the
lexemes at the front form a unit, whose length it then tells, and more input is
needed exactly when they do not. -/
theorem scan_reads_lexemes (t : Text) :
    ∃ found tail, Reading [] (Text.withoutReturns t) found tail ∧
      (∀ found' tail', Reading [] (Text.withoutReturns t) found' tail' →
        found' = found ∧ tail' = tail) ∧
      (∀ n, scan t = .complete n ↔
        ∃ unit, unit <+: found ∧ IsUnit unit ∧ n = (textOf unit).byteLength) ∧
      (scan t = .needMoreInput ↔ ∀ unit, unit <+: found → ¬ EndsUnit unit) := by
  obtain ⟨found, tail, reading⟩ := exists_reading [] (Text.withoutReturns t)
  have noReturn : '\r' ∉ Text.withoutReturns t := by simp [Text.withoutReturns]
  have complete (n : Nat) : scan t = .complete n ↔
      ∃ unit, unit <+: found ∧ IsUnit unit ∧ n = (textOf unit).byteLength := by
    rw [scan, ← Scanner.verdict_withoutReturns,
      stands_fresh.verdict_iff reading (rawClosed_nil _) noReturn]
    simp only [completes_nil_iff, List.nil_append]
  refine ⟨found, tail, reading, fun _ _ => reading.unique, complete, ?_⟩
  constructor
  · intro more unit front ends
    obtain ⟨first, frontFirst, isUnit⟩ := exists_shortest ends
    have ended := (complete _).mpr ⟨first, frontFirst.trans front, isUnit, rfl⟩
    rw [more] at ended
    cases ended
  · intro none
    cases verdict : scan t with
    | needMoreInput => rfl
    | complete n =>
      obtain ⟨unit, front, isUnit, -⟩ := (complete n).mp verdict
      exact absurd isUnit.1 (none unit front)

end StatementShell
