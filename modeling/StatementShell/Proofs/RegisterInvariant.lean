import StatementShell.Proofs.Bracketing
import StatementShell.Proofs.LexicalGrammar
import StatementShell.Proofs.Registers

/-!
# What the registers say about the text

Every register of a scanner is an abbreviation for something about the text that was
fed.  Some say so on their own, as the flag for the start of a line does.  Others say it
only in one kind of context: the end mark is looked for in block comments, and a
delimiter is pending in raw literals.  Such a register must be clear everywhere else,
also where a literal or a comment is left early.  In registers laid down by a scanner it
is, since no other context has it, and what is left to show is about contexts and the
text alone.

That a comment may begin is the one thing that a boundary spoils: up to the first one the
last character tells it.

## Main Definitions

* `Scanner.BorneOut`: what the text tells about context and stack.
* `Registers.Coherent`: what the registers say about the text that was fed.

## Main Results

* `Scanner.BorneOut.next`, `Scanner.borneOut_feed`: one character, and a text.
* `Scanner.commentMayBegin_of_passes`: when a comment may begin.
* `registers_coherent`: the registers after every text.
-/

namespace StatementShell

namespace Scanner

variable {s : Scanner} {c : Char}

/-! ### Ways into a context -/

/-- Code leads neither to the end of a raw literal nor into the lines of a block comment. -/
theorem context_readCode (s : Scanner) (commentMayBegin : Bool) (c : Char) :
    (s.readCode commentMayBegin c).context.closePending = false ∧
      (s.readCode commentMayBegin c).context.kind ≠ .blockComment := by
  have plain : (s.readPlain commentMayBegin c).context.closePending = false ∧
      (s.readPlain commentMayBegin c).context.kind ≠ .blockComment := by
    unfold readPlain closeBracket
    split_ifs <;> exact ⟨rfl, nofun⟩
  unfold readCode
  split
  · split
    · exact ⟨rfl, nofun⟩
    · exact ⟨rfl, nofun⟩
    · exact plain
  · exact plain

/-- A raw literal waits for a doubled delimiter only after the delimiter. -/
theorem eq_of_read_raw {d : Char} (pending : (s.read c).context = .raw d true) : c = d := by
  rcases s.read_cases c with ⟨-, commentMayBegin, read⟩ | ⟨-, -, read⟩ | ⟨k, moves, read⟩
  · have clear := (s.context_readCode commentMayBegin c).1
    rw [← read, pending] at clear
    cases clear
  · rw [read] at pending
    cases pending
  · rw [read] at pending
    obtain rfl : k = .raw d true := pending
    generalize s.context = before at moves
    cases moves with
    | pending delimiter => exact delimiter

/-- The lines of a block comment begin after a newline, and on each of them the flag tells of
the first character that it is the end mark, and of every other that it is not. -/
theorem read_blockComment {loneEndMark : Bool}
    (inside : (s.read c).context = .blockComment loneEndMark) :
    c = '\n' ∧ loneEndMark = false ∨
      c ≠ '\n' ∧ (∃ before, s.context = .blockComment before) ∧
        loneEndMark = decide (c = Lexis.blockCommentEnd ∧ s.atLineStart = true) := by
  rcases s.read_cases c with ⟨-, commentMayBegin, read⟩ | ⟨-, -, read⟩ | ⟨k, moves, read⟩
  · have outside := (s.context_readCode commentMayBegin c).2
    rw [← read, inside] at outside
    exact absurd rfl outside
  · rw [read] at inside
    cases inside
  · rw [read] at inside
    obtain rfl : k = .blockComment loneEndMark := inside
    generalize s.context = before at moves ⊢
    cases moves with
    | firstLine newline | nextLine newline => exact Or.inl ⟨newline, rfl⟩
    | blockComment inLine mark => exact Or.inr ⟨inLine, ⟨_, rfl⟩, mark⟩

/-- Only opening brackets are put on the stack. -/
theorem isOpenBracket_of_mem_read (openOnly : ∀ b ∈ s.brackets, Lexis.isOpenBracket b = true) :
    ∀ b ∈ (s.read c).brackets, Lexis.isOpenBracket b = true := by
  have plain (commentMayBegin : Bool) :
      ∀ b ∈ (s.readPlain commentMayBegin c).brackets, Lexis.isOpenBracket b = true := by
    unfold readPlain closeBracket
    split_ifs
    all_goals first
      | exact openOnly
      | exact List.forall_mem_cons.mpr ⟨‹_›, openOnly⟩
      | exact fun b member => openOnly b (List.mem_of_mem_tail member)
  have code (commentMayBegin : Bool) :
      ∀ b ∈ (s.readCode commentMayBegin c).brackets, Lexis.isOpenBracket b = true := by
    unfold readCode
    repeat' split
    all_goals first
      | exact openOnly
      | exact plain _
  rcases s.read_cases c with ⟨-, _, read⟩ | ⟨-, -, read⟩ | ⟨k, -, read⟩
  · rw [read]
    exact code _
  · rw [read]
    exact openOnly
  · rw [read]
    exact openOnly

/-! ### What the text tells -/

/-- The text bears out what context and stack say. -/
structure BorneOut (s : Scanner) : Prop where
  delimited : s.Delimited
  /-- A raw literal waits after its delimiter. -/
  closePending : ∀ d, s.context = .raw d true → s.reversed.head? = some d
  /-- A block comment has begun, and its flag tells of a line that is the end mark. -/
  blockComment : ∀ flag, s.context = .blockComment flag →
    s.reversed ≠ [] ∧ (flag = true ↔ [Lexis.blockCommentEnd, '\n'] <+: s.reversed)
  openOnly : ∀ b ∈ s.brackets, Lexis.isOpenBracket b = true

theorem borneOut_fresh : fresh.BorneOut where
  delimited := delimited_fresh
  closePending _ pending := nomatch pending
  blockComment _ inside := nomatch inside
  openOnly _ member := nomatch member

theorem BorneOut.next (borneOut : s.BorneOut) (c : Char) : (s.next c).BorneOut := by
  have delimited : (s.next c).Delimited := borneOut.delimited.feed [c]
  unfold Scanner.next at delimited ⊢
  by_cases isReturn : c = '\r'
  · rw [if_pos isReturn]
    exact borneOut
  rw [if_neg isReturn] at delimited ⊢
  have written : ((s.read c).record c).reversed = c :: s.reversed :=
    congrArg (c :: ·) (s.read_reversed c)
  refine ⟨delimited, ?_, ?_, isOpenBracket_of_mem_read borneOut.openOnly⟩
  · intro d pending
    rw [written, List.head?_cons, eq_of_read_raw pending]
  · intro flag inside
    rw [written]
    refine ⟨List.cons_ne_nil c _, ?_⟩
    rcases read_blockComment inside with ⟨rfl, rfl⟩ | ⟨newline, ⟨before, within⟩, rfl⟩
    · simp [Lexis.blockCommentEnd]
    · obtain ⟨last, earlier, split⟩ :=
        List.exists_cons_of_ne_nil (borneOut.blockComment before within).1
      rw [decide_eq_true_iff, atLineStart, split, List.cons_prefix_cons, List.cons_prefix_cons]
      constructor
      · rintro ⟨isMark, newline⟩
        exact ⟨isMark.symm, (eq_of_beq newline).symm, List.nil_prefix⟩
      · rintro ⟨isMark, rfl, -⟩
        exact ⟨isMark.symm, rfl⟩

/-- The text bears out context and stack of every scanner that starts afresh. -/
theorem borneOut_feed (t : Text) : (fresh.feed t).BorneOut := by
  have kept (s : Scanner) (borneOut : s.BorneOut) : (s.feed t).BorneOut := by
    induction t generalizing s with
    | nil => exact borneOut
    | cons c t ih => exact ih (s.next c) (borneOut.next c)
  exact kept fresh borneOut_fresh

/-! ### Where a comment may begin -/

theorem commentMayBegin_readPlain {commentMayBegin flag : Bool}
    (stillOpen : c = '\n' → s.closed = false)
    (inCode : (s.readPlain commentMayBegin c).context = .code flag) :
    flag = (c == '\n' || Lexis.isGap c || Lexis.isOpenBracket c) := by
  by_cases newline : c = '\n'
  · rw [readPlain, if_pos newline, resume, stillOpen newline] at inCode
    cases inCode
    rw [newline]
    rfl
  by_cases quote : c = Lexis.stringQuote
  · rw [readPlain, if_neg newline, if_pos quote] at inCode
    cases inCode
  by_cases comment : c = Lexis.commentMark ∧ commentMayBegin = true
  · rw [readPlain, if_neg newline, if_neg quote, if_pos comment] at inCode
    cases inCode
  · rw [(s.readPlain_code newline quote comment).1] at inCode
    cases inCode
    rw [beq_eq_false_iff_ne.mpr newline, Bool.false_or]

theorem commentMayBegin_readCode {commentMayBegin flag : Bool}
    (stillOpen : c = '\n' → s.closed = false)
    (inCode : (s.readCode commentMayBegin c).context = .code flag) :
    flag = (c == '\n' || Lexis.isGap c || Lexis.isOpenBracket c) := by
  unfold readCode at inCode
  split at inCode
  · split at inCode
    · cases inCode
    · cases inCode
    · exact commentMayBegin_readPlain stillOpen inCode
  · exact commentMayBegin_readPlain stillOpen inCode

/-- Where no unit ends, the character that leads to code tells whether a comment may begin. -/
theorem commentMayBegin_read (delimited : s.Delimited) (goesOn : s.ends c = false) {flag : Bool}
    (inCode : (s.read c).context = .code flag) :
    flag = (c == '\n' || Lexis.isGap c || Lexis.isOpenBracket c) := by
  have stillOpen (surfaces : newlineSurfaces s.context = true) (newline : c = '\n') :
      s.closed = false := by
    rw [newline, ends_newline, surfaces, Bool.true_and] at goesOn
    exact goesOn
  rcases s.read_cases c with
    ⟨surfaces, commentMayBegin, read⟩ | ⟨surfaces, newline, read⟩ | ⟨k, moves, read⟩
  · rw [read] at inCode
    exact commentMayBegin_readCode (stillOpen surfaces) inCode
  · rw [read, resume, stillOpen surfaces newline] at inCode
    cases inCode
    rw [newline]
    rfl
  · rw [read] at inCode
    obtain rfl : k = .code flag := inCode
    unfold Delimited at delimited
    generalize s.context = before at moves delimited
    -- Of the moves only the ends of literals lead to code, and no comment may follow them.
    cases moves with
    | stringEnd quote =>
      rw [quote]
      rfl
    | quotedEnd delimiter =>
      rw [delimiter]
      exact (Lexis.delimiter_spec (delimited _ rfl)).2.2.symm

/-- Up to the first boundary, a comment may begin in code at the start of the text, and after a
newline, a gap or an opening bracket. -/
theorem commentMayBegin_of_passes {t : Text} (passes : fresh.Passes t) {flag : Bool}
    (inCode : (fresh.feed t).context = .code flag) :
    flag = ((fresh.feed t).reversed.head?.elim true fun c =>
      c == '\n' || Lexis.isGap c || Lexis.isOpenBracket c) := by
  induction t using List.reverseRecOn with
  | nil =>
    cases inCode
    rfl
  | append_singleton t c ih =>
    obtain ⟨passes, goesOn, -⟩ := passes_append.mp passes
    rw [feed_append, feed_cons, feed_nil] at inCode ⊢
    unfold next at inCode ⊢
    by_cases isReturn : c = '\r'
    · rw [if_pos isReturn] at inCode ⊢
      exact ih passes inCode
    · rw [if_neg isReturn] at inCode ⊢
      exact commentMayBegin_read (delimited_fresh.feed t) goesOn inCode

/-- No unit ends in a text exactly when no boundary is shown. -/
theorem passes_iff_observations {t : Text} :
    s.Passes t ↔ ∀ o ∈ s.observations t, o.boundary = none := by
  induction t generalizing s with
  | nil => simp [Passes, observations]
  | cons c t ih =>
    rw [Passes, observations, List.forall_mem_cons, ih, observe]
    cases s.ends c <;> simp

end Scanner

/-! ### The registers -/

/-- What registers say about the text and about each other. -/
structure Registers.Coherent (r : Registers) : Prop where
  lineStart : r.lineStart = true ↔ r.written = [] ∨ r.written.getLast? = some '\n'
  delimiter : r.delimiter.isSome = true ↔ r.kind = .quoted ∨ r.kind = .raw
  isDelimiter : ∀ d, r.delimiter = some d → d ∈ Lexis.delimiters
  closePending : r.closePending = true →
    r.kind = .raw ∧ ∃ d, r.delimiter = some d ∧ r.written.getLast? = some d
  escaped : r.escaped = true → r.kind = .string ∨ r.kind = .quoted
  loneEndMark : r.loneEndMark = true ↔
    r.kind = .blockComment ∧ ['\n', Lexis.blockCommentEnd] <:+ r.written
  brackets : ∀ b ∈ r.brackets, b ∈ Lexis.openBrackets

namespace Scanner

variable {s : Scanner}

theorem getLast?_consumed (s : Scanner) : s.consumed.getLast? = s.reversed.head? :=
  List.getLast?_reverse

/-- The registers of a scanner that the text bears out are coherent. -/
theorem BorneOut.coherent (borneOut : s.BorneOut) (remembered : Bool) :
    (s.registers remembered).Coherent where
  lineStart := by
    show s.atLineStart = true ↔ s.consumed = [] ∨ s.consumed.getLast? = some '\n'
    rw [getLast?_consumed, consumed, List.reverse_eq_nil_iff, atLineStart]
    cases s.reversed with
    | nil => simp
    | cons c earlier => simp
  delimiter := by
    show s.context.delimiter?.isSome = true ↔ s.context.kind = .quoted ∨ s.context.kind = .raw
    cases s.context <;> simp [Context.delimiter?, Context.kind]
  isDelimiter := by
    intro d stored
    simpa [Lexis.isDelimiter] using borneOut.delimited d stored
  closePending := by
    show s.context.closePending = true → s.context.kind = .raw ∧
      ∃ d, s.context.delimiter? = some d ∧ s.consumed.getLast? = some d
    intro pending
    rw [getLast?_consumed]
    cases within : s.context with
    | raw d closePending =>
      rw [within] at pending
      obtain rfl : closePending = true := pending
      exact ⟨rfl, d, rfl, borneOut.closePending d within⟩
    | _ =>
      rw [within] at pending
      cases pending
  escaped := by
    show s.context.escaped = true → s.context.kind = .string ∨ s.context.kind = .quoted
    cases s.context <;> simp [Context.escaped, Context.kind]
  loneEndMark := by
    show s.context.loneEndMark = true ↔
      s.context.kind = .blockComment ∧ ['\n', Lexis.blockCommentEnd] <:+ s.reversed.reverse
    cases within : s.context with
    | blockComment loneEndMark =>
      have told := (borneOut.blockComment loneEndMark within).2
      rw [← List.reverse_suffix] at told
      exact told.trans (and_iff_right rfl).symm
    | _ => simp [Context.loneEndMark, Context.kind]
  brackets := by
    intro b member
    simpa [Lexis.isOpenBracket] using borneOut.openOnly b member

/-- Up to the first boundary the registers of the scanner tell whether a comment may begin. -/
theorem commentStart_registers {t : Text} (passes : fresh.Passes t) (remembered : Bool) :
    ((fresh.feed t).registers remembered).commentStart = true ↔
      ((fresh.feed t).registers remembered).kind = .code ∧ ((fresh.feed t).consumed = [] ∨
        ∃ c, (fresh.feed t).consumed.getLast? = some c ∧
          (c = ' ' ∨ c = '\t' ∨ c = '\n' ∨ c ∈ Lexis.openBrackets)) := by
  show (fresh.feed t).context.commentMayBegin = true ↔ (fresh.feed t).context.kind = .code ∧ _
  rw [getLast?_consumed, consumed, List.reverse_eq_nil_iff]
  cases within : (fresh.feed t).context with
  | code flag =>
    have told := commentMayBegin_of_passes passes within
    rw [Context.commentMayBegin, told]
    cases (fresh.feed t).reversed with
    | nil => simp [Context.kind]
    | cons c earlier =>
      simp [Context.kind, Lexis.isGap, Lexis.isOpenBracket]
      tauto
  | _ => simp [Context.commentMayBegin, Context.kind]

/-- A boundary is reported in code, where no bracket is open or one has failed to match. -/
theorem next_registers_of_reports (delimited : s.Delimited) {remembered : Bool} {c : Char} {n : Nat}
    (reports : ((s.registers remembered).next c).2 = some n) :
    ((s.registers remembered).next c).1.kind = .code ∧
      (((s.registers remembered).next c).1.brackets = [] ∨
        ((s.registers remembered).next c).1.mismatched = true) := by
  rw [next_registers s remembered c delimited] at reports ⊢
  have ends : s.ends c = true := by
    by_contra goesOn
    rw [if_neg goesOn] at reports
    cases reports
  have closed : s.closed = true := by
    obtain rfl := eq_newline_of_ends ends
    rw [ends_newline, Bool.and_eq_true] at ends
    exact ends.2
  rw [next_of_ends delimited ends]
  rw [Scanner.closed, Bool.or_eq_true, List.isEmpty_iff] at closed
  exact ⟨rfl, closed⟩

/-- A mismatch is not forgotten. -/
theorem mismatched_feed_registers (delimited : s.Delimited) {remembered : Bool}
    (mismatched : (s.registers remembered).mismatched = true) (u : Text) :
    ((s.registers remembered).feed u).mismatched = true := by
  obtain ⟨later, fed, -⟩ := feed_registers remembered delimited u
  rw [fed]
  by_contra clean
  have before : s.mismatched = false := clean_of_feed (by simpa [registers] using clean)
  exact Bool.noConfusion (before.symm.trans mismatched)

end Scanner

open Scanner (fresh)

/-- **The registers say of every text what they are kept for.**  After any text, also past
boundaries, they are coherent and hold the text without its carriage returns; up to the first
boundary the last character tells whether a comment may begin.  A boundary is reported in code,
where no bracket is open or one has failed to match, and a mismatch is never forgotten.  The
registers are those of the scanner that reads by contexts, and show the same. -/
theorem registers_coherent (t : Text) :
    let r := Registers.initial.feed t
    (r.Coherent ∧ r.written = Text.withoutReturns t) ∧
      ((∀ o ∈ Registers.initial.observations t, o.boundary = none) →
        (r.commentStart = true ↔ r.kind = .code ∧ (r.written = [] ∨
          ∃ c, r.written.getLast? = some c ∧
            (c = ' ' ∨ c = '\t' ∨ c = '\n' ∨ c ∈ Lexis.openBrackets)))) ∧
      (∀ c n, (r.next c).2 = some n → (r.next c).1.kind = .code ∧
        ((r.next c).1.brackets = [] ∨ (r.next c).1.mismatched = true)) ∧
      (r.mismatched = true → ∀ u, (r.feed u).mismatched = true) ∧
      (∃ remembered, r = (fresh.feed t).registers remembered) ∧
      Registers.initial.observations t = fresh.observations t := by
  intro r
  obtain ⟨remembered, reached⟩ : ∃ remembered, r = (fresh.feed t).registers remembered :=
    Registers.feed_initial t
  have shown := Registers.observations_initial t
  have delimited := Scanner.delimited_fresh.feed t
  clear_value r
  subst reached
  refine ⟨⟨(Scanner.borneOut_feed t).coherent remembered, Scanner.consumed_feed fresh t⟩, ?_,
    fun c n => Scanner.next_registers_of_reports delimited,
    Scanner.mismatched_feed_registers delimited, ⟨remembered, rfl⟩, shown⟩
  intro noBoundary
  rw [shown, ← Scanner.passes_iff_observations] at noBoundary
  exact Scanner.commentStart_registers noBoundary remembered

/-- After a block comment inside of a bracket a comment may begin again, and no boundary was
reported; before the newline that ends it, the flag for the end mark was set. -/
theorem registers_after_block_comment :
    (∀ o ∈ Registers.initial.observations "(1 \r\n/x\n\\\n".toList, o.boundary = none) ∧
      (Registers.initial.feed "(1 \r\n/x\n\\\n".toList).commentStart = true ∧
      (Registers.initial.feed "(1 \r\n/x\n\\".toList).loneEndMark = true ∧
      ['\n', '\\'] <:+ (Registers.initial.feed "(1 \r\n/x\n\\".toList).written := by
  have noBoundary :
      ∀ o ∈ Registers.initial.observations "(1 \r\n/x\n\\\n".toList, o.boundary = none := by
    decide
  have endMark : (Registers.initial.feed "(1 \r\n/x\n\\".toList).loneEndMark = true := by decide
  obtain ⟨-, commentStart, -⟩ := registers_coherent "(1 \r\n/x\n\\\n".toList
  obtain ⟨⟨coherent, -⟩, -⟩ := registers_coherent "(1 \r\n/x\n\\".toList
  refine ⟨noBoundary, (commentStart noBoundary).mpr ⟨by decide, Or.inr ⟨'\n', by decide⟩⟩, endMark,
    (coherent.loneEndMark.mp endMark).2⟩

end StatementShell
