import StatementShell.Proofs.SessionHistory
import StatementShell.Proofs.SqlTokenization

/-!
# Painting keeps the text

A buffer is painted by one of four painters: without colours and for a system command as
a single segment, and otherwise by the one of the active language.  Each puts the text
together again from pieces of its own.  The painter of the array language works character by
character, also where the scanner starts afresh or skips a carriage return, and appends each
character to the segment before it as long as the style is the same; the one of the SQL dialect
works token by token.  This module says that the pieces are the buffer in all cases, and that
the editor may repaint it as often as it likes.

## Main Definitions

* `Segment.push`: one more character at the end of segments.

## Main Results

* `Segment.foldl_push`: characters appended one by one are merged as `Segment.ofChars` does.
* `plainText_highlight`: the segments of a buffer are the buffer.
* `exists_chars_highlight_array`: in the array language its characters were appended in order.
* `Session.segments_afterAll`: they depend on nothing but the mode.
* `highlight_keeps_text`: what holds of every repaint.
-/

namespace StatementShell

/-! ### Appending characters -/

namespace Segment

/-- One more character at the end of segments; it joins the last one if that has its
style. -/
def push (segments : List Segment) (char : Style × Char) : List Segment :=
  match segments with
  | [] => [⟨char.1, [char.2]⟩]
  | [last] =>
    if last.style = char.1 then [⟨last.style, last.text ++ [char.2]⟩]
    else [last, ⟨char.1, [char.2]⟩]
  | segment :: next :: segments => segment :: push (next :: segments) char

/-- Merging goes on at the end as `push` does. -/
theorem ofChars_concat (chars : List (Style × Char)) (char : Style × Char) :
    ofChars (chars ++ [char]) = push (ofChars chars) char := by
  obtain ⟨next, d⟩ := char
  induction chars with
  | nil => rfl
  | cons head rest ih =>
    obtain ⟨style, c⟩ := head
    rw [List.cons_append, ofChars, ih, ofChars]
    cases ofChars rest with
    | nil =>
      by_cases same : next = style
      · simp [push, same]
      · simp [push, same, Ne.symm same]
    | cons segment segments =>
      obtain ⟨first, text⟩ := segment
      by_cases same : first = style
      · subst same
        -- The first segment is the last one where there is no other.
        cases segments with
        | nil => by_cases joins : first = next <;> simp [push, joins]
        | cons => simp [push]
      · cases segments with
        | nil =>
          by_cases joins : first = next
          · subst joins
            simp [push, same]
          · simp [push, joins, same]
        | cons => simp [push, same]

/-- Characters appended one by one are merged. -/
theorem foldl_push (chars : List (Style × Char)) : chars.foldl push [] = ofChars chars := by
  induction chars using List.reverseRecOn with
  | nil => rfl
  | append_singleton chars char ih => rw [List.foldl_concat, ih, ofChars_concat]

/-- Characters of one style are one segment. -/
theorem ofChars_paint (style : Style) {t : Text} (nonempty : t ≠ []) :
    ofChars (style.paint t) = [⟨style, t⟩] := by
  induction t with
  | nil => exact absurd rfl nonempty
  | cons c rest ih =>
    cases rest with
    | nil => rfl
    | cons d rest =>
      have painted : style.paint (c :: d :: rest) = (style, c) :: style.paint (d :: rest) := rfl
      rw [painted, ofChars, ih (List.cons_ne_nil d rest)]
      exact if_pos rfl

end Segment

/-! ### The four painters -/

/-- The segments of a buffer are the buffer. -/
theorem plainText_highlight (m : Mode) (colors : Bool) (t : Text) :
    Segment.plainText (highlight m colors t) = t := by
  have single (style : Style) : Segment.plainText [⟨style, t⟩] = t := List.append_nil t
  cases colors with
  | false => exact single _
  | true =>
    by_cases spells : SpellsCommand t
    · rw [spells.highlight_eq]
      exact single _
    · have noCommand := mt spellsCommand_iff_isSystemCommand.mpr spells
      cases m with
      | array =>
        rw [highlight_array noCommand, Highlight.arraySegments, Segment.plainText_ofChars]
        exact Highlight.map_snd_paintFrom .fresh t
      | sql =>
        rw [highlight_sql noCommand]
        exact Highlight.plainText_sqlSegments t

/-- With colours no segment is empty. -/
theorem text_ne_nil_of_mem_highlight {m : Mode} {t : Text} {segment : Segment}
    (member : segment ∈ highlight m true t) : segment.text ≠ [] := by
  by_cases spells : SpellsCommand t
  · rw [spells.highlight_eq, List.mem_singleton] at member
    subst member
    obtain ⟨rest, rfl⟩ := List.head?_eq_some_iff.mp spells.2
    exact List.cons_ne_nil _ rest
  · have noCommand := mt spellsCommand_iff_isSystemCommand.mpr spells
    cases m with
    | array =>
      rw [highlight_array noCommand] at member
      exact (merged_ofChars _).nonempty segment member
    | sql =>
      rw [highlight_sql noCommand] at member
      obtain ⟨token, found, rfl⟩ := List.mem_map.mp member
      exact (Highlight.tokenized_sqlTokens t).orderly.nonempty token found

/-- In the array language the segments are the characters of the buffer, appended one by one
with their styles. -/
theorem exists_chars_highlight_array (t : Text) :
    ∃ chars : List (Style × Char), chars.map (·.2) = t ∧
      highlight .array true t = chars.foldl Segment.push [] := by
  by_cases spells : SpellsCommand t
  · obtain ⟨rest, rfl⟩ := List.head?_eq_some_iff.mp spells.2
    refine ⟨Style.paint (.boldly .magenta) (Lexis.systemCommandMark :: rest), ?_, ?_⟩
    · simp [Style.paint, Function.comp_def]
    · rw [spells.highlight_eq, Segment.foldl_push, Segment.ofChars_paint _ (List.cons_ne_nil _ _)]
  · refine ⟨Highlight.arrayChars t, Highlight.map_snd_paintFrom .fresh t, ?_⟩
    rw [highlight_array (mt spellsCommand_iff_isSystemCommand.mpr spells), Segment.foldl_push]
    rfl

/-! ### Repainting -/

namespace Session

/-- No operation changes the display settings. -/
theorem display_after (s : Session) (operation : Operation) :
    (s.after operation).display = s.display := by
  cases operation with
  | process buffer =>
    rw [after, process]
    cases dispatch s.mode buffer <;> rfl
  | _ => rfl

theorem display_afterAll (s : Session) (history : List Operation) :
    (s.afterAll history).display = s.display := by
  induction history using List.reverseRecOn with
  | nil => rfl
  | append_singleton history operation ih => rw [afterAll_concat, display_after, ih]

/-- After a history that sets no mode a buffer is painted as it was before, wherever the
cursor is. -/
theorem segments_afterAll (s : Session) {history : List Operation}
    (setsNone : ∀ operation ∈ history, operation.mode? = none) (t : Text)
    (offset offset' : Nat) :
    ((s.afterAll history).highlight t offset').2 = (s.highlight t offset).2 := by
  have mode : (s.afterAll history).mode = s.mode := by
    rw [mode_afterAll, lastMode, List.filterMap_eq_nil_iff.mpr setsNone]
    rfl
  rw [highlight, highlight, mode, display_afterAll]

end Session

/-- **Painting never changes the text.**  In every mode and with every display setting the
segments shown for a buffer are the buffer.  They depend neither on the cursor nor on what was
done before, as long as no mode was set; recording a cursor and repainting a buffer set none.
With colours and highlighting on no segment is empty, and in the array language the characters
are appended one by one, each once and in order, and neighbouring segments differ in style. -/
theorem highlight_keeps_text (s : Session) (t : Text) (offset : Nat) :
    Segment.plainText (s.highlight t offset).2 = t ∧
      (∀ history : List Session.Operation, (∀ operation ∈ history, operation.mode? = none) →
        ∀ offset', ((s.afterAll history).highlight t offset').2 = (s.highlight t offset).2) ∧
      (s.display.syntaxHighlighting = true ∧ s.display.colorOutput = true →
        (∀ segment ∈ (s.highlight t offset).2, segment.text ≠ []) ∧
        (s.mode = .array →
          (∃ chars : List (Style × Char), chars.map (·.2) = t ∧
            (s.highlight t offset).2 = chars.foldl Segment.push []) ∧
          (s.highlight t offset).2.IsChain fun segment next => segment.style ≠ next.style)) := by
  refine ⟨plainText_highlight .., ?_, ?_⟩
  · intro history setsNone offset'
    exact s.segments_afterAll setsNone t offset offset'
  · intro shown
    rw [s.segments_eq t offset shown]
    refine ⟨fun _ => text_ne_nil_of_mem_highlight, ?_⟩
    intro arrayMode
    obtain ⟨chars, keeps, appended⟩ := exists_chars_highlight_array t
    rw [arrayMode]
    refine ⟨⟨chars, keeps, appended⟩, ?_⟩
    rw [appended, Segment.foldl_push]
    exact (merged_ofChars chars).differ

/-- A bracket that closes nothing in each of two units, a carriage return, and a string with
a character of two bytes that is left open; repainted after the cursor was elsewhere. -/
theorem highlight_keeps_return_and_open_string :
    let s := Session.start .array ⟨true, true⟩ .standard
    let t := ")\r\n)\"é".toList
    let history : List Session.Operation := [.highlight "x".toList 1, .recordCursor t 9]
    (s.highlight t 0).2 =
        [⟨.boldly .red, [')']⟩, ⟨.plain, ['\r', '\n']⟩, ⟨.boldly .red, [')']⟩,
          ⟨.colored .yellow, ['"', 'é']⟩] ∧
      (∀ operation ∈ history, operation.mode? = none) ∧
      Segment.plainText (s.highlight t 0).2 = t ∧
      ((s.afterAll history).highlight t 3).2 = (s.highlight t 0).2 ∧
      (∀ segment ∈ (s.highlight t 0).2, segment.text ≠ []) ∧
      (s.highlight t 0).2.IsChain fun segment next => segment.style ≠ next.style := by
  intro s t history
  have setsNone : ∀ operation ∈ history, operation.mode? = none := by decide
  obtain ⟨keeps, repaints, inColours⟩ := highlight_keeps_text s t 0
  obtain ⟨nonempty, inArray⟩ := inColours ⟨rfl, rfl⟩
  exact ⟨by decide, setsNone, keeps, repaints history setsNone 3, nonempty, (inArray rfl).2⟩

end StatementShell
