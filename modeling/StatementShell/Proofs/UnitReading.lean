import StatementShell.Proofs.LexicalGrammar

/-!
# Reading a text unit by unit

A text of several units is read as lexemes unit by unit: where the lexemes read so
far end a unit, the next lexeme is read as the first of a text.  What opens a comment
at the start of a text therefore opens one at the start of a unit, and the brackets
of one unit do not count in the next.

## Main Definitions

* `UnitReading`: the units that a text completes, and the lexemes and the rest of
  what it leaves unfinished.

## Main Results

* `UnitReading.unique`, `exists_unitReading`: every text is read in exactly one way.
* `UnitReading.shortest`: each unit ends where one can end first.
* `cut_reads_units`: the scanner cuts a text into the units it is read as.
-/

namespace StatementShell

open Lexeme (textOf codeOf)

/-- A text read unit by unit, where the lexemes `before` of its first unit have been
read: the units that are completed, the lexemes found after the last of them, and what
is left where no further lexeme can be read. -/
inductive UnitReading :
    List Lexeme → Text → List (List Lexeme) → List Lexeme → Text → Prop where
  | stop {before : List Lexeme} {t : Text}
      (stuck : ∀ l rest, t = l.text ++ rest → ¬ Follows before l rest) :
      UnitReading before t [] before t
  /-- A lexeme at whose end the unit goes on. -/
  | step {before found : List Lexeme} {units : List (List Lexeme)} {l : Lexeme}
      {rest tail : Text} (follows : Follows before l rest) (goesOn : ¬ EndsUnit (before ++ [l]))
      (next : UnitReading (before ++ [l]) rest units found tail) :
      UnitReading before (l.text ++ rest) units found tail
  /-- A lexeme that completes the unit; the text after it is read afresh. -/
  | complete {before found : List Lexeme} {units : List (List Lexeme)} {l : Lexeme}
      {rest tail : Text} (follows : Follows before l rest) (ends : EndsUnit (before ++ [l]))
      (next : UnitReading [] rest units found tail) :
      UnitReading before (l.text ++ rest) ((before ++ [l]) :: units) found tail

/-! ### Every text is read in exactly one way -/

/-- A text is read in one way only. -/
theorem UnitReading.unique {before found found' : List Lexeme} {t tail tail' : Text}
    {units units' : List (List Lexeme)} (reading : UnitReading before t units found tail)
    (reading' : UnitReading before t units' found' tail') :
    units' = units ∧ found' = found ∧ tail' = tail := by
  induction reading generalizing units' with
  | @stop before t stuck =>
    generalize same : t = t' at reading'
    cases reading' with
    | stop _ => exact ⟨rfl, rfl, rfl⟩
    | step follows _ _ | complete follows _ _ => exact absurd follows (stuck _ _ same)
  | @step before found units l rest tail follows goesOn _ ih =>
    generalize same : l.text ++ rest = t' at reading'
    cases reading' with
    | stop stuck => exact absurd follows (stuck _ _ same.symm)
    | step follows' _ next' =>
      obtain rfl := follows.unique follows' same
      obtain rfl := List.append_cancel_left same
      exact ih next'
    | complete follows' ends _ =>
      obtain rfl := follows.unique follows' same
      exact absurd ends goesOn
  | @complete before found units l rest tail follows ends _ ih =>
    generalize same : l.text ++ rest = t' at reading'
    cases reading' with
    | stop stuck => exact absurd follows (stuck _ _ same.symm)
    | step follows' goesOn _ =>
      obtain rfl := follows.unique follows' same
      exact absurd ends goesOn
    | complete follows' _ next' =>
      obtain rfl := follows.unique follows' same
      obtain rfl := List.append_cancel_left same
      obtain ⟨rfl, others⟩ := ih next'
      exact ⟨rfl, others⟩

/-- Every text can be read after any lexemes. -/
theorem exists_unitReading (before : List Lexeme) (t : Text) :
    ∃ units found tail, UnitReading before t units found tail := by
  induction length : t.length using Nat.strongRecOn generalizing before t with
  | ind n ih =>
    by_cases next : ∃ l rest, t = l.text ++ rest ∧ Follows before l rest
    · obtain ⟨l, rest, rfl, follows⟩ := next
      have shorter : rest.length < n := length ▸ l.length_lt_append rest
      by_cases ends : EndsUnit (before ++ [l])
      · obtain ⟨units, found, tail, reading⟩ := ih rest.length shorter [] rest rfl
        exact ⟨_, _, _, .complete follows ends reading⟩
      · obtain ⟨units, found, tail, reading⟩ := ih rest.length shorter (before ++ [l]) rest rfl
        exact ⟨_, _, _, .step follows ends reading⟩
    · refine ⟨[], before, t, .stop ?_⟩
      intro l rest split follows
      exact next ⟨l, rest, split, follows⟩

/-! ### The units -/

/-- Lexemes at no front of which a unit ends. -/
def Unended (ls : List Lexeme) : Prop := ∀ front, front <+: ls → ¬ EndsUnit front

theorem unended_nil : Unended [] := by
  intro front within
  rw [List.prefix_nil.mp within]
  exact not_endsUnit_nil

theorem Unended.concat {ls : List Lexeme} {l : Lexeme} (unended : Unended ls)
    (goesOn : ¬ EndsUnit (ls ++ [l])) : Unended (ls ++ [l]) := by
  intro front within
  rcases List.prefix_concat_iff.mp within with rfl | earlier
  · exact goesOn
  · exact unended front earlier

/-- Each unit ends where one can end first, and in what is left none ends. -/
theorem UnitReading.shortest {before found : List Lexeme} {t tail : Text}
    {units : List (List Lexeme)} (reading : UnitReading before t units found tail)
    (unended : Unended before) : (∀ unit ∈ units, IsUnit unit) ∧ Unended found := by
  induction reading with
  | stop _ => exact ⟨fun _ member => absurd member List.not_mem_nil, unended⟩
  | step _ goesOn _ ih => exact ih (unended.concat goesOn)
  | @complete before found units l rest tail _ ends _ ih =>
    obtain ⟨later, unfinished⟩ := ih unended_nil
    refine ⟨?_, unfinished⟩
    intro unit member
    rcases List.mem_cons.mp member with rfl | member
    · refine ⟨ends, ?_⟩
      intro front within frontEnds
      rcases List.prefix_concat_iff.mp within with whole | earlier
      · exact whole
      · exact absurd frontEnds (unended front earlier)
    · exact later unit member

/-! ### The cuts of the scanner -/

/-- A scanner that stands after lexemes cuts the text that follows into the units it
is read as. -/
theorem Stands.cut_eq {before found : List Lexeme} {s : Scanner} {t tail : Text}
    {units : List (List Lexeme)} (stands : Stands before s)
    (reading : UnitReading before t units found tail) (closed : RawClosed before t)
    (noReturn : '\r' ∉ t) :
    (s.cut t).units = units.map textOf ∧ (s.cut t).last.consumed = textOf found ++ tail := by
  induction reading generalizing s with
  | @stop before t stuck =>
    rw [Scanner.cut_of_passes (stands.passes_of_stuck stuck closed noReturn)]
    refine ⟨rfl, ?_⟩
    rw [Scanner.consumed_feed, Scanner.consumed, stands.written, List.reverse_reverse,
      Text.withoutReturns_of_not_mem noReturn]
  | @step before found units l rest tail follows goesOn _ ih =>
    have noReturnHead : '\r' ∉ l.text := fun member => noReturn (List.mem_append_left _ member)
    have noReturnRest : '\r' ∉ rest := fun member => noReturn (List.mem_append_right _ member)
    obtain ⟨passes, arrives⟩ := stands.step_of_goesOn follows closed noReturnHead goesOn
    rw [Scanner.cut_append passes]
    exact ih arrives follows.rawClosed noReturnRest
  | @complete before found units l rest tail follows ends _ ih =>
    have noReturnHead : '\r' ∉ l.text := fun member => noReturn (List.mem_append_left _ member)
    have noReturnRest : '\r' ∉ rest := fun member => noReturn (List.mem_append_right _ member)
    obtain ⟨u, split, passes, ended, written⟩ :=
      stands.step_of_endsUnit follows closed noReturnHead ends
    obtain ⟨later, unfinished⟩ := ih stands_fresh (rawClosed_nil _) noReturnRest
    rw [split, List.append_assoc, List.singleton_append, Scanner.cut_of_ends passes ended, written]
    exact ⟨by rw [later]; rfl, unfinished⟩

/-- **The scanner cuts a text into the units it is read as.**  A text without its
carriage returns is read unit by unit in exactly one way; every unit is one, the text
left behind completes none, and these are the cuts of the scanner. -/
theorem cut_reads_units (t : Text) :
    ∃ units found tail, UnitReading [] (Text.withoutReturns t) units found tail ∧
      (∀ units' found' tail', UnitReading [] (Text.withoutReturns t) units' found' tail' →
        units' = units ∧ found' = found ∧ tail' = tail) ∧
      (∀ unit ∈ units, IsUnit unit) ∧ Unended found ∧
      (cut t).units = units.map textOf ∧ (cut t).last.consumed = textOf found ++ tail := by
  obtain ⟨units, found, tail, reading⟩ := exists_unitReading [] (Text.withoutReturns t)
  have noReturn : '\r' ∉ Text.withoutReturns t := by simp [Text.withoutReturns]
  obtain ⟨isUnit, unended⟩ := reading.shortest unended_nil
  have cuts := stands_fresh.cut_eq reading (rawClosed_nil _) noReturn
  rw [Scanner.cut_withoutReturns] at cuts
  exact ⟨units, found, tail, reading, fun _ _ _ => reading.unique, isUnit, unended, cuts⟩

end StatementShell
