import StatementShell.Proofs.Traversal

/-!
# Lines written and read back

A run of lines is written in two ways: joined, as an edit buffer holds it, and
terminated, as the scanner reads it.  Both are undone as long as no line holds a
newline, and the lines of a script never do.

## Main Definitions

* `Text.NewlineFree`: no line holds a newline.
* `Text.Finished`: a text without an unfinished line.

## Main Results

* `Text.newlineFree_lines`: the lines of a script hold no newline.
* `Text.bufferLines_join`: a joined run is cut into its lines again.
* `Text.lineInduction`: texts are built line by line.
* `Text.Finished.lines_append`: the lines of scripts put one after the other.
* `Text.terminated_split`: a newline of a terminated run is the end of a line.
-/

namespace StatementShell.Text

/-- No line holds a newline. -/
def NewlineFree (lines : List Text) : Prop := ∀ line ∈ lines, '\n' ∉ line

theorem newlineFree_cons {line : Text} {lines : List Text} :
    NewlineFree (line :: lines) ↔ '\n' ∉ line ∧ NewlineFree lines := by
  simp [NewlineFree]

theorem newlineFree_append {lines later : List Text} :
    NewlineFree (lines ++ later) ↔ NewlineFree lines ∧ NewlineFree later := by
  simp only [NewlineFree, List.mem_append, or_imp, forall_and]

/-! ### The lines of a script -/

theorem newlineFree_bufferLines (t : Text) : NewlineFree (bufferLines t) := by
  induction t with
  | nil => simp [bufferLines, NewlineFree]
  | cons c rest ih =>
    by_cases newline : c = '\n'
    · subst newline
      rw [bufferLines_newline, newlineFree_cons]
      exact ⟨by simp, ih⟩
    · rw [bufferLines, if_neg newline]
      split
      · simpa [NewlineFree] using Ne.symm newline
      · case h_2 line lines pieces =>
        rw [pieces, newlineFree_cons] at ih
        rw [newlineFree_cons]
        refine ⟨?_, ih.2⟩
        simpa [Ne.symm newline] using ih.1

theorem newline_not_mem_dropFinalReturn {line : Text} (newlineFree : '\n' ∉ line) :
    '\n' ∉ dropFinalReturn line := by
  unfold dropFinalReturn
  split
  · exact fun member => newlineFree ((List.dropLast_subset line) member)
  · exact newlineFree

theorem newlineFree_closeLines {pieces : List Text} (newlineFree : NewlineFree pieces) :
    NewlineFree (closeLines pieces) := by
  induction pieces with
  | nil => exact newlineFree
  | cons piece pieces ih =>
    cases pieces with
    | nil =>
      unfold closeLines
      split
      · exact List.forall_mem_nil _
      · exact newlineFree
    | cons next rest =>
      rw [newlineFree_cons] at newlineFree
      rw [closeLines, newlineFree_cons]
      exact ⟨newline_not_mem_dropFinalReturn newlineFree.1, ih newlineFree.2⟩

/-- The lines of a script hold no newline. -/
theorem newlineFree_lines (t : Text) : NewlineFree t.lines :=
  newlineFree_closeLines (newlineFree_bufferLines t)

/-! ### Joined runs -/

theorem bufferLines_of_not_mem {line : Text} (oneLine : '\n' ∉ line) :
    bufferLines line = [line] := by
  induction line with
  | nil => rfl
  | cons c line ih =>
    obtain ⟨other, oneLine⟩ := List.ne_and_not_mem_of_not_mem_cons oneLine
    rw [bufferLines, if_neg other.symm, ih oneLine]

/-- A buffer is cut at every newline, so its lines may be cut off at any of them. -/
theorem bufferLines_append (t rest : Text) :
    bufferLines (t ++ '\n' :: rest) = bufferLines t ++ bufferLines rest := by
  induction t with
  | nil => exact bufferLines_newline rest
  | cons c t ih =>
    by_cases newline : c = '\n'
    · subst newline
      rw [List.cons_append, bufferLines_newline, bufferLines_newline, ih, List.cons_append]
    · rw [List.cons_append, bufferLines, if_neg newline, bufferLines, if_neg newline, ih]
      cases pieces : bufferLines t with
      | nil => exact absurd pieces (bufferLines_ne_nil t)
      | cons line lines => rfl

theorem bufferLines_append_newline {line : Text} (oneLine : '\n' ∉ line) (rest : Text) :
    bufferLines (line ++ '\n' :: rest) = line :: bufferLines rest := by
  rw [bufferLines_append, bufferLines_of_not_mem oneLine, List.singleton_append]

/-- A joined run is cut into its lines again. -/
theorem bufferLines_join {run : List Text} (some : run ≠ []) (newlineFree : NewlineFree run) :
    bufferLines (join run) = run := by
  induction run with
  | nil => exact absurd rfl some
  | cons line run ih =>
    rw [newlineFree_cons] at newlineFree
    cases run with
    | nil => exact bufferLines_of_not_mem newlineFree.1
    | cons next run =>
      rw [join, bufferLines_append_newline newlineFree.1, ih (by simp) newlineFree.2]

/-- Texts are built line by line: what holds of a text without newlines, and of a text
with one more line in front, holds of every text. -/
@[elab_as_elim]
theorem lineInduction {P : Text → Prop} (t : Text) (last : ∀ line, '\n' ∉ line → P line)
    (more : ∀ line rest, '\n' ∉ line → P rest → P (line ++ '\n' :: rest)) : P t := by
  have joined : ∀ pieces, pieces ≠ [] → NewlineFree pieces → P (join pieces) := by
    intro pieces some newlineFree
    induction pieces with
    | nil => exact absurd rfl some
    | cons line pieces ih =>
      rw [newlineFree_cons] at newlineFree
      cases pieces with
      | nil => exact last line newlineFree.1
      | cons next pieces => exact more line _ newlineFree.1 (ih (by simp) newlineFree.2)
  have whole := joined (bufferLines t) (bufferLines_ne_nil t) (newlineFree_bufferLines t)
  rwa [join_bufferLines] at whole

/-! ### Scripts put one after the other -/

/-- A text without an unfinished line: it is empty or ends with a newline. -/
def Finished (t : Text) : Prop := t = [] ∨ t.getLast? = some '\n'

theorem closeLines_append (pieces : List Text) {later : List Text} (some : later ≠ []) :
    closeLines (pieces ++ later) = pieces.map dropFinalReturn ++ closeLines later := by
  induction pieces with
  | nil => rfl
  | cons piece pieces ih =>
    obtain ⟨next, rest, split⟩ :=
      List.exists_cons_of_ne_nil (List.append_ne_nil_of_right_ne_nil pieces some)
    rw [List.cons_append, split, closeLines, ← split, ih, List.map_cons, List.cons_append]

/-- The lines of a script may be cut off at any newline. -/
theorem lines_append_newline (t rest : Text) :
    lines (t ++ '\n' :: rest) = (bufferLines t).map dropFinalReturn ++ lines rest := by
  rw [lines, bufferLines_append, closeLines_append _ (bufferLines_ne_nil rest)]
  rfl

theorem lines_concat_newline (t : Text) :
    lines (t ++ ['\n']) = (bufferLines t).map dropFinalReturn := by
  rw [lines_append_newline]
  exact List.append_nil _

/-- The lines of a script that follows another are its own. -/
theorem Finished.lines_append {t : Text} (finished : t.Finished) (rest : Text) :
    lines (t ++ rest) = lines t ++ lines rest := by
  rcases finished with rfl | ended
  · rfl
  · obtain ⟨front, rfl⟩ := List.getLast?_eq_some_iff.mp ended
    rw [lines_concat_newline, List.append_assoc]
    exact lines_append_newline front rest

/-! ### Runs of lines -/

/-- A joined run is read as as many lines as it has, unless its last line is empty. -/
theorem length_lines_join {run : List Text} (newlineFree : NewlineFree run)
    (ends : run.getLast? ≠ some []) (nonempty : run ≠ []) :
    (join run).lines.length = run.length := by
  rw [lines, bufferLines_join nonempty newlineFree]
  rcases List.eq_nil_or_concat run with rfl | ⟨init, last, rfl⟩
  · rfl
  · have shown : last ≠ [] := by simpa using ends
    rw [List.concat_eq_append, closeLines_append init (List.cons_ne_nil last [])]
    simp [closeLines, shown]

/-- A run whose first line is not blank is not blank. -/
theorem isBlank_join_of_head {line : Text} (nonblank : line.isBlank = false) (more : List Text) :
    (join (line :: more)).isBlank = false := by
  cases more with
  | nil => exact nonblank
  | cons next more =>
    unfold isBlank at nonblank ⊢
    rw [join, List.all_append, nonblank, Bool.false_and]

/-! ### Terminated runs -/

theorem terminated_append (lines later : List Text) :
    terminated (lines ++ later) = terminated lines ++ terminated later := by
  simp [terminated]

/-- The newline after a line stands before the lines that follow it. -/
theorem terminated_append_cons (init : List Text) (last : Text) (tail : List Text) :
    terminated (init ++ last :: tail) = (terminated init ++ last) ++ '\n' :: terminated tail := by
  rw [terminated_append, terminated_cons, List.append_assoc]

theorem isBlank_terminated_of_head {line : Text} (nonblank : line.isBlank = false)
    (more : List Text) : (terminated (line :: more)).isBlank = false := by
  unfold isBlank at nonblank ⊢
  rw [terminated_cons, List.all_append, nonblank, Bool.false_and]

/-- A terminated run is the joined one with a newline. -/
theorem terminated_eq_join {run : List Text} (some : run ≠ []) :
    terminated run = join run ++ ['\n'] := by
  induction run with
  | nil => exact absurd rfl some
  | cons line run ih =>
    cases run with
    | nil => simp [join]
    | cons next run =>
      rw [terminated_cons, ih (by simp), join]
      simp

theorem terminated_concat (init : List Text) (last : Text) :
    terminated (init ++ [last]) = terminated init ++ last ++ ['\n'] :=
  terminated_append_cons init last []

theorem join_concat (init : List Text) (last : Text) :
    join (init ++ [last]) = terminated init ++ last := by
  have some := List.append_ne_nil_of_right_ne_nil init (List.cons_ne_nil last [])
  have written := terminated_eq_join some
  rw [terminated_concat] at written
  exact (List.append_cancel_right written).symm

/-- A terminated run has as many newlines as lines. -/
theorem count_newline_terminated {lines : List Text} (newlineFree : NewlineFree lines) :
    (terminated lines).count '\n' = lines.length := by
  induction lines with
  | nil => rfl
  | cons line lines ih =>
    rw [newlineFree_cons] at newlineFree
    rw [terminated_cons, List.count_append, List.count_cons_self, ih newlineFree.2,
      List.count_eq_zero_of_not_mem newlineFree.1, List.length_cons, Nat.zero_add]

/-- How long a run is written is told by the lengths of its lines. -/
theorem length_terminated_congr {run run' : List Text}
    (lengths : run'.map List.length = run.map List.length) :
    (terminated run').length = (terminated run).length := by
  have total (lines : List Text) :
      (terminated lines).length = ((lines.map List.length).map (· + 1)).sum := by
    rw [terminated, List.length_flatMap, List.map_map]
    simp [Function.comp_def]
  rw [total, total, lengths]

theorem length_join_congr {run run' : List Text}
    (lengths : run'.map List.length = run.map List.length) :
    (join run').length = (join run).length := by
  by_cases empty : run = []
  · subst empty
    rw [List.map_eq_nil_iff.mp lengths]
  · have some : run' ≠ [] := by
      rintro rfl
      exact empty (List.map_eq_nil_iff.mp lengths.symm)
    have written := length_terminated_congr lengths
    rw [terminated_eq_join empty, terminated_eq_join some] at written
    simpa using written

theorem count_newline_join {run : List Text} (some : run ≠ [])
    (newlineFree : NewlineFree run) : (join run).count '\n' = run.length - 1 := by
  have written := count_newline_terminated newlineFree
  rw [terminated_eq_join some, List.count_append] at written
  have last : ['\n'].count '\n' = 1 := rfl
  omega

/-- A newline of a terminated run is the end of a line. -/
theorem terminated_split {lines : List Text} (newlineFree : NewlineFree lines) {u rest : Text}
    (split : terminated lines = u ++ '\n' :: rest) :
    ∃ init last tail, lines = init ++ last :: tail ∧ u = terminated init ++ last ∧
      rest = terminated tail := by
  induction lines generalizing u with
  | nil => simp at split
  | cons line lines ih =>
    rw [newlineFree_cons] at newlineFree
    rw [terminated_cons] at split
    by_cases newline : '\n' ∈ u
    · obtain ⟨first, u, rfl, oneLine⟩ := List.eq_append_cons_of_mem newline
      rw [List.append_assoc, List.cons_append] at split
      obtain ⟨rfl, later⟩ := newline_inj newlineFree.1 oneLine split
      obtain ⟨init, last, tail, rfl, rfl, rfl⟩ := ih newlineFree.2 later
      exact ⟨line :: init, last, tail, rfl, by simp, rfl⟩
    · obtain ⟨rfl, rfl⟩ := newline_inj newlineFree.1 newline split
      exact ⟨[], line, lines, rfl, by simp, rfl⟩

/-! ### Carriage returns -/

@[simp] theorem withoutReturns_append (t u : Text) :
    withoutReturns (t ++ u) = withoutReturns t ++ withoutReturns u :=
  List.filter_append ..

theorem newlineFree_map_withoutReturns {lines : List Text} (newlineFree : NewlineFree lines) :
    NewlineFree (lines.map withoutReturns) := by
  intro line member
  obtain ⟨original, inLines, rfl⟩ := List.mem_map.mp member
  exact fun newline => newlineFree original inLines (List.mem_filter.mp newline).1

theorem dropFinalReturn_concat (line : Text) : dropFinalReturn (line ++ ['\r']) = line := by
  simp [dropFinalReturn]

theorem dropFinalReturn_of_not_mem {line : Text} (noReturn : '\r' ∉ line) :
    dropFinalReturn line = line := by
  unfold dropFinalReturn
  exact if_neg fun last => noReturn (List.mem_of_getLast? last)

theorem withoutReturns_dropFinalReturn (line : Text) :
    withoutReturns (dropFinalReturn line) = withoutReturns line := by
  unfold dropFinalReturn
  split
  · case isTrue returns =>
    obtain ⟨front, rfl⟩ := List.getLast?_eq_some_iff.mp returns
    simp [withoutReturns]
  · rfl

theorem terminated_map_withoutReturns (lines : List Text) :
    terminated (lines.map withoutReturns) = withoutReturns (terminated lines) := by
  induction lines with
  | nil => rfl
  | cons line lines ih =>
    rw [List.map_cons, terminated_cons, terminated_cons, ih, withoutReturns_append,
      withoutReturns_cons (by decide)]

/-- The lines of a finished script, each with its newline, are the script but for its carriage
returns. -/
theorem Finished.withoutReturns_terminated_lines {t : Text} (finished : t.Finished) :
    withoutReturns (terminated t.lines) = withoutReturns t := by
  rcases finished with rfl | ended
  · rfl
  · obtain ⟨front, rfl⟩ := List.getLast?_eq_some_iff.mp ended
    have pieces : ((bufferLines front).map dropFinalReturn).map withoutReturns =
        (bufferLines front).map withoutReturns := by
      rw [List.map_map]
      exact List.map_congr_left fun line _ => withoutReturns_dropFinalReturn line
    rw [lines_concat_newline, ← terminated_map_withoutReturns, pieces,
      terminated_map_withoutReturns, terminated_eq_join (bufferLines_ne_nil front),
      join_bufferLines]

theorem count_newline_withoutReturns (t : Text) :
    (withoutReturns t).count '\n' = t.count '\n' :=
  List.count_filter (by decide)

/-- Carriage returns are white space, so leaving them out makes nothing blank. -/
theorem isBlank_withoutReturns (t : Text) : (withoutReturns t).isBlank = t.isBlank := by
  induction t with
  | nil => rfl
  | cons c t ih =>
    by_cases isReturn : c = '\r'
    · subst isReturn
      have space : isWhiteSpace '\r' = true := isWhiteSpace_return
      unfold isBlank at ih ⊢
      rw [withoutReturns_return, ih, List.all_cons, space, Bool.true_and]
    · unfold isBlank at ih ⊢
      rw [withoutReturns_cons isReturn, List.all_cons, List.all_cons, ih]

end StatementShell.Text
