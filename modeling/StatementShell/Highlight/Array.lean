import StatementShell.Scanner.Basic
import StatementShell.Styled

/-!
# Highlighting of the array language

Input is coloured from the scanner's own state, so that what looks like a
string or a comment is what the completion rule treats as one.

## Main Definitions

* `Highlight.region`: the context a character belongs to.
* `Highlight.arrayChars`: the style of each character.
* `Highlight.arraySegments`: the same, merged into segments.
-/

namespace StatementShell.Highlight

/-- The context a character belongs to, given the contexts before and after it.
An opening quote or a comment mark belongs to what it opens, a closing quote or
the newline of a comment to what it ends.  A raw literal is known to be closed
only at the next character, so that one is judged by where it leads. -/
def region (before after : Context) : Context :=
  if before.isRaw && !after.isRaw then after
  else if before.isCode then after
  else before

/-- The style of a character in its region; `mismatched` marks the first closing
bracket of its unit that does not match. -/
def arrayStyle (place : Context) (c : Char) (mismatched : Bool) : Style :=
  if place.isLiteral then .colored .yellow
  else if place.isComment then .dimly .darkGray
  else if mismatched then .boldly .red
  else if Lexis.isOpenBracket c || Lexis.isCloseBracket c then .colored .cyan
  else .plain

/-- The style of the next character a scanner reads. -/
def styleOfNext (s : Scanner) (c : Char) : Style :=
  let after := s.next c
  arrayStyle (region s.context after.context) c (!s.mismatched && after.mismatched)

/-- The characters of a text with their styles; every unit is read by a fresh
scanner. -/
def paintFrom (s : Scanner) : Text → List (Style × Char)
  | [] => []
  | c :: rest =>
    (styleOfNext s c, c) :: paintFrom (if s.ends c then .fresh else s.next c) rest

/-- The characters of a text of the array language with their styles. -/
def arrayChars (t : Text) : List (Style × Char) := paintFrom .fresh t

/-- The segments of a text of the array language. -/
def arraySegments (t : Text) : List Segment := Segment.ofChars (arrayChars t)

/-- Painting keeps the characters and their order. -/
theorem map_snd_paintFrom (s : Scanner) (t : Text) :
    (paintFrom s t).map (·.2) = t := by
  induction t generalizing s with
  | nil => rfl
  | cons c rest ih => simp [paintFrom, ih]

end StatementShell.Highlight
