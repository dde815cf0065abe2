import StatementShell.Text.Basic

/-!
# Styled text

A painted text is a list of segments, each in one style.

## Main Definitions

* `Style`, `Segment`: a style, and a text in that style.
* `Segment.ofChars`: characters with styles, with equal neighbours merged.
-/

namespace StatementShell

/-- A foreground colour. -/
inductive Color where
  | yellow
  | darkGray
  | red
  | cyan
  | green
  | magenta
  | white
  | blue
  deriving DecidableEq, Repr

/-- How a text is shown; without a colour, in the one of the terminal. -/
structure Style where
  color : Option Color
  bold : Bool
  dimmed : Bool
  deriving DecidableEq, Repr

namespace Style

/-- The style of unpainted text. -/
def plain : Style := ⟨none, false, false⟩

/-- A colour and nothing else. -/
def colored (c : Color) : Style := ⟨some c, false, false⟩

/-- A colour in bold. -/
def boldly (c : Color) : Style := ⟨some c, true, false⟩

/-- A colour, dimmed. -/
def dimly (c : Color) : Style := ⟨some c, false, true⟩

end Style

/-- A text in one style. -/
structure Segment where
  style : Style
  text : Text
  deriving DecidableEq, Repr

namespace Segment

/-- The text of segments that follow one another. -/
def plainText (segments : List Segment) : Text := segments.flatMap (·.text)

/-- Characters with styles as segments; neighbours of one style share a
segment. -/
def ofChars : List (Style × Char) → List Segment
  | [] => []
  | (style, c) :: rest =>
    match ofChars rest with
    | [] => [⟨style, [c]⟩]
    | segment :: segments =>
      if segment.style = style then ⟨style, c :: segment.text⟩ :: segments
      else ⟨style, [c]⟩ :: segment :: segments

/-- Merging keeps the characters and their order. -/
theorem plainText_ofChars (chars : List (Style × Char)) :
    plainText (ofChars chars) = chars.map (·.2) := by
  induction chars with
  | nil => rfl
  | cons head rest ih =>
    obtain ⟨style, c⟩ := head
    rw [ofChars, List.map_cons, ← ih]
    cases ofChars rest with
    | nil => rfl
    | cons segment segments =>
      dsimp only
      split <;> simp [plainText]

end Segment

end StatementShell
