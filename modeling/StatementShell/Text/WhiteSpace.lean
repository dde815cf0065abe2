/-!
# White space

The characters with the Unicode property White_Space.  They decide whether a
line is blank and what trimming removes.

## Main Definitions

* `Text.whiteSpaceRanges`: the inclusive code point ranges of the property.
* `Text.isWhiteSpace`: membership in the class.
-/

namespace StatementShell.Text

/-- The inclusive code point ranges of White_Space, in ascending order. -/
def whiteSpaceRanges : List (Nat × Nat) :=
  [(0x09, 0x0D), (0x20, 0x20), (0x85, 0x85), (0xA0, 0xA0), (0x1680, 0x1680),
   (0x2000, 0x200A), (0x2028, 0x2029), (0x202F, 0x202F), (0x205F, 0x205F),
   (0x3000, 0x3000)]

-- The property has twenty-five members.
example : whiteSpaceRanges.foldr (fun r count => r.2 + 1 - r.1 + count) 0 = 25 := by decide

/-- Whether a character is white space. -/
def isWhiteSpace (c : Char) : Bool :=
  whiteSpaceRanges.any fun r => r.1 ≤ c.toNat && c.toNat ≤ r.2

@[simp] theorem isWhiteSpace_newline : isWhiteSpace '\n' = true := by decide

@[simp] theorem isWhiteSpace_return : isWhiteSpace '\r' = true := by decide

end StatementShell.Text
