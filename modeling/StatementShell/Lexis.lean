import StatementShell.Text.Basic

/-!
# The lexis of the array language

The characters and tokens that decide where literals, comments and statements
of the array language begin and end.  The scanner, the statement splitter and
the highlighter all read this one table.

## Main Definitions

* `Lexis.openBrackets`, `Lexis.closeBrackets`: the bracket pairs, aligned.
* `Lexis.delimiters`: the characters a custom-delimited literal may choose.
* `Lexis.introducers`: the tokens that announce such a literal.
* `Lexis.introducerSuffix`: the introducer a text ends with.
-/

namespace StatementShell

/-- How the body of a custom-delimited literal is read. -/
inductive QuoteKind where
  /-- A backslash escapes the delimiter. -/
  | escaped
  /-- No escapes; a doubled delimiter stands for one. -/
  | raw
  deriving DecidableEq, Repr

namespace Lexis

/-! ### Tables -/

/-- The opening brackets. -/
def openBrackets : List Char := ['(', '{', '[']

/-- The closing brackets, in the order of the brackets they close. -/
def closeBrackets : List Char := [')', '}', ']']

/-- The quote around ordinary string literals. -/
def stringQuote : Char := '"'

/-- The escape character inside string and escaped literals. -/
def escapeMark : Char := '\\'

/-- The character that starts a comment where a comment may begin. -/
def commentMark : Char := '/'

/-- The character that, alone on a line, closes a block comment. -/
def blockCommentEnd : Char := '\\'

/-- The characters that may delimit an escaped or raw literal. -/
def delimiters : List Char :=
  ['!', '#', '$', '%', '&', '\'', '*', '+', ',', '-', '.', '/', ':', ';', '<', '=',
   '>', '?', '@', '^', '_', '\x60', '|', '~']

/-- A single line that starts with this character is a system command. -/
def systemCommandMark : Char := ')'

/-- The character that ends a statement of the SQL dialect. -/
def sqlTerminator : Char := ';'

/-- The tokens that open a literal when a delimiter follows. -/
def introducers : List (Text × QuoteKind) :=
  [(['r', 'x'], .escaped), (['q', 'q'], .escaped), (['r', 'q'], .raw)]

/-! ### Classes -/

/-- Whether a character is an opening bracket. -/
def isOpenBracket (c : Char) : Bool := openBrackets.contains c

/-- Whether a character is a closing bracket. -/
def isCloseBracket (c : Char) : Bool := closeBrackets.contains c

/-- Whether a character may delimit an escaped or raw literal. -/
def isDelimiter (c : Char) : Bool := delimiters.contains c

/-- A space or a tab, after which a comment may begin. -/
def isGap (c : Char) : Bool := c == ' ' || c == '\t'

/-- The opening bracket that a closing bracket closes. -/
def openerFor (c : Char) : Option Char :=
  (closeBrackets.zip openBrackets).lookup c

/-- The introducer at the end of a text that is given last character first. -/
def introducerAtEnd (reversed : List Char) : Option QuoteKind :=
  (introducers.find? fun entry => entry.1.reverse.isPrefixOf reversed).map (·.2)

/-- The introducer a text ends with. -/
def introducerSuffix (t : Text) : Option QuoteKind := introducerAtEnd t.reverse

/-! ### Small facts -/

/-- Only a closing bracket has an opener, and the opener is an opening bracket. -/
theorem isOpenBracket_of_openerFor {c o : Char} (h : openerFor c = some o) :
    isOpenBracket o = true := by
  simp only [openerFor, closeBrackets, openBrackets, List.zip, List.zipWith,
    List.lookup_cons, List.lookup_nil] at h
  repeat' split at h
  all_goals first
    | contradiction
    | (cases h; decide)

end Lexis

end StatementShell
