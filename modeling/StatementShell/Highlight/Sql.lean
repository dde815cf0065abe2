import StatementShell.Styled
import StatementShell.Text.Alphanumeric

/-!
# Highlighting of the SQL dialect

A text of the SQL dialect is read from left to right as literals, comments,
words and single characters; each is one segment.

## Main Definitions

* `Highlight.SqlToken`: a token and its kind.
* `Highlight.sqlTokens`: the tokens of a text.
* `Highlight.sqlSegments`: the tokens in their styles.
-/

namespace StatementShell.Highlight

/-! ### Vocabulary -/

/-- The keywords, in capitals. -/
def sqlKeywords : List Text :=
  ["SELECT", "FROM", "WHERE", "INSERT", "INTO", "UPDATE", "DELETE", "CREATE", "DROP",
   "ALTER", "TABLE", "VIEW", "JOIN", "INNER", "LEFT", "RIGHT", "OUTER", "CROSS", "ON",
   "USING", "AS", "AND", "OR", "NOT", "IN", "BETWEEN", "LIKE", "IS", "NULL", "TRUE",
   "FALSE", "ORDER", "BY", "GROUP", "HAVING", "LIMIT", "OFFSET", "DISTINCT", "CASE",
   "WHEN", "THEN", "ELSE", "END", "WITH", "UNION", "VALUES", "SET", "ASC",
   "DESC"].map String.toList

/-- The functions, in capitals. -/
def sqlFunctions : List Text :=
  ["COUNT", "SUM", "AVG", "MIN", "MAX", "UPPER", "LOWER", "LENGTH", "COALESCE", "CAST",
   "ABS", "ROUND"].map String.toList

/-- Whether a character belongs to a word. -/
def isWordChar (c : Char) : Bool := Text.isAlphanumeric c || c == '_'

/-- The style of a word; the case of ASCII letters does not matter. -/
def wordStyle (word : Text) : Style :=
  let capitals := word.map Char.toUpper
  if sqlKeywords.contains capitals then .boldly .green
  else if sqlFunctions.contains capitals then .colored .magenta
  else .plain

/-- The style of a character that stands for itself. -/
def markStyle (c : Char) : Style :=
  if c = '(' ∨ c = ')' then .colored .cyan
  else if c = ',' ∨ c = '.' then .colored .darkGray
  else if c = ';' then .boldly .white
  else if ['*', '+', '-', '/', '=', '<', '>', '!'].contains c then .colored .blue
  else .plain

/-! ### Tokens -/

/-- A piece of a text of the SQL dialect. -/
inductive SqlToken where
  /-- From a quote through the next one, or to the end of the text. -/
  | literal (text : Text)
  /-- From two dashes to the end of the line, without its newline. -/
  | comment (text : Text)
  /-- A longest run of word characters. -/
  | word (text : Text)
  /-- Any other character. -/
  | mark (c : Char)
  deriving DecidableEq, Repr

namespace SqlToken

/-- The text of a token. -/
def text : SqlToken → Text
  | literal t | comment t | word t => t
  | mark c => [c]

/-- The style of a token. -/
def style : SqlToken → Style
  | literal _ => .colored .yellow
  | comment _ => .dimly .darkGray
  | word t => wordStyle t
  | mark c => markStyle c

end SqlToken

/-- The first token of a text that starts with the given character, and what
follows it. -/
def sqlToken (c : Char) (rest : Text) : SqlToken × Text :=
  if c = '\'' then
    let tail := rest.dropWhile (· != '\'')
    (.literal (c :: rest.takeWhile (· != '\'') ++ tail.take 1), tail.drop 1)
  else if c = '-' ∧ rest.head? = some '-' then
    (.comment (c :: rest.takeWhile (· != '\n')), rest.dropWhile (· != '\n'))
  else if isWordChar c then
    (.word (c :: rest.takeWhile isWordChar), rest.dropWhile isWordChar)
  else (.mark c, rest)

theorem length_dropWhile_le (p : Char → Bool) (t : Text) :
    (t.dropWhile p).length ≤ t.length := (List.dropWhile_sublist p).length_le

/-- A token takes at least the first character. -/
theorem length_sqlToken_le (c : Char) (rest : Text) :
    (sqlToken c rest).2.length ≤ rest.length := by
  unfold sqlToken
  repeat' split
  · have := length_dropWhile_le (· != '\'') rest
    simp only [List.length_drop]
    omega
  · exact length_dropWhile_le _ rest
  · exact length_dropWhile_le _ rest
  · exact Nat.le_refl _

/-- A token and what follows it are the text. -/
theorem text_append_sqlToken (c : Char) (rest : Text) :
    (sqlToken c rest).1.text ++ (sqlToken c rest).2 = c :: rest := by
  unfold sqlToken
  repeat' split
  · simp only [SqlToken.text, List.append_assoc, List.cons_append, List.take_append_drop,
      List.takeWhile_append_dropWhile]
  all_goals simp [SqlToken.text, List.takeWhile_append_dropWhile]

/-- The tokens of a text, from left to right. -/
def sqlTokens : Text → List SqlToken
  | [] => []
  | c :: rest => (sqlToken c rest).1 :: sqlTokens (sqlToken c rest).2
termination_by t => t.length
decreasing_by
  have := length_sqlToken_le c rest
  simp only [List.length_cons]
  omega

/-- The segments of a text of the SQL dialect. -/
def sqlSegments (t : Text) : List Segment :=
  (sqlTokens t).map fun token => ⟨token.style, token.text⟩

end StatementShell.Highlight
