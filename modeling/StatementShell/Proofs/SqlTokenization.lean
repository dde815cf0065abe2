import Mathlib.Data.List.Chain
import Mathlib.Data.List.Forall2
import Mathlib.Data.List.TakeWhile
import StatementShell.Proofs.Painting

/-!
# The tokens of the SQL dialect

The painter of the SQL dialect takes one piece after the other off the front of a text.
This module says which pieces a text is made of without saying how they are found: each
token is of one of five forms, and a form depends on the token itself and on the one
character that may follow it.  A text is made of such tokens in exactly one way, and the
segments shown are these tokens.

Because only one following character counts, the body of a literal or of a comment can be
exchanged for any other that does not end it, and all other tokens stay: neither a quote in
a comment nor two dashes in a literal open anything.

A painter that goes over the characters once, and keeps a word until something else comes,
has to show that word at each of four places.  It shows the same segments.

## Main Definitions

* `SqlToken.ReadBefore`: the forms of a token that a given text follows.
* `Tokenized`: the tokens that a text is made of.
* `SqlToken.Wears`, `SqlToken.ShownAs`: the style of a token, and a segment that shows it.
* `Orderly`: what may follow what, and that bodies are opaque.
* `sqlPass`: the segments of a text found in one pass.

## Main Results

* `tokenized_iff`: the tokens of a text are those it is made of.
* `Tokenized.orderly`: they are in order.
* `SqlToken.wears_iff`, `shownAs_sqlSegments_iff`: the styles, and the segments shown.
* `sqlPass_eq`: one pass shows the same segments.
* `highlight_tokenizes`: what is shown for a buffer of the SQL dialect.
-/

namespace StatementShell

namespace Highlight

/-! ### The forms of a token -/

namespace SqlToken

/-- A token as it is read where a text follows. -/
inductive ReadBefore : SqlToken → Text → Prop
  /-- From a quote through the next one. -/
  | literal {body rest : Text} (noQuote : '\'' ∉ body) :
    ReadBefore (.literal ('\'' :: (body ++ ['\'']))) rest
  /-- From a quote to the end of the text, without another one. -/
  | openLiteral {body : Text} (noQuote : '\'' ∉ body) : ReadBefore (.literal ('\'' :: body)) []
  /-- From two dashes up to a newline or the end of the text. -/
  | comment {body rest : Text} (oneLine : '\n' ∉ body) (ends : ∀ c ∈ rest.head?, c = '\n') :
    ReadBefore (.comment ('-' :: '-' :: body)) rest
  /-- A run of word characters that cannot be made longer. -/
  | word {w rest : Text} (some : w ≠ []) (ofWord : ∀ c ∈ w, isWordChar c = true)
    (longest : ∀ c ∈ rest.head?, isWordChar c = false) : ReadBefore (.word w) rest
  /-- A character that begins none of these. -/
  | mark {c : Char} {rest : Text} (noQuote : c ≠ '\'')
    (noDashes : ¬ (c = '-' ∧ rest.head? = some '-')) (noWord : isWordChar c = false) :
    ReadBefore (.mark c) rest

namespace ReadBefore

variable {token : SqlToken} {rest : Text}

/-- Only the next character counts. -/
theorem congr {rest' : Text} (reads : token.ReadBefore rest) (same : rest.head? = rest'.head?) :
    token.ReadBefore rest' := by
  cases reads with
  | literal noQuote => exact .literal noQuote
  | openLiteral noQuote =>
    obtain rfl : rest' = [] := List.head?_eq_none_iff.mp same.symm
    exact .openLiteral noQuote
  | comment oneLine ends => exact .comment oneLine (same ▸ ends)
  | word some ofWord longest => exact .word some ofWord (same ▸ longest)
  | mark noQuote noDashes noWord => exact .mark noQuote (same ▸ noDashes) noWord

theorem text_ne_nil (reads : token.ReadBefore rest) : token.text ≠ [] := by
  cases reads with
  | word some => exact some
  | _ => exact List.cons_ne_nil _ _

/-- A literal that something follows is closed. -/
theorem closed_literal {t : Text} (reads : (SqlToken.literal t).ReadBefore rest)
    (more : rest ≠ []) : ∃ body, '\'' ∉ body ∧ t = '\'' :: (body ++ ['\'']) := by
  cases reads with
  | literal noQuote => exact ⟨_, noQuote, rfl⟩
  | openLiteral => exact absurd rfl more

theorem head?_literal {t : Text} (reads : (SqlToken.literal t).ReadBefore rest) :
    t.head? = some '\'' := by
  cases reads <;> rfl

theorem comment_spelled {t : Text} (reads : (SqlToken.comment t).ReadBefore rest) :
    t.head? = some '-' ∧ ∀ c ∈ rest.head?, c = '\n' := by
  cases reads with
  | comment oneLine ends => exact ⟨rfl, ends⟩

theorem word_spelled {w : Text} (reads : (SqlToken.word w).ReadBefore rest) :
    (∀ c ∈ w, isWordChar c = true) ∧ ∀ c ∈ rest.head?, isWordChar c = false := by
  cases reads with
  | word some ofWord longest => exact ⟨ofWord, longest⟩

end ReadBefore

end SqlToken

/-- The tokens that a text is made of. -/
inductive Tokenized : Text → List SqlToken → Prop
  | nil : Tokenized [] []
  | cons {token : SqlToken} {rest : Text} {tokens : List SqlToken}
    (reads : token.ReadBefore rest) (later : Tokenized rest tokens) :
    Tokenized (token.text ++ rest) (token :: tokens)

/-- The text of tokens that follow one another. -/
def tokenText (tokens : List SqlToken) : Text := tokens.flatMap (·.text)

/-! ### What the painter takes -/

theorem isWordChar_quote : isWordChar '\'' = false := by decide

theorem isWordChar_dash : isWordChar '-' = false := by decide

/-- A run of characters is taken up to the first that does not belong to it. -/
theorem span_append {p : Char → Bool} {run rest : Text} (ofRun : ∀ c ∈ run, p c = true)
    (ends : ∀ c ∈ rest.head?, p c = false) :
    (run ++ rest).takeWhile p = run ∧ (run ++ rest).dropWhile p = rest := by
  rw [List.takeWhile_append_of_pos ofRun, List.dropWhile_append_of_pos ofRun]
  cases rest with
  | nil => simp
  | cons c rest =>
    have stops : ¬ p c = true := by simp [ends c rfl]
    exact ⟨by rw [List.takeWhile_cons_of_neg stops, List.append_nil],
      List.dropWhile_cons_of_neg stops⟩

/-- A text is taken up to the first character of a kind. -/
theorem span_ne_append {d : Char} {body rest : Text} (absent : d ∉ body)
    (ends : ∀ c ∈ rest.head?, c = d) :
    (body ++ rest).takeWhile (· != d) = body ∧ (body ++ rest).dropWhile (· != d) = rest := by
  refine span_append (fun c member => ?_) (fun c first => by simp [ends c first])
  simpa using ne_of_mem_of_not_mem member absent

/-- What is left after a run is empty or starts with a character that does not belong to
it. -/
theorem dropWhile_ends (p : Char → Bool) (t : Text) :
    ∀ c ∈ (t.dropWhile p).head?, p c = false := by
  have stops := List.head?_dropWhile_not p t
  intro c first
  rw [Option.mem_def.mp first] at stops
  exact stops

theorem not_mem_takeWhile_ne (d : Char) (t : Text) : d ∉ t.takeWhile (· != d) := by
  intro member
  have differs := List.mem_takeWhile_imp member
  simp at differs

/-- The first token has one of the forms. -/
theorem readBefore_sqlToken (c : Char) (rest : Text) :
    (sqlToken c rest).1.ReadBefore (sqlToken c rest).2 := by
  unfold sqlToken
  split_ifs with quote dashes wordChar
  · subst quote
    have noQuote := not_mem_takeWhile_ne '\'' rest
    have ends := dropWhile_ends (· != '\'') rest
    cases remains : rest.dropWhile (· != '\'') with
    | nil =>
      simpa using SqlToken.ReadBefore.openLiteral noQuote
    | cons d later =>
      rw [remains] at ends
      obtain rfl : d = '\'' := by simpa using ends d rfl
      exact .literal noQuote
  · obtain ⟨rfl, second⟩ := dashes
    obtain ⟨later, rfl⟩ := List.head?_eq_some_iff.mp second
    have ends : ∀ d ∈ (later.dropWhile (· != '\n')).head?, d = '\n' := fun d first => by
      simpa using dropWhile_ends _ later d first
    exact .comment (not_mem_takeWhile_ne '\n' later) ends
  · have ofWord : ∀ d ∈ c :: rest.takeWhile isWordChar, isWordChar d = true :=
      List.forall_mem_cons.mpr ⟨wordChar, fun d member => List.mem_takeWhile_imp member⟩
    exact .word (List.cons_ne_nil _ _) ofWord (dropWhile_ends _ rest)
  · exact .mark quote dashes (Bool.eq_false_iff.mpr wordChar)

/-- A text that starts with a token of one of the forms has it as its first token. -/
theorem sqlToken_of_readBefore {token : SqlToken} {rest : Text}
    (reads : token.ReadBefore rest) :
    ∃ c later, token.text ++ rest = c :: later ∧ sqlToken c later = (token, rest) := by
  cases reads with
  | @literal body _ noQuote =>
    have ends : ∀ c ∈ ('\'' :: rest).head?, c = '\'' := by simp
    obtain ⟨taken, left⟩ := span_ne_append noQuote ends
    refine ⟨'\'', body ++ '\'' :: rest, by simp [SqlToken.text], ?_⟩
    simp [sqlToken, taken, left]
  | @openLiteral body noQuote =>
    have ends : ∀ c ∈ ([] : Text).head?, c = '\'' := by simp
    obtain ⟨taken, left⟩ := span_ne_append noQuote ends
    rw [List.append_nil] at taken left
    refine ⟨'\'', body, by simp [SqlToken.text], ?_⟩
    simp [sqlToken, taken, left]
  | @comment body _ oneLine ends =>
    have oneLine : '\n' ∉ '-' :: body := by simpa using oneLine
    obtain ⟨taken, left⟩ := span_ne_append oneLine ends
    refine ⟨'-', '-' :: body ++ rest, rfl, ?_⟩
    rw [sqlToken, if_neg (by decide), if_pos ⟨rfl, rfl⟩, taken, left]
  | @word w _ some ofWord longest =>
    obtain ⟨c, run, rfl⟩ := List.exists_cons_of_ne_nil some
    obtain ⟨wordChar, ofRun⟩ := List.forall_mem_cons.mp ofWord
    obtain ⟨taken, left⟩ := span_append ofRun longest
    have noQuote : c ≠ '\'' := fun quote => by simp [quote, isWordChar_quote] at wordChar
    have noDash : c ≠ '-' := fun dash => by simp [dash, isWordChar_dash] at wordChar
    refine ⟨c, run ++ rest, rfl, ?_⟩
    rw [sqlToken, if_neg noQuote, if_neg (fun dashes => noDash dashes.1), if_pos wordChar, taken,
      left]
  | @mark c _ noQuote noDashes noWord =>
    refine ⟨c, rest, rfl, ?_⟩
    rw [sqlToken, if_neg noQuote, if_neg noDashes, if_neg (Bool.eq_false_iff.mp noWord)]

/-! ### All tokens -/

theorem tokenized_sqlTokens (t : Text) : Tokenized t (sqlTokens t) := by
  induction t using sqlTokens.induct with
  | case1 =>
    rw [sqlTokens]
    exact .nil
  | case2 c rest ih =>
    rw [sqlTokens]
    have made := Tokenized.cons (readBefore_sqlToken c rest) ih
    rwa [text_append_sqlToken] at made

/-- A text is made of tokens in one way, and these are the tokens found. -/
theorem tokenized_iff {t : Text} {tokens : List SqlToken} :
    Tokenized t tokens ↔ tokens = sqlTokens t := by
  constructor
  · intro made
    induction made with
    | nil => rw [sqlTokens]
    | @cons token rest tokens reads _ ih =>
      obtain ⟨c, later, spelled, taken⟩ := sqlToken_of_readBefore reads
      rw [spelled, sqlTokens, taken, ih]
  · rintro rfl
    exact tokenized_sqlTokens t

namespace Tokenized

variable {t : Text} {tokens before after : List SqlToken} {token : SqlToken}

theorem tokenText_eq (made : Tokenized t tokens) : tokenText tokens = t := by
  induction made with
  | nil => rfl
  | cons _ _ ih => exact congrArg (_ ++ ·) ih

/-- The first token has one of the forms before what the others are made from. -/
theorem of_cons (made : Tokenized t (token :: after)) :
    token.ReadBefore (tokenText after) ∧ Tokenized (tokenText after) after := by
  cases made with
  | cons reads later =>
    rw [later.tokenText_eq]
    exact ⟨reads, later⟩

/-- The tokens after others are those of the text left there. -/
theorem suffix (made : Tokenized t (before ++ after)) : Tokenized (tokenText after) after := by
  induction before generalizing t with
  | nil =>
    have spelled : tokenText after = t := made.tokenText_eq
    rwa [spelled]
  | cons head before ih => exact ih made.of_cons.2

/-- Each token has one of the forms before the text of those after it. -/
theorem readBefore (made : Tokenized t (before ++ token :: after)) :
    token.ReadBefore (tokenText after) := made.suffix.of_cons.1

/-- An exchange of one token for another of its first character does not show before it. -/
theorem head?_tokenText_exchange {token' : SqlToken} (before after : List SqlToken)
    (same : token'.text.head? = token.text.head?) :
    (tokenText (before ++ token :: after)).head? =
      (tokenText (before ++ token' :: after)).head? := by
  induction before with
  | nil => simp [tokenText, List.head?_append, same]
  | cons head before ih =>
    have spelled (tokens : List SqlToken) :
        tokenText (head :: tokens) = head.text ++ tokenText tokens := List.flatMap_cons
    rw [List.cons_append, List.cons_append, spelled, spelled, List.head?_append,
      List.head?_append, ih]

/-- One token may be exchanged for another of its first character that has one of the forms
there. -/
theorem exchange {token' : SqlToken} (made : Tokenized t (before ++ token :: after))
    (reads : token'.ReadBefore (tokenText after)) (same : token'.text.head? = token.text.head?) :
    Tokenized (tokenText (before ++ token' :: after)) (before ++ token' :: after) := by
  induction before generalizing t with
  | nil => exact .cons reads made.of_cons.2
  | cons head before ih =>
    obtain ⟨readsHead, later⟩ := made.of_cons
    exact .cons (readsHead.congr (head?_tokenText_exchange before after same)) (ih later)

end Tokenized

/-! ### Their order -/

/-- Whether a token is a word. -/
def SqlToken.IsWord : SqlToken → Prop
  | word _ => True
  | _ => False

/-- What may follow what in a list of tokens, and that the bodies of literals and comments
are opaque. -/
structure Orderly (tokens : List SqlToken) : Prop where
  nonempty : ∀ token ∈ tokens, token.text ≠ []
  /-- A word is never followed by another one. -/
  apart : tokens.IsChain fun token next => ¬ (token.IsWord ∧ next.IsWord)
  /-- A comment is followed by a newline or by nothing. -/
  commentEnds : ∀ {before after : List SqlToken} {text : Text},
    tokens = before ++ .comment text :: after → ∀ next ∈ after.head?, next = .mark '\n'
  /-- Only the last token can be a literal without its closing quote. -/
  literalEnds : ∀ {before after : List SqlToken} {text : Text},
    tokens = before ++ .literal text :: after → after ≠ [] →
      ∃ body, '\'' ∉ body ∧ text = '\'' :: (body ++ ['\''])
  /-- Whatever else stands in a literal, dashes too, the other tokens are the same. -/
  literalOpaque : ∀ {before after : List SqlToken} {text : Text},
    tokens = before ++ .literal text :: after → ∀ body, '\'' ∉ body →
      let exchanged := before ++ .literal ('\'' :: (body ++ ['\''])) :: after
      sqlTokens (tokenText exchanged) = exchanged
  /-- Whatever else stands in a comment, quotes too, the other tokens are the same. -/
  commentOpaque : ∀ {before after : List SqlToken} {text : Text},
    tokens = before ++ .comment text :: after → ∀ body, '\n' ∉ body →
      let exchanged := before ++ .comment ('-' :: '-' :: body) :: after
      sqlTokens (tokenText exchanged) = exchanged

namespace Tokenized

variable {t : Text} {tokens before after : List SqlToken} {token : SqlToken}

theorem apart (made : Tokenized t tokens) :
    tokens.IsChain fun token next => ¬ (token.IsWord ∧ next.IsWord) := by
  induction made with
  | nil => exact .nil
  | @cons token rest tokens reads later ih =>
    cases later with
    | nil => exact .singleton _
    | @cons second rest tokens readsSecond later =>
      refine List.isChain_cons_cons.mpr ⟨?_, ih⟩
      rintro ⟨isWord, isWordSecond⟩
      cases token with
      | word w =>
        cases second with
        | word v =>
          -- The first character of the second word would have belonged to the first one.
          obtain ⟨c, v, rfl⟩ := List.exists_cons_of_ne_nil readsSecond.text_ne_nil
          have belongs := readsSecond.word_spelled.1 c (List.mem_cons_self ..)
          rw [reads.word_spelled.2 c rfl] at belongs
          exact Bool.noConfusion belongs
        | _ => exact isWordSecond
      | _ => exact isWord

/-- A newline is a token by itself. -/
theorem eq_newline (made : Tokenized t (token :: after)) (first : t.head? = some '\n') :
    token = .mark '\n' := by
  obtain ⟨rest, rfl⟩ := List.head?_eq_some_iff.mp first
  have tokens := tokenized_iff.mp made
  rw [sqlTokens] at tokens
  exact (List.cons.inj tokens).1

/-- After a comment comes a newline, if anything. -/
theorem comment_ends {text : Text} (made : Tokenized t (before ++ .comment text :: after)) :
    ∀ next ∈ after.head?, next = .mark '\n' := by
  intro next first
  obtain ⟨more, rfl⟩ := List.head?_eq_some_iff.mp first
  have later : Tokenized (tokenText (next :: more)) (next :: more) := made.suffix.of_cons.2
  obtain ⟨c, w, spelled⟩ := List.exists_cons_of_ne_nil later.of_cons.1.text_ne_nil
  have starts : (tokenText (next :: more)).head? = some c := by
    simp [tokenText, spelled]
  obtain rfl := made.readBefore.comment_spelled.2 c starts
  exact later.eq_newline starts

theorem orderly (made : Tokenized t tokens) : Orderly tokens where
  nonempty := by
    intro token member
    obtain ⟨before, after, rfl⟩ := List.append_of_mem member
    exact made.readBefore.text_ne_nil
  apart := made.apart
  commentEnds := by
    rintro before after text rfl
    exact made.comment_ends
  literalEnds := by
    rintro before after text rfl more
    obtain ⟨next, others, rfl⟩ := List.exists_cons_of_ne_nil more
    have some := made.suffix.of_cons.2.of_cons.1.text_ne_nil
    exact made.readBefore.closed_literal (List.append_ne_nil_of_left_ne_nil some _)
  literalOpaque := by
    rintro before after text rfl body noQuote
    have same := made.readBefore.head?_literal
    exact (tokenized_iff.mp (made.exchange (.literal noQuote) same.symm)).symm
  commentOpaque := by
    rintro before after text rfl body oneLine
    obtain ⟨same, ends⟩ := made.readBefore.comment_spelled
    exact (tokenized_iff.mp (made.exchange (.comment oneLine ends) same.symm)).symm

end Tokenized

/-! ### Their styles -/

/-- Texts that are equal but for the case of ASCII letters. -/
def EqualButCase (v w : Text) : Prop := v.map Char.toUpper = w.map Char.toUpper

/-- The style of a token by what it says. -/
inductive SqlToken.Wears : SqlToken → Style → Prop
  | literal (t : Text) : Wears (.literal t) (.colored .yellow)
  | comment (t : Text) : Wears (.comment t) (.dimly .darkGray)
  | keyword {w : Text} (isKeyword : ∃ k ∈ sqlKeywords, EqualButCase k w) :
    Wears (.word w) (.boldly .green)
  | function {w : Text} (noKeyword : ∀ k ∈ sqlKeywords, ¬ EqualButCase k w)
    (isFunction : ∃ f ∈ sqlFunctions, EqualButCase f w) : Wears (.word w) (.colored .magenta)
  | name {w : Text} (noKeyword : ∀ k ∈ sqlKeywords, ¬ EqualButCase k w)
    (noFunction : ∀ f ∈ sqlFunctions, ¬ EqualButCase f w) : Wears (.word w) .plain
  | bracket {c : Char} (isBracket : c ∈ ['(', ')']) : Wears (.mark c) (.colored .cyan)
  | separator {c : Char} (isSeparator : c ∈ [',', '.']) : Wears (.mark c) (.colored .darkGray)
  | terminator : Wears (.mark ';') (.boldly .white)
  | operator {c : Char} (isOperator : c ∈ ['*', '+', '-', '/', '=', '<', '>', '!']) :
    Wears (.mark c) (.colored .blue)
  /-- White space, and every character that is none of these. -/
  | other {c : Char} (noBracket : c ∉ ['(', ')']) (noSeparator : c ∉ [',', '.'])
    (noTerminator : c ≠ ';') (noOperator : c ∉ ['*', '+', '-', '/', '=', '<', '>', '!']) :
    Wears (.mark c) .plain

/-- A list of words in capitals holds the capitals of a word where it holds the word but
for the case. -/
theorem contains_capitals {words : List Text} (capitals : ∀ k ∈ words, k.map Char.toUpper = k)
    (w : Text) :
    words.contains (w.map Char.toUpper) = true ↔ ∃ k ∈ words, EqualButCase k w := by
  rw [List.contains_iff_mem]
  constructor
  · intro member
    exact ⟨_, member, capitals _ member⟩
  · rintro ⟨k, member, equal⟩
    have same : k = w.map Char.toUpper := (capitals k member).symm.trans equal
    rwa [← same]

theorem not_contains_capitals {words : List Text}
    (capitals : ∀ k ∈ words, k.map Char.toUpper = k) (w : Text) :
    ¬ words.contains (w.map Char.toUpper) = true ↔ ∀ k ∈ words, ¬ EqualButCase k w := by
  rw [contains_capitals capitals]
  simp

theorem sqlKeywords_capitals : ∀ k ∈ sqlKeywords, k.map Char.toUpper = k := by decide

theorem sqlFunctions_capitals : ∀ f ∈ sqlFunctions, f.map Char.toUpper = f := by decide

theorem wears_wordStyle (w : Text) : (SqlToken.word w).Wears (wordStyle w) := by
  rw [wordStyle]
  split_ifs with keyword function
  · exact .keyword ((contains_capitals sqlKeywords_capitals w).mp keyword)
  · have noKeyword := (not_contains_capitals sqlKeywords_capitals w).mp keyword
    exact .function noKeyword ((contains_capitals sqlFunctions_capitals w).mp function)
  · have noKeyword := (not_contains_capitals sqlKeywords_capitals w).mp keyword
    exact .name noKeyword ((not_contains_capitals sqlFunctions_capitals w).mp function)

theorem wears_markStyle (c : Char) : (SqlToken.mark c).Wears (markStyle c) := by
  unfold markStyle
  split_ifs with bracket separator terminator operator
  · exact .bracket (by simpa using bracket)
  · exact .separator (by simpa using separator)
  · rw [terminator]
    exact .terminator
  · exact .operator (List.contains_iff_mem.mp operator)
  · exact .other (by simpa using bracket) (by simpa using separator) terminator
      (mt List.contains_iff_mem.mpr operator)

theorem wordStyle_of_wears {w : Text} {style : Style} (wears : (SqlToken.word w).Wears style) :
    wordStyle w = style := by
  unfold wordStyle
  dsimp only
  cases wears with
  | keyword isKeyword => rw [if_pos ((contains_capitals sqlKeywords_capitals w).mpr isKeyword)]
  | function noKeyword isFunction =>
    rw [if_neg ((not_contains_capitals sqlKeywords_capitals w).mpr noKeyword),
      if_pos ((contains_capitals sqlFunctions_capitals w).mpr isFunction)]
  | name noKeyword noFunction =>
    rw [if_neg ((not_contains_capitals sqlKeywords_capitals w).mpr noKeyword),
      if_neg ((not_contains_capitals sqlFunctions_capitals w).mpr noFunction)]

theorem markStyle_of_wears {c : Char} {style : Style} (wears : (SqlToken.mark c).Wears style) :
    markStyle c = style := by
  cases wears with
  | bracket isBracket =>
    have table : ∀ d ∈ ['(', ')'], markStyle d = .colored .cyan := by simp [markStyle]
    exact table c isBracket
  | separator isSeparator =>
    have table : ∀ d ∈ [',', '.'], markStyle d = .colored .darkGray := by simp [markStyle]
    exact table c isSeparator
  | terminator => rfl
  | operator isOperator =>
    have table : ∀ d ∈ ['*', '+', '-', '/', '=', '<', '>', '!'],
        markStyle d = .colored .blue := by simp [markStyle]
    exact table c isOperator
  | other noBracket noSeparator noTerminator noOperator =>
    rw [markStyle, if_neg (by simpa using noBracket), if_neg (by simpa using noSeparator),
      if_neg noTerminator, if_neg (mt List.contains_iff_mem.mp noOperator)]

/-- What a token says tells its style, and no other one. -/
theorem SqlToken.wears_iff {token : SqlToken} {style : Style} :
    token.Wears style ↔ token.style = style := by
  constructor
  · intro wears
    cases token with
    | word w => exact wordStyle_of_wears wears
    | mark c => exact markStyle_of_wears wears
    | literal | comment =>
      cases wears
      rfl
  · rintro rfl
    cases token with
    | literal t => exact .literal t
    | comment t => exact .comment t
    | word w => exact wears_wordStyle w
    | mark c => exact wears_markStyle c

/-- A segment that shows a token. -/
structure SqlToken.ShownAs (token : SqlToken) (segment : Segment) : Prop where
  text : segment.text = token.text
  style : token.Wears segment.style

/-- There is one segment that shows a token. -/
theorem SqlToken.shownAs_iff {token : SqlToken} {segment : Segment} :
    token.ShownAs segment ↔ ⟨token.style, token.text⟩ = segment := by
  obtain ⟨style, text⟩ := segment
  rw [Segment.mk.injEq, ← wears_iff]
  constructor
  · rintro ⟨rfl, wears⟩
    exact ⟨wears, rfl⟩
  · rintro ⟨wears, rfl⟩
    exact ⟨rfl, wears⟩

/-- The segments show the tokens one by one, and no others do. -/
theorem shownAs_sqlSegments_iff {t : Text} {segments : List Segment} :
    List.Forall₂ SqlToken.ShownAs (sqlTokens t) segments ↔ sqlSegments t = segments := by
  have shown : SqlToken.ShownAs =
      fun token segment => (⟨token.style, token.text⟩ : Segment) = segment := by
    funext token segment
    exact propext SqlToken.shownAs_iff
  rw [shown, sqlSegments, ← List.forall₂_map_left_iff, List.forall₂_eq_eq_eq]

theorem plainText_sqlSegments (t : Text) : Segment.plainText (sqlSegments t) = t := by
  have spelled : Segment.plainText (sqlSegments t) = tokenText (sqlTokens t) := by
    simp [Segment.plainText, sqlSegments, tokenText, List.flatMap_map]
  rw [spelled, (tokenized_sqlTokens t).tokenText_eq]

/-! ### One pass -/

/-- The segment of a word that has come to its end, if there was one. -/
def flushWord (word : Text) : List Segment :=
  if word = [] then [] else [⟨wordStyle word, word⟩]

/-- What belongs to a literal after its opening quote, and the rest. -/
def takeLiteral : Text → Text × Text
  | [] => ([], [])
  | c :: rest =>
    if c = '\'' then ([c], rest) else ((c :: (takeLiteral rest).1), (takeLiteral rest).2)

/-- What belongs to a comment, and the rest. -/
def takeComment : Text → Text × Text
  | [] => ([], [])
  | c :: rest =>
    if c = '\n' then ([], c :: rest) else (c :: (takeComment rest).1, (takeComment rest).2)

theorem takeLiteral_eq (t : Text) :
    takeLiteral t = (t.takeWhile (· != '\'') ++ (t.dropWhile (· != '\'')).take 1,
      (t.dropWhile (· != '\'')).drop 1) := by
  induction t with
  | nil => rfl
  | cons c rest ih =>
    by_cases quote : c = '\''
    · simp [takeLiteral, quote]
    · simp [takeLiteral, quote, ih]

theorem takeComment_eq (t : Text) :
    takeComment t = (t.takeWhile (· != '\n'), t.dropWhile (· != '\n')) := by
  induction t with
  | nil => rfl
  | cons c rest ih =>
    by_cases newline : c = '\n'
    · simp [takeComment, newline]
    · simp [takeComment, newline, ih]

/-- The segments of a text in one pass over its characters, after the beginning `word` of
a word. -/
def sqlPass (word : Text) : Text → List Segment
  | [] => flushWord word
  | c :: rest =>
    if c = '\'' then
      flushWord word ++
        ⟨.colored .yellow, c :: (takeLiteral rest).1⟩ :: sqlPass [] (takeLiteral rest).2
    else if c = '-' ∧ rest.head? = some '-' then
      flushWord word ++
        ⟨.dimly .darkGray, c :: (takeComment rest).1⟩ :: sqlPass [] (takeComment rest).2
    else if isWordChar c then sqlPass (word ++ [c]) rest
    else flushWord word ++ ⟨markStyle c, [c]⟩ :: sqlPass [] rest
termination_by t => t.length
decreasing_by
  · simp only [takeLiteral_eq, List.length_drop, List.length_cons]
    have := length_dropWhile_le (· != '\'') rest
    omega
  · simp only [takeComment_eq, List.length_cons]
    have := length_dropWhile_le (· != '\n') rest
    omega
  · simp
  · simp

/-- A word up to a character of another kind is shown by itself. -/
theorem sqlSegments_append {word rest : Text} (ofWord : ∀ c ∈ word, isWordChar c = true)
    (ends : ∀ c ∈ rest.head?, isWordChar c = false) :
    sqlSegments (word ++ rest) = flushWord word ++ sqlSegments rest := by
  by_cases none : word = []
  · simp [none, flushWord]
  · have made : Tokenized (word ++ rest) (.word word :: sqlTokens rest) :=
      .cons (.word none ofWord ends) (tokenized_sqlTokens rest)
    simp [sqlSegments, ← tokenized_iff.mp made, flushWord, none, SqlToken.style, SqlToken.text]

theorem sqlSegments_cons (c : Char) (rest : Text) :
    sqlSegments (c :: rest) =
      ⟨(sqlToken c rest).1.style, (sqlToken c rest).1.text⟩ :: sqlSegments (sqlToken c rest).2 := by
  rw [sqlSegments, sqlTokens]
  rfl

/-- One pass shows the same segments. -/
theorem sqlPass_eq {word : Text} (ofWord : ∀ c ∈ word, isWordChar c = true) (t : Text) :
    sqlPass word t = sqlSegments (word ++ t) := by
  induction word, t using sqlPass.induct with
  | case1 word =>
    rw [sqlPass, sqlSegments_append ofWord (by simp)]
    simp [sqlSegments, sqlTokens]
  | case2 word rest ih =>
    rw [sqlPass, if_pos rfl, ih (by simp), takeLiteral_eq,
      sqlSegments_append ofWord (by simp [isWordChar_quote]), sqlSegments_cons]
    simp [sqlToken, SqlToken.style, SqlToken.text]
  | case3 word c rest noQuote dashes ih =>
    have ends : ∀ d ∈ (c :: rest).head?, isWordChar d = false := by
      simp [dashes.1, isWordChar_dash]
    rw [sqlPass, if_neg noQuote, if_pos dashes, ih (by simp), takeComment_eq,
      sqlSegments_append ofWord ends, sqlSegments_cons, sqlToken, if_neg noQuote, if_pos dashes]
    rfl
  | case4 word c rest noQuote noDashes wordChar ih =>
    have ofLonger : ∀ d ∈ word ++ [c], isWordChar d = true := by
      intro d member
      rcases List.mem_append.mp member with within | isLast
      · exact ofWord d within
      · rwa [List.mem_singleton.mp isLast]
    rw [sqlPass, if_neg noQuote, if_neg noDashes, if_pos wordChar, ih ofLonger,
      List.append_assoc, List.singleton_append]
  | case5 word c rest noQuote noDashes noWord ih =>
    have ends : ∀ d ∈ (c :: rest).head?, isWordChar d = false := by simpa using noWord
    rw [sqlPass, if_neg noQuote, if_neg noDashes, if_neg noWord, ih (by simp),
      sqlSegments_append ofWord ends, sqlSegments_cons, sqlToken, if_neg noQuote,
      if_neg noDashes, if_neg noWord]
    rfl

end Highlight

/-! ### The buffer -/

open Highlight

/-- With colours and highlighting on, a buffer that is no system command is painted by the
painter of the SQL dialect. -/
theorem Session.highlight_sql {s : Session} {t : Text} (offset : Nat) (sqlMode : s.mode = .sql)
    (shown : s.display.syntaxHighlighting = true ∧ s.display.colorOutput = true)
    (noCommand : '\n' ∈ t ∨ t.head? ≠ some Lexis.systemCommandMark) :
    (s.highlight t offset).2 = sqlSegments t := by
  have isNone := isSystemCommand_bufferLines noCommand
  rw [s.segments_eq t offset shown, sqlMode, StatementShell.highlight_sql (by simp [isNone])]

/-- **What is shown for a buffer of the SQL dialect are its tokens.**  With colours and
highlighting on, a buffer that is no system command is made of tokens in exactly one way,
and the segments shown are these tokens, one by one and in their styles.  Together they are
the buffer.  The tokens are in order, the bodies of literals and comments are opaque, and a
painter that goes over the characters once shows the same. -/
theorem highlight_tokenizes {s : Session} {t : Text} (offset : Nat) (sqlMode : s.mode = .sql)
    (shown : s.display.syntaxHighlighting = true ∧ s.display.colorOutput = true)
    (noCommand : '\n' ∈ t ∨ t.head? ≠ some Lexis.systemCommandMark) :
    ∃ tokens, Tokenized t tokens ∧ (∀ tokens', Tokenized t tokens' → tokens' = tokens) ∧
      List.Forall₂ SqlToken.ShownAs tokens (s.highlight t offset).2 ∧
      Segment.plainText (s.highlight t offset).2 = t ∧ Orderly tokens ∧
      (s.highlight t offset).2 = sqlPass [] t := by
  have made := tokenized_sqlTokens t
  rw [s.highlight_sql offset sqlMode shown noCommand]
  refine ⟨sqlTokens t, made, ?_, shownAs_sqlSegments_iff.mpr rfl, plainText_sqlSegments t,
    made.orderly, ?_⟩
  · exact fun tokens' other => tokenized_iff.mp other
  · exact (sqlPass_eq (List.forall_mem_nil _) t).symm

/-- A doubled quote, a quote in a comment, dashes in a literal, a lone dash before a word and
a literal that is left open. -/
theorem highlight_tokenizes_quotes_and_dashes :
    let s := Session.start .sql ⟨true, true⟩ .standard
    let t := "Max(-a,'--''')--it's\nAS_'b".toList
    (s.highlight t 0).2 =
        [⟨.colored .magenta, "Max".toList⟩, ⟨.colored .cyan, ['(']⟩, ⟨.colored .blue, ['-']⟩,
          ⟨.plain, ['a']⟩, ⟨.colored .darkGray, [',']⟩, ⟨.colored .yellow, "'--'".toList⟩,
          ⟨.colored .yellow, "''".toList⟩, ⟨.colored .cyan, [')']⟩,
          ⟨.dimly .darkGray, "--it's".toList⟩, ⟨.plain, ['\n']⟩, ⟨.plain, "AS_".toList⟩,
          ⟨.colored .yellow, "'b".toList⟩] ∧
      ∃ tokens, Tokenized t tokens ∧ (∀ tokens', Tokenized t tokens' → tokens' = tokens) ∧
        List.Forall₂ SqlToken.ShownAs tokens (s.highlight t 0).2 ∧
        Segment.plainText (s.highlight t 0).2 = t ∧ Orderly tokens ∧
        (s.highlight t 0).2 = sqlPass [] t := by
  intro s t
  have noCommand : '\n' ∈ t ∨ t.head? ≠ some Lexis.systemCommandMark := by decide
  refine ⟨?_, highlight_tokenizes (s := s) (t := t) 0 rfl ⟨rfl, rfl⟩ noCommand⟩
  have tokens : sqlTokens t =
      [.word "Max".toList, .mark '(', .mark '-', .word ['a'], .mark ',',
        .literal "'--'".toList, .literal "''".toList, .mark ')', .comment "--it's".toList,
        .mark '\n', .word "AS_".toList, .literal "'b".toList] := by
    simp [t, sqlTokens, sqlToken, isWordChar, Text.isAlphanumeric]
  rw [Session.highlight_sql 0 rfl ⟨rfl, rfl⟩ noCommand, sqlSegments, tokens]
  decide

end StatementShell
