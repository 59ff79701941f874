import PageRouter.Text.Basic

/-!
# Tokens of a pattern

A route's pattern is written in a small notation: `:name` stands for one segment of a path, `*name`
for the rest of it, parentheses make a part optional, and everything else stands for itself.  A
colon or a star that no letter, digit or underscore follows is plain text, so that a pattern can
hold one without any escape.

Reading goes from the end of the text to its start (`Token.push`): what a character means depends
only on what follows it.  A name is cut from the literal that already stands to the right of its
sigil.  `Token.write` is the way back.
-/

namespace PageRouter

open Text

inductive Token where
  | literal (text : Text)
  | named (name : Text)
  /-- `*name`, the rest of the path. -/
  | splat (name : Text)
  /-- `(`, the start of an optional part. -/
  | groupOpen
  | groupClose
  deriving DecidableEq, Repr

/-- The characters of a parameter's name: ASCII letters, digits and the underscore. -/
def isNameChar (c : Char) : Bool :=
  isLetter c || isDigit c || c == '_'

namespace Token

/-! ## Reading -/

/-- Tokens with literal text in front, which joins a literal that is already there. -/
def pushLiteral (text : Text) : List Token → List Token
  | .literal more :: tokens => .literal (text ++ more) :: tokens
  | tokens => if text = [] then tokens else .literal text :: tokens

/-- **One more character in front.**  A sigil takes the name characters at the start of the literal
behind it; where there are none it is literal itself. -/
def push (c : Char) (tokens : List Token) : List Token :=
  if c = '(' then .groupOpen :: tokens
  else if c = ')' then .groupClose :: tokens
  else if c = ':' ∨ c = '*' then
    match tokens with
    | .literal text :: more =>
      match text.takeWhile isNameChar with
      | [] => .literal (c :: text) :: more
      | name =>
        (if c = ':' then .named name else .splat name) ::
          pushLiteral (text.dropWhile isNameChar) more
    | _ => .literal [c] :: tokens
  else pushLiteral [c] tokens

end Token

def tokenize (text : Text) : List Token :=
  text.foldr Token.push []

namespace Token

/-! ## Writing -/

def text : Token → Text
  | .literal text => text
  | .named name => ':' :: name
  | .splat name => '*' :: name
  | .groupOpen => ['(']
  | .groupClose => [')']

/-- The text of a list of tokens. -/
def write (tokens : List Token) : Text :=
  tokens.flatMap text

theorem write_pushLiteral (text : Text) (tokens : List Token) :
    write (pushLiteral text tokens) = text ++ write tokens := by
  unfold pushLiteral
  split
  · simp [write, Token.text]
  · split
    · next h => simp [h]
    · simp [write, Token.text]

theorem write_push (c : Char) (tokens : List Token) : write (push c tokens) = c :: write tokens := by
  unfold push
  split
  · next h => simp [write, Token.text, h]
  split
  · next h => simp [write, Token.text, h]
  split
  · next h =>
    split
    · next text more =>
      split
      · simp [write, Token.text]
      · have hsplit : text.takeWhile isNameChar ++ text.dropWhile isNameChar = text :=
          List.takeWhile_append_dropWhile
        have := write_pushLiteral (text.dropWhile isNameChar) more
        simp only [write, List.flatMap_cons] at this ⊢
        rw [this]
        rcases h with rfl | rfl <;> simp [Token.text, ← List.append_assoc, hsplit]
    · simp [write, Token.text]
  · simpa using write_pushLiteral [c] tokens

/-- **Nothing is lost**: the tokens of a text spell it. -/
theorem write_tokenize (text : Text) : write (tokenize text) = text := by
  induction text with
  | nil => rfl
  | cons c text ih => rw [tokenize, List.foldr_cons, write_push]; exact congrArg _ ih

end Token

end PageRouter
