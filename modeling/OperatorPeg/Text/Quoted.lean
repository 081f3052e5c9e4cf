/-!
# Quoted tokens

A text is quoted by writing a delimiter before and after it and every
delimiter inside it twice. `quote` writes the token, `content` cuts the two
ends off again, and `collapse` undoes the doubling from the left.
-/

namespace OperatorPeg.Text

/-- Every `delimiter` of the text written twice. -/
def double (delimiter : Char) : List Char → List Char
  | [] => []
  | c :: cs => if c = delimiter then c :: c :: double delimiter cs else c :: double delimiter cs

/-- The text between two delimiters, with the delimiters inside it doubled. -/
def quote (delimiter : Char) (text : String) : String :=
  String.ofList (delimiter :: (double delimiter text.toList ++ [delimiter]))

/-- Two neighbouring delimiters, read from the left, become one. -/
def collapse (delimiter : Char) : List Char → List Char
  | [] => []
  | [c] => [c]
  | c :: d :: cs =>
      if c = delimiter ∧ d = delimiter then c :: collapse delimiter cs
      else c :: collapse delimiter (d :: cs)

/-- What is left of a token without its first and its last character. -/
def content (token : List Char) : List Char := token.tail.dropLast

/-- The text that a token quotes: its first character is the delimiter. -/
def unquote (token : List Char) : List Char :=
  match token with
  | [] => []
  | delimiter :: _ => collapse delimiter (content token)

end OperatorPeg.Text
