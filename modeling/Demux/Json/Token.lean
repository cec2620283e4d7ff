import Demux.Json.Quoted

/-!
# Tokens

The lexical level of JSON: punctuation, the three literal names, numbers and quoted texts, with
blanks allowed between any two of them.  `Token.scan?` cuts a text into tokens, `Token.spell`
writes a token.  A number is kept as it is spelled, since a reader may care whether it has a sign, a
fraction or an exponent.
-/

namespace Demux.Json

/-- One token of a JSON text. -/
inductive Token
  | openBrace
  | closeBrace
  | openBracket
  | closeBracket
  | colon
  | comma
  | null
  | bool (b : Bool)
  | number (spelling : List Char)
  | string (text : Text)
  deriving DecidableEq, Repr

/-! ### Numbers -/

namespace Number

/-- Whether a spelling is one or more digits. -/
def isDigits (s : List Char) : Bool := !s.isEmpty && s.all Char.isDigit

/-- Whether a spelling is nothing or an exponent. -/
def isExponentPart : List Char → Bool
  | [] => true
  | e :: sign :: rest =>
      (e == 'e' || e == 'E') &&
        if sign == '+' || sign == '-' then isDigits rest else isDigits (sign :: rest)
  | [_] => false

/-- Whether a spelling is an optional fraction and an optional exponent. -/
def isFractionPart : List Char → Bool
  | '.' :: rest =>
      isDigits (rest.takeWhile Char.isDigit) && isExponentPart (rest.dropWhile Char.isDigit)
  | s => isExponentPart s

/-- Whether a spelling is a number without a sign: a single zero, or digits that do not start with
a zero, then the optional parts. -/
def isUnsigned : List Char → Bool
  | [] => false
  | c :: rest =>
      if c = '0' then isFractionPart rest
      else c.isDigit && isFractionPart (rest.dropWhile Char.isDigit)

/-- Whether a spelling is a JSON number. -/
def isNumber : List Char → Bool
  | '-' :: rest => isUnsigned rest
  | s => isUnsigned s

/-- Whether a character can occur in a number. -/
def isNumberChar (c : Char) : Bool :=
  c.isDigit || c == '+' || c == '-' || c == '.' || c == 'e' || c == 'E'

end Number

namespace Token

/-- The four characters that may stand between tokens. -/
def isBlank (c : Char) : Bool := c == ' ' || c == '\n' || c == '\t' || c == '\r'

/-- The token at the start of the input, given its first character, and the input after it. -/
def next? (c : Char) (rest : List Char) : Option (Token × List Char) :=
  if c = '\x7b' then some (openBrace, rest)
  else if c = '\x7d' then some (closeBrace, rest)
  else if c = '[' then some (openBracket, rest)
  else if c = ']' then some (closeBracket, rest)
  else if c = ':' then some (colon, rest)
  else if c = ',' then some (comma, rest)
  else if c = '"' then (Quoted.body? rest).map fun (pieces, rest) =>
    (string (Quoted.join? pieces), rest)
  else if c = '-' ∨ c.isDigit then
    let spelling := c :: rest.takeWhile Number.isNumberChar
    if Number.isNumber spelling then
      some (number spelling, rest.dropWhile Number.isNumberChar)
    else none
  else
    match c, rest with
    | 'n', 'u' :: 'l' :: 'l' :: rest => some (null, rest)
    | 't', 'r' :: 'u' :: 'e' :: rest => some (bool true, rest)
    | 'f', 'a' :: 'l' :: 's' :: 'e' :: rest => some (bool false, rest)
    | _, _ => none

/-- The tokens of an input, in at most `fuel` steps; each step takes at least one character. -/
def scanWithin : (fuel : Nat) → List Char → Option (List Token)
  | _, [] => some []
  | 0, _ :: _ => none
  | fuel + 1, c :: rest =>
      if isBlank c then scanWithin fuel rest
      else do
        let (token, rest) ← next? c rest
        let tokens ← scanWithin fuel rest
        return token :: tokens

/-- The tokens of an input, if it is made of tokens and blanks only. -/
def scan? (input : List Char) : Option (List Token) := scanWithin input.length input

/-- How a token is written. -/
def spell : Token → List Char
  | openBrace => ['\x7b']
  | closeBrace => ['\x7d']
  | openBracket => ['[']
  | closeBracket => [']']
  | colon => [':']
  | comma => [',']
  | null => ['n', 'u', 'l', 'l']
  | bool true => ['t', 'r', 'u', 'e']
  | bool false => ['f', 'a', 'l', 's', 'e']
  | number spelling => spelling
  | string text => Quoted.quote text

end Token

end Demux.Json
