/-!
# Quoted text

A quoted text is a run of pieces between two quotation marks.  A piece is a character, written as
itself or as a short escape, or a sixteen-bit unit in four hexadecimal digits.  Reading goes in two
steps, because only the second one can tell that a text is no text: `body?` cuts the pieces off the
input, and `join?` puts the units together, which fails on a surrogate without its partner.
Writing (`quote`) escapes the quotation mark, the backslash and the characters below the blank, and
nothing else.
-/

namespace Demux.Json

/-- What a quoted text denotes: its characters, or nothing if a surrogate in it has no partner. -/
abbrev Text := Option (List Char)

namespace Quoted

/-- One piece of a quoted text. -/
inductive Piece
  /-- A character, written as itself or as a short escape. -/
  | char (c : Char)
  /-- A sixteen-bit unit, written in hexadecimal. -/
  | unit (value : Nat)
  deriving DecidableEq, Repr

/-- The value of a hexadecimal digit of either case. -/
def hexDigit? (c : Char) : Option Nat :=
  if '0' ≤ c ∧ c ≤ '9' then some (c.toNat - '0'.toNat)
  else if 'a' ≤ c ∧ c ≤ 'f' then some (c.toNat - 'a'.toNat + 10)
  else if 'A' ≤ c ∧ c ≤ 'F' then some (c.toNat - 'A'.toNat + 10)
  else none

/-- The value of four hexadecimal digits. -/
def hexUnit? (a b c d : Char) : Option Nat := do
  let a ← hexDigit? a
  let b ← hexDigit? b
  let c ← hexDigit? c
  let d ← hexDigit? d
  return ((a * 16 + b) * 16 + c) * 16 + d

/-- The character that a short escape stands for, from the letter after the backslash. -/
def shortEscape? (c : Char) : Option Char :=
  if c = '"' ∨ c = '\\' ∨ c = '/' then some c
  else if c = 'b' then some '\x08'
  else if c = 'f' then some '\x0c'
  else if c = 'n' then some '\n'
  else if c = 'r' then some '\r'
  else if c = 't' then some '\t'
  else none

/-- The pieces up to the closing quotation mark, and the input after it.  A character below the
blank has to be escaped. -/
def body? : List Char → Option (List Piece × List Char)
  | [] => none
  | c :: rest =>
    if c = '"' then some ([], rest)
    else if c = '\\' then
      match rest with
      | 'u' :: a :: b :: c :: d :: rest => do
          let value ← hexUnit? a b c d
          let (pieces, rest) ← body? rest
          return (.unit value :: pieces, rest)
      | letter :: rest => do
          let c ← shortEscape? letter
          let (pieces, rest) ← body? rest
          return (.char c :: pieces, rest)
      | [] => none
    else if c < ' ' then none
    else do
      let (pieces, rest) ← body? rest
      return (.char c :: pieces, rest)

/-- Whether a unit is the first half of a pair. -/
def isHighSurrogate (value : Nat) : Bool := 0xD800 ≤ value && value < 0xDC00

/-- Whether a unit is the second half of a pair. -/
def isLowSurrogate (value : Nat) : Bool := 0xDC00 ≤ value && value < 0xE000

/-- The character that a pair of surrogates stands for. -/
def ofSurrogates (high low : Nat) : Char :=
  Char.ofNat (0x10000 + (high - 0xD800) * 0x400 + (low - 0xDC00))

/-- The text that pieces spell.  The two halves of a pair must both be written as units, one right
after the other. -/
def join? : List Piece → Text
  | [] => some []
  | .char c :: rest => (join? rest).map (c :: ·)
  | .unit value :: rest =>
    if isHighSurrogate value then
      match rest with
      | .unit low :: rest =>
          if isLowSurrogate low then (join? rest).map (ofSurrogates value low :: ·) else none
      | _ => none
    else if isLowSurrogate value then none
    else (join? rest).map (Char.ofNat value :: ·)

/-- The lower-case hexadecimal digit of a value below sixteen. -/
def hexDigit (value : Nat) : Char :=
  if value < 10 then Char.ofNat ('0'.toNat + value) else Char.ofNat ('a'.toNat + (value - 10))

/-- How a character is written inside a quoted text. -/
def escape (c : Char) : List Char :=
  if c = '"' then ['\\', '"']
  else if c = '\\' then ['\\', '\\']
  else if c = '\x08' then ['\\', 'b']
  else if c = '\x0c' then ['\\', 'f']
  else if c = '\n' then ['\\', 'n']
  else if c = '\r' then ['\\', 'r']
  else if c = '\t' then ['\\', 't']
  else if c < ' ' then ['\\', 'u', '0', '0', hexDigit (c.toNat / 16), hexDigit (c.toNat % 16)]
  else [c]

/-- A text in quotation marks.  What is no text is written as a surrogate that has no partner. -/
def quote : Text → List Char
  | some characters => '"' :: characters.flatMap escape ++ ['"']
  | none => ['"', '\\', 'u', 'd', '8', '0', '0', '"']

end Quoted

end Demux.Json
