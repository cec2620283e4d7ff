import Demux.Json.Token

/-!
# JSON

Strict JSON as a tree.  A tree has one sequence of tokens (`Json.tokens`) and is read back from it
(`Json.ofTokens?`); a text is read by way of its tokens (`Json.parse?`) and written without blanks
(`Json.render`).  Members of an object keep their order and may repeat a key, and a key or a string
whose surrogates are not paired is kept as no text, so that a reader of the tree decides whether it
minds.

A record with named fields is written as an object with its fields in order.  It may be presented as an
object with the fields in any order, among fields that the reader does not know, or as an array of
exactly its fields in order; `Json.fields?` takes both.
-/

namespace Demux

/-- A JSON value. -/
inductive Json
  | null
  | bool (b : Bool)
  /-- A number, as it is spelled. -/
  | number (spelling : List Char)
  | string (text : Json.Text)
  | array (items : List Json)
  | object (members : List (Json.Text × Json))

namespace Json

mutual

/-- The tokens of a value. -/
def tokens : Json → List Token
  | null => [.null]
  | bool b => [.bool b]
  | number spelling => [.number spelling]
  | string text => [.string text]
  | array items => .openBracket :: itemTokens items
  | object members => .openBrace :: memberTokens members

/-- The tokens of the items of an array, with the closing bracket. -/
def itemTokens : List Json → List Token
  | [] => [.closeBracket]
  | [item] => item.tokens ++ [.closeBracket]
  | item :: items => item.tokens ++ .comma :: itemTokens items

/-- The tokens of the members of an object, with the closing brace. -/
def memberTokens : List (Text × Json) → List Token
  | [] => [.closeBrace]
  | [(key, value)] => .string key :: .colon :: value.tokens ++ [.closeBrace]
  | (key, value) :: members =>
      .string key :: .colon :: value.tokens ++ .comma :: memberTokens members

end

mutual

/-- The value at the start of the tokens and the tokens after it, in at most so many nested
steps. -/
def readValue : (fuel : Nat) → List Token → Option (Json × List Token)
  | 0, _ => none
  | fuel + 1, tokens =>
    match tokens with
    | .null :: rest => some (null, rest)
    | .bool b :: rest => some (bool b, rest)
    | .number spelling :: rest => some (number spelling, rest)
    | .string text :: rest => some (string text, rest)
    | .openBracket :: .closeBracket :: rest => some (array [], rest)
    | .openBracket :: rest => (readItems fuel rest).map fun (items, rest) => (array items, rest)
    | .openBrace :: .closeBrace :: rest => some (object [], rest)
    | .openBrace :: rest =>
        (readMembers fuel rest).map fun (members, rest) => (object members, rest)
    | _ => none

/-- One or more items up to the closing bracket, and the tokens after it. -/
def readItems : (fuel : Nat) → List Token → Option (List Json × List Token)
  | 0, _ => none
  | fuel + 1, tokens => do
    let (item, rest) ← readValue fuel tokens
    match rest with
    | .closeBracket :: rest => return ([item], rest)
    | .comma :: rest => do
        let (items, rest) ← readItems fuel rest
        return (item :: items, rest)
    | _ => none

/-- One or more members up to the closing brace, and the tokens after it. -/
def readMembers : (fuel : Nat) → List Token → Option (List (Text × Json) × List Token)
  | 0, _ => none
  | fuel + 1, tokens =>
    match tokens with
    | .string key :: .colon :: rest => do
        let (value, rest) ← readValue fuel rest
        match rest with
        | .closeBrace :: rest => return ([(key, value)], rest)
        | .comma :: rest => do
            let (members, rest) ← readMembers fuel rest
            return ((key, value) :: members, rest)
        | _ => none
    | _ => none

end

/-- The value that the tokens are, with none left over. -/
def ofTokens? (tokens : List Token) : Option Json :=
  match readValue tokens.length tokens with
  | some (value, []) => some value
  | _ => none

/-- The value that a text denotes. -/
def parse? (text : List Char) : Option Json := (Token.scan? text).bind ofTokens?

/-- A value as text, without blanks. -/
def render (value : Json) : List Char := value.tokens.flatMap Token.spell

/-- The fields of a record, by name.  An object gives each field at most once, has no key that is no
text, and may leave fields out or have others; an array gives all of them in order. -/
def fields? (names : List String) : Json → Option (List (Option Json))
  | array items => if items.length = names.length then some (items.map some) else none
  | object members => do
      let members ← members.mapM fun (key, value) => key.map (·, value)
      names.mapM fun name =>
        match members.filter (·.1 = name.toList) with
        | [] => some none
        | [(_, value)] => some (some value)
        | _ => none
  | _ => none

/-- The truth value that a JSON value is. -/
def toBool? : Json → Option Bool
  | bool b => some b
  | _ => none

/-- A record with named fields, written in the order given. -/
def ofFields (fields : List (String × Json)) : Json :=
  object (fields.map fun (name, value) => (some name.toList, value))

end Json

end Demux
