import FrameChunks.Number.Decimal
import FrameChunks.Text.JsonQuoted

/-!
# JSON

## Main definitions

* `Json`: a JSON document
* `Json.text`: the document on one line
* `Json.read?`: reads a document
-/

namespace FrameChunks

open Text

/-- A JSON document. Integers are kept apart from other numbers, of which the numeral is kept. -/
inductive Json
  | null
  | bool (b : Bool)
  | int (n : Int)
  | float (numeral : String)
  | str (s : String)
  | arr (items : List Json)
  | obj (fields : List (String × Json))
  deriving Inhabited

namespace Json

/-! ## Writing -/

mutual

/-- The document on one line. -/
def text : Json → String
  | null => "null"
  | bool b => if b then "true" else "false"
  | int n => toString n
  | float numeral => numeral
  | str s => jsonQuoted s
  | arr items => "[" ++ ", ".intercalate (itemTexts items) ++ "]"
  | obj fields => "\x7b" ++ ", ".intercalate (fieldTexts fields) ++ "\x7d"

/-- The texts of the items of an array. -/
def itemTexts : List Json → List String
  | [] => []
  | item :: rest => item.text :: itemTexts rest

/-- The texts of the fields of an object. -/
def fieldTexts : List (String × Json) → List String
  | [] => []
  | (key, value) :: rest => (jsonQuoted key ++ ": " ++ value.text) :: fieldTexts rest

end

/-! ## Reading -/

/-- Blanks between the parts of a document. -/
def isGap (c : Char) : Bool := c = ' ' || c = '\t' || c = '\n' || c = '\r'

/-- Drops blanks. -/
def skip (s : List Char) : List Char := s.dropWhile isGap

/-- The characters that numerals are made of. -/
def isNumeral (c : Char) : Bool := c.isDigit || c ∈ ['-', '+', '.', 'e', 'E']

/-- The number that a numeral stands for. -/
def ofNumeral? (s : List Char) : Option Json :=
  if s.any (· ∈ ['.', 'e', 'E']) then
    if s.isEmpty then none else some (float (String.ofList s))
  else (Decimal.integer? Decimal.asciiDigit? s).map int

/-- The words of JSON. -/
def words : List (List Char × Json) :=
  [("null".toList, null), ("true".toList, bool true), ("false".toList, bool false)]

/-- Reads a word or a number. -/
def readAtom? (s : List Char) : Option (Json × List Char) :=
  match words.find? fun w => w.1.isPrefixOf s with
  | some (word, value) => some (value, s.drop word.length)
  | none => (ofNumeral? (s.takeWhile isNumeral)).map fun n => (n, s.dropWhile isNumeral)

mutual

/-- Reads a value; `fuel` bounds the number of steps. -/
def readValue? (fuel : Nat) (s : List Char) : Option (Json × List Char) :=
  match fuel, skip s with
  | 0, _ => none
  | _ + 1, '"' :: rest => (readJsonQuoted? rest).map fun (text, rest) => (str text, rest)
  | fuel + 1, '[' :: rest =>
    match skip rest with
    | ']' :: rest => some (arr [], rest)
    | _ => readItems? fuel [] rest
  | fuel + 1, '\x7b' :: rest =>
    match skip rest with
    | '\x7d' :: rest => some (obj [], rest)
    | _ => readFields? fuel [] rest
  | _ + 1, s => readAtom? s

/-- Reads the items of an array behind those that are found, the last one first. -/
def readItems? (fuel : Nat) (found : List Json) (s : List Char) : Option (Json × List Char) :=
  match fuel with
  | 0 => none
  | fuel + 1 =>
    match readValue? fuel s with
    | none => none
    | some (item, rest) =>
      match skip rest with
      | ',' :: rest => readItems? fuel (item :: found) rest
      | ']' :: rest => some (arr (item :: found).reverse, rest)
      | _ => none

/-- Reads the fields of an object behind those that are found, the last one first. -/
def readFields? (fuel : Nat) (found : List (String × Json)) (s : List Char) :
    Option (Json × List Char) :=
  match fuel, skip s with
  | fuel + 1, '"' :: rest =>
    match readJsonQuoted? rest with
    | none => none
    | some (key, rest) =>
      match skip rest with
      | ':' :: rest =>
        match readValue? fuel rest with
        | none => none
        | some (value, rest) =>
          match skip rest with
          | ',' :: rest => readFields? fuel ((key, value) :: found) rest
          | '\x7d' :: rest => some (obj ((key, value) :: found).reverse, rest)
          | _ => none
      | _ => none
  | _, _ => none

end

/-- Reads a document with blanks around it. -/
def read? (s : String) : Option Json :=
  let s := s.toList
  match readValue? (2 * s.length + 1) s with
  | some (value, rest) => if (skip rest).isEmpty then some value else none
  | none => none

end Json

end FrameChunks
