import FrameChunks.Calendar
import FrameChunks.Document.Error
import FrameChunks.Document.Node
import FrameChunks.Document.Token
import FrameChunks.Text.Split

/-!
# What scalars mean

A plain scalar is a truth value, a number, null, a date or a text, by its form alone. A tag can say
instead what kind of value a scalar is. Numbers may have underscores among their digits, and may be
written in groups to base sixty.

## Main definitions

* `Scalar.Kind`: the kinds of values
* `Scalar.Kind.ofForm`, `Scalar.Kind.ofTag?`: the kind of a plain scalar, and of a tag
* `Scalar.Kind.read`: the value of a text
* `Scalar.node`: the meaning of a scalar
-/

namespace FrameChunks.Document.Scalar

/-- The kinds of values that scalars stand for. -/
inductive Kind
  | null
  | bool
  | integer
  | float
  | date
  | text
  /-- Bytes, spelled in letters. -/
  | bytes
  /-- The key whose value is a mapping to take entries from. -/
  | merge
  /-- The key of the value that a mapping stands for. -/
  | default
  deriving DecidableEq, Repr

/-! ## The forms of plain scalars -/

/-- Words that mean a truth value. -/
def truths : List (String × Bool) :=
  [("yes", true), ("no", false), ("true", true), ("false", false), ("on", true), ("off", false)]

/-- A word in small letters, with a capital letter at its front, or in capital letters. -/
def spellings (word : String) : List String := [word, word.capitalize, word.map Char.toUpper]

/-- Whether a text is a word for a truth value. -/
def isBool (s : String) : Bool := truths.any fun e => s ∈ spellings e.1

/-- Whether a text means null. -/
def isNull (s : String) : Bool := s.isEmpty || s = "~" || s ∈ spellings "null"

/-- A decimal digit. -/
def isDigit (c : Char) : Bool := '0' ≤ c && c ≤ '9'

/-- A digit or an underscore. -/
def isLoose (c : Char) : Bool := isDigit c || c = '_'

/-- The value of a digit of a base up to sixteen. -/
def digitOf? (base : Nat) (c : Char) : Option Nat := (Quoted.hexDigit? c).filter (· < base)

/-- A digit of a base, or an underscore. -/
def isLooseOf (base : Nat) (c : Char) : Bool := c = '_' || (digitOf? base c).isSome

/-- Whether a group after the first one is a number below sixty, in one or two digits. -/
def isSixtieth : List Char → Bool
  | [a] => isDigit a
  | [a, b] => '0' ≤ a && a ≤ '5' && isDigit b
  | _ => false

/-- Whether a text consists of several groups to base sixty. -/
def isSexagesimal (s : List Char) : Bool :=
  match Text.split ':' s with
  | first :: more => first.all isLoose && !more.isEmpty && more.all isSixtieth
  | [] => false

/-- Whether a text is an integer: binary, octal, decimal, hexadecimal, or in groups to base sixty. -/
def isInteger (s : List Char) : Bool :=
  match (Decimal.sign s).2 with
  | [] => false
  -- a leading zero tells the base
  | '0' :: 'b' :: digits => !digits.isEmpty && digits.all (isLooseOf 2)
  | '0' :: 'x' :: digits => !digits.isEmpty && digits.all (isLooseOf 16)
  | '0' :: digits => digits.all (isLooseOf 8)
  | c :: rest => isDigit c && (rest.all isLoose || isSexagesimal (c :: rest))

/-- Whether a text is nothing or an exponent, which must have a sign. -/
def isExponent : List Char → Bool
  | [] => true
  | e :: sign :: digits =>
    (e = 'e' || e = 'E') && (sign = '+' || sign = '-') && !digits.isEmpty && digits.all isDigit
  | [_] => false

/-- Whether a text is a number with a point. Before the point there may be groups to base sixty.
Without a digit before the point there is no sign. -/
def isPointed (s : List Char) : Bool :=
  let body := (Decimal.sign s).2
  let whole := body.takeWhile (· ≠ '.')
  match body.dropWhile (· ≠ '.') with
  | [] => false
  | _ :: rest =>
    let exponent := rest.dropWhile isLoose
    match whole with
    -- the point comes first
    | [] => s = body && rest.head?.any isDigit && isExponent exponent
    | first :: _ =>
      isDigit first &&
        (whole.all isLoose && isExponent exponent || isSexagesimal whole && exponent.isEmpty)

/-- Words that mean infinity. -/
def infinities : List String := [".inf", ".Inf", ".INF"]

/-- Words that mean that there is no number. -/
def notNumbers : List String := [".nan", ".NaN", ".NAN"]

/-- Whether a text is a floating-point number. -/
def isFloat (s : List Char) : Bool :=
  String.ofList s ∈ notNumbers || String.ofList (Decimal.sign s).2 ∈ infinities || isPointed s

/-- Takes between `least` and `most` digits: their number and what follows. -/
def takeDigits? (least most : Nat) (s : List Char) : Option (Nat × List Char) :=
  let digits := (s.takeWhile isDigit).take most
  if least ≤ digits.length then
    some (Decimal.value (digits.filterMap Decimal.asciiDigit?), s.drop digits.length)
  else none

/-- Takes a given character. -/
def take? (c : Char) : List Char → Option (List Char)
  | d :: rest => if d = c then some rest else none
  | [] => none

/-- Takes the distance from universal time, in minutes; nothing is no distance. -/
def zone? (s : List Char) : Option Int := do
  match s.dropWhile fun c => c = ' ' || c = '\t' with
  | [] => if s.isEmpty then some 0 else none
  | ['Z'] => some 0
  | sign :: rest =>
    if sign = '+' ∨ sign = '-' then
      let (hours, rest) ← takeDigits? 1 2 rest
      match rest with
      | [] => some (Decimal.signed (sign = '-') (60 * hours))
      | c :: rest =>
        let (minutes, rest) ← takeDigits? 2 2 rest
        if c = ':' ∧ rest = [] then some (Decimal.signed (sign = '-') (60 * hours + minutes))
        else none
    else none

/-- Whether a text is a time of day behind a date, and whether there is such a time. -/
def clock? (s : List Char) : Option Bool := do
  let blanks := s.dropWhile fun c => c = ' ' || c = '\t'
  let s ←
    if blanks.length < s.length then some blanks
    else (take? 'T' s).orElse fun _ => take? 't' s
  let (hour, s) ← takeDigits? 1 2 s
  let (minute, s) ← takeDigits? 2 2 (← take? ':' s)
  let (second, s) ← takeDigits? 2 2 (← take? ':' s)
  let s := if s.head? = some '.' then s.tail.dropWhile isDigit else s
  let minutes ← zone? s
  return hour < 24 && minute < 60 && second < 60 && minutes.natAbs < 24 * 60

/-- Whether a text is a date, with or without a time of day, and whether there is such a date. -/
def date? (s : List Char) : Option Bool := do
  let (year, rest) ← takeDigits? 4 4 s
  let (month, rest) ← takeDigits? 1 2 (← take? '-' rest)
  let (day, rest) ← takeDigits? 1 2 (← take? '-' rest)
  let isClock ← if rest.isEmpty then some true else clock? rest
  return (⟨year, month, day⟩ : Date).IsValid && isClock

/-- Whether a plain scalar is a date. Without a time of day, month and day have two digits. -/
def isDate (s : List Char) : Bool := (date? s).isSome && 10 ≤ s.length

namespace Kind

/-- The kind of a plain scalar. A line break at its end does not count. -/
def ofForm (s : String) : Kind :=
  let s := if s.endsWith "\n" then (s.dropEnd 1).toString else s
  if isBool s then bool
  else if isFloat s.toList then float
  else if isInteger s.toList then integer
  else if isNull s then null
  else if isDate s.toList then date
  else if s = "<<" then merge
  else if s = "=" then default
  else text

/-- The kinds by the ends of their tags. -/
def tags : List (String × Kind) :=
  [("null", null), ("bool", bool), ("int", integer), ("float", float), ("timestamp", date),
   ("str", text), ("binary", bytes), ("merge", merge), ("value", default)]

/-- The kind of a tag. -/
def ofTag? (tag : String) : Option Kind :=
  (tags.find? fun e => Tag.usual ++ e.1 = tag).map Prod.snd

end Kind

/-! ## Values -/

/-- A truth value by its word, in any spelling. -/
def readBool (s : String) : Except DocumentError Bool :=
  match truths.find? fun e => e.1 = s.map Char.toLower with
  | some e => .ok e.2
  | none => .error .unknownWord

/-- An integer of the digits of a base; there must be one. There may be blanks around it and a sign,
and the letter of the base behind a zero. -/
def readBased (base : Nat) (letter : Char) (s : List Char) : Except DocumentError Int :=
  let (negative, s) := Decimal.sign (Text.trim s)
  let digits :=
    match s with
    | '0' :: c :: rest => if c.toLower = letter then rest else s
    | _ => s
  let value? (c : Char) : Option Nat := (digitOf? base c).orElse fun _ =>
    (Text.digitValue? c).filter (· < base)
  match digits.mapM value? with
  | none | some [] => .error .impossibleValue
  | some ds => .ok (Decimal.signed negative (ds.foldl (fun n d => base * n + d) 0))

/-- An integer in decimal digits. -/
def readDecimal (s : List Char) : Except DocumentError Int :=
  match Decimal.ofText? s with
  | some n => .ok n
  | none => .error .impossibleValue

/-- An integer, whose base its beginning tells. -/
def readInteger (s : List Char) : Except DocumentError Int := do
  let s := s.filter (· ≠ '_')
  let n ←
    match (Decimal.sign s).2 with
    | [] => throw .noDigits
    | ['0'] => pure 0
    | '0' :: 'b' :: digits => readBased 2 'b' digits
    | '0' :: 'x' :: digits => readBased 16 'x' digits
    | '0' :: digits => readBased 8 'o' ('0' :: digits)
    | digits => do
      let groups ← (Text.split ':' digits).mapM readDecimal
      pure (groups.foldl (fun n g => 60 * n + g) 0)
  return if (Decimal.sign s).1 then -n else n

/-- A real number in decimal digits. -/
def readReal (s : List Char) : Except DocumentError Binary :=
  match Decimal.realOfText? s with
  | some x => .ok x
  | none => .error .impossibleValue

/-- The sum of groups to base sixty, last group first, where the group at the front counts `base`
times. Sums and products are rounded as they arise. -/
def sumGroups (sum : Binary) (base : Nat) : List Binary → Except DocumentError Binary
  | [] => .ok sum
  | g :: more =>
    match BinaryFormat.double.ofInt? base with
    | none => .error .tooLarge
    | some b => sumGroups (BinaryFormat.double.add sum (BinaryFormat.double.mul g b)) (60 * base) more

/-- A floating-point number. -/
def readFloat (s : List Char) : Except DocumentError Binary := do
  let s := (s.filter (· ≠ '_')).map Char.toLower
  if s.isEmpty then throw .noDigits
  let (negative, body) := Decimal.sign s
  let x ←
    match String.ofList body with
    | ".inf" => pure ⟨false, BinaryFormat.double.infinity⟩
    | ".nan" => pure BinaryFormat.double.notANumber
    | _ =>
      if ':' ∈ body then do
        let groups ← (Text.split ':' body).mapM readReal
        sumGroups ⟨false, 0⟩ 1 groups.reverse
      else readReal body
  return if negative then ⟨!x.negative, x.magnitude⟩ else x

/-- The value of a text. The two kinds of keys have none. -/
def Kind.read (k : Kind) (s : String) : Except DocumentError Node :=
  match k with
  | null => .ok .null
  | bool => (readBool s).map .bool
  | integer => (readInteger s.toList).map .integer
  | float => (readFloat s.toList).map .float
  | date =>
    match date? s.toList with
    | some true => .ok .other
    | some false => .error .impossibleValue
    | none => .error .notDate
  | text => .ok (.text s)
  | bytes => if s.toList.all (·.toNat < 128) then .ok .other else .error .malformed
  | merge => .error .malformed
  | default => .error .malformed

/-- The kind of a scalar; nothing if its tag is that of no scalar. -/
def kind? (tag : Option String) (style : Style) (s : String) : Option Kind :=
  match tag with
  | some tag => Kind.ofTag? tag
  | none => some (if style = .plain then Kind.ofForm s else .text)

/-- The meaning of a scalar. -/
def node (tag : Option String) (style : Style) (s : String) : Except DocumentError Node :=
  match kind? tag style s with
  | none => .error .malformed
  | some .text => .ok (if style = .illFormed then .illFormed else .text s)
  | some k => k.read s

end FrameChunks.Document.Scalar
