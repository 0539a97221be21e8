import FrameChunks.Text.Hex

/-!
# UTF-8

Encoding and strict decoding. A sequence is refused at its first fault; the fault names the range of
bytes that cannot be part of a well-formed text, and why.

## Main definitions

* `Utf8.encode`: the bytes of a text
* `Utf8.scan`: the first character of a byte string, or the fault that stands there
* `Utf8.decode`: the text of a byte string, or its first fault
* `Utf8.Fault.message`: the wording of a fault
-/

namespace FrameChunks.Text.Utf8

/-- Why a range of bytes is no part of a text. -/
inductive Reason
  | invalidStart
  | invalidContinuation
  | unexpectedEnd
  deriving DecidableEq, Repr

/-- The wording of a reason. -/
def Reason.message : Reason → String
  | .invalidStart => "invalid start byte"
  | .invalidContinuation => "invalid continuation byte"
  | .unexpectedEnd => "unexpected end of data"

/-- A range of bytes that is no part of a text. -/
structure Fault where
  /-- The position of the first byte of the range. -/
  start : Nat
  /-- The number of bytes in the range. -/
  length : Nat
  /-- The first byte of the range. -/
  byte : UInt8
  reason : Reason
  deriving DecidableEq, Repr

/-- Names the codec, the byte or the range of positions, and the reason. -/
def Fault.message (f : Fault) : String :=
  let place :=
    if f.length = 1 then
      "byte 0x" ++ String.ofList (Hex.ofByte f.byte) ++ " in position " ++ toString f.start
    else
      "bytes in position " ++ toString f.start ++ "-" ++ toString (f.start + f.length - 1)
  "'utf-8' codec can't decode " ++ place ++ ": " ++ f.reason.message

/-- The bytes of one character. -/
def encodeChar (c : Char) : List UInt8 :=
  let n := c.toNat
  if n < 0x80 then [UInt8.ofNat n]
  else if n < 0x800 then [UInt8.ofNat (0xC0 + n / 0x40), UInt8.ofNat (0x80 + n % 0x40)]
  else if n < 0x10000 then
    [UInt8.ofNat (0xE0 + n / 0x1000), UInt8.ofNat (0x80 + n / 0x40 % 0x40),
      UInt8.ofNat (0x80 + n % 0x40)]
  else
    [UInt8.ofNat (0xF0 + n / 0x40000), UInt8.ofNat (0x80 + n / 0x1000 % 0x40),
      UInt8.ofNat (0x80 + n / 0x40 % 0x40), UInt8.ofNat (0x80 + n % 0x40)]

/-- The bytes of a text. -/
def encode (s : List Char) : List UInt8 := s.flatMap encodeChar

/-- Whether a byte lies in a closed range. -/
def within (lo hi : Nat) (b : UInt8) : Bool := lo ≤ b.toNat && b.toNat ≤ hi

/-- The bytes that may follow the first byte of a sequence. After E0 and F0 the low ones would spell
an overlong form, after ED the high ones a surrogate, after F4 a number above the last code point. -/
def secondByte (first : UInt8) : UInt8 → Bool :=
  if first = 0xE0 then within 0xA0 0xBF
  else if first = 0xED then within 0x80 0x9F
  else if first = 0xF0 then within 0x90 0xBF
  else if first = 0xF4 then within 0x80 0x8F
  else within 0x80 0xBF

/-- A byte that continues a sequence. -/
def continues (b : UInt8) : Bool := within 0x80 0xBF b

/-- The low six bits of a continuation byte. -/
def payload (b : UInt8) : Nat := b.toNat % 0x40

/-- What stands at the front of a byte string. -/
inductive Front
  /-- A character and the number of its bytes. -/
  | char (c : Char) (length : Nat)
  /-- A number of bytes that are no part of a text. -/
  | fault (length : Nat) (reason : Reason)
  deriving DecidableEq, Repr

/-- Reads the first character of a byte string that starts with `b`. -/
def scan (b : UInt8) (rest : List UInt8) : Front :=
  if b < 0x80 then .char (Char.ofNat b.toNat) 1
  -- two bytes; C0 and C1 would spell an overlong form
  else if within 0xC2 0xDF b then
    match rest with
    | [] => .fault 1 .unexpectedEnd
    | b₁ :: _ =>
      if continues b₁ then .char (Char.ofNat (b.toNat % 0x20 * 0x40 + payload b₁)) 2
      else .fault 1 .invalidContinuation
  -- three bytes
  else if within 0xE0 0xEF b then
    match rest with
    | [] => .fault 1 .unexpectedEnd
    | b₁ :: rest =>
      if secondByte b b₁ then
        match rest with
        | [] => .fault 2 .unexpectedEnd
        | b₂ :: _ =>
          if continues b₂ then
            .char (Char.ofNat ((b.toNat % 0x10 * 0x40 + payload b₁) * 0x40 + payload b₂)) 3
          else .fault 2 .invalidContinuation
      else .fault 1 .invalidContinuation
  -- four bytes
  else if within 0xF0 0xF4 b then
    match rest with
    | [] => .fault 1 .unexpectedEnd
    | b₁ :: rest =>
      if secondByte b b₁ then
        match rest with
        | [] => .fault 2 .unexpectedEnd
        | b₂ :: rest =>
          if continues b₂ then
            match rest with
            | [] => .fault 3 .unexpectedEnd
            | b₃ :: _ =>
              if continues b₃ then
                .char (Char.ofNat (((b.toNat % 0x8 * 0x40 + payload b₁) * 0x40 + payload b₂) * 0x40
                  + payload b₃)) 4
              else .fault 3 .invalidContinuation
          else .fault 2 .invalidContinuation
      else .fault 1 .invalidContinuation
  else .fault 1 .invalidStart

/-- Decodes the bytes from position `position` on, after the characters `done` (last one first). -/
def decodeFrom (position : Nat) (done : List Char) : List UInt8 → Except Fault (List Char)
  | [] => .ok done.reverse
  | b :: rest =>
    match scan b rest with
    | .char c length => decodeFrom (position + length) (c :: done) (rest.drop (length - 1))
    | .fault length reason => .error ⟨position, length, b, reason⟩
termination_by bytes => bytes.length
decreasing_by simp only [List.length_drop, List.length_cons]; omega

/-- The text of a byte string, or its first fault. -/
def decode (bytes : List UInt8) : Except Fault (List Char) := decodeFrom 0 [] bytes

end FrameChunks.Text.Utf8
