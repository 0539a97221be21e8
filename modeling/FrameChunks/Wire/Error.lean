import FrameChunks.Text.Hex
import FrameChunks.Text.Utf8

/-!
# Why a payload cannot be decoded

## Main definitions

* `DecodeCause`: what is wrong
* `DecodeError`: what is wrong, and at which byte of the payload
* `DecodeError.message`: the wording
* `WriteError`: why a value cannot be written
-/

namespace FrameChunks.Wire

/-- What a reader was reading when the payload ended. -/
inductive Item
  | alignment (size : Nat)
  | uint8
  | int32
  | uint32
  | text
  | bytes
  deriving DecidableEq, Repr

/-- The name of an item in a message. -/
def Item.name : Item → String
  | alignment size => s!"{size}-byte alignment"
  | uint8 => "uint8"
  | int32 => "int32"
  | uint32 => "uint32"
  | text => "string"
  | bytes => "byte sequence"

/-- What is wrong with a payload. -/
inductive DecodeCause
  /-- The payload is shorter than a header. -/
  | headerTooShort (size : Nat)
  /-- The header announces a representation that is not read here. -/
  | unknownRepresentation (identifier : Nat)
  /-- The payload ends within an item. -/
  | truncated (item : Item) (need left : Nat)
  /-- A truth value is neither zero nor one. -/
  | invalidBoolean (value : Nat)
  /-- The bytes of a text are not UTF-8. -/
  | invalidText (fault : Text.Utf8.Fault)
  /-- A cause in the words of another decoder. -/
  | described (text : String)
  deriving DecidableEq, Repr

/-- The wording of a cause. -/
def DecodeCause.message : DecodeCause → String
  | headerTooShort size => s!"Payload too short for CDR encapsulation header: {size} bytes"
  | unknownRepresentation identifier =>
    "Unsupported CDR representation identifier: 0x" ++ String.ofList (Text.Hex.padded 4 identifier)
  | truncated item need left =>
    s!"Truncated payload reading {item.name}: need {need} bytes, {left} left"
  | invalidBoolean value => s!"Invalid boolean value: {value}"
  | invalidText fault => s!"String is not valid UTF-8: {fault.message}"
  | described text => text

/-- A payload that cannot be decoded. -/
structure DecodeError where
  cause : DecodeCause
  /-- The byte of the payload, counted with the header, if the failure has a place. -/
  offset : Option Int := none
  deriving DecidableEq, Repr

/-- The wording of a cause, and the place if there is one. -/
def DecodeError.message (e : DecodeError) : String :=
  match e.offset with
  | some offset => s!"{e.cause.message} (at byte {offset})"
  | none => e.cause.message

/-- Why a value cannot be written. -/
inductive WriteError
  /-- The word is too narrow for the integer. -/
  | outOfRange (value : Int)
  /-- There should be an integer. -/
  | notAnInteger
  /-- There should be a text. -/
  | notText
  /-- There should be bytes. -/
  | notBytes
  deriving DecidableEq, Repr

end FrameChunks.Wire
