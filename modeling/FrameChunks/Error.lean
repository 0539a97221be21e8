import FrameChunks.Image.Encoding
import FrameChunks.Text.Quoted
import FrameChunks.Wire.Error

/-!
# Errors

A `PluginError` is a failure that lies in the messages of a channel: what a host may skip. A
`Failure` is that, or one that a host cannot skip.

## Main definitions

* `PluginError`, `PluginError.className`, `PluginError.message`: the errors of parsers
* `Failure`: everything that can go wrong while a channel is loaded
-/

namespace FrameChunks

open Text

/-- Why columns cannot be put together. -/
inductive BatchError
  /-- Columns of one chunk differ in length. -/
  | lengthMismatch (entityPath : String) (lengths : List (String × Nat))
  /-- An image column has pixels and formats in different numbers. -/
  | countMismatch (archetype : String) (buffers formats : Nat)
  /-- The width or height of a format does not fit its column. -/
  | sizeTooLarge (archetype : String) (value : Nat)
  /-- A cause in the words of another builder. -/
  | described (text : String)
  deriving DecidableEq, Repr

/-- The wording of a batch error. -/
def BatchError.message : BatchError → String
  | lengthMismatch entityPath lengths =>
    s!"Column length mismatch in chunk for {entityPath}: " ++
      ", ".intercalate (lengths.map fun l => s!"{l.1}={l.2}")
  | countMismatch archetype buffers formats =>
    s!"{archetype}: {buffers} buffers but {formats} formats"
  | sizeTooLarge archetype value =>
    s!"{archetype}: invalid format column: Value {value} too large to fit in C integer type"
  | described text => text

/-- What was asked of a parser that is finalized already. -/
inductive ParserCall
  | append
  | finalize
  deriving DecidableEq, Repr

/-- The name of a call in a message. -/
def ParserCall.name : ParserCall → String
  | append => "append"
  | finalize => "finalize"

/-- Why a parser refuses a call. -/
inductive StateError
  | finalized (call : ParserCall)
  /-- A cause in the words of another parser. -/
  | described (text : String)
  deriving DecidableEq, Repr

/-- The wording of a refused call. -/
def StateError.message : StateError → String
  | finalized call => s!"ImageMessageParser.{call.name}() called on a finalized parser"
  | described text => text

/-- The errors that plugins and their parsers raise. -/
inductive PluginError
  | decode (error : Wire.DecodeError)
  | unsupportedFormat (encoding : String)
  | batch (error : BatchError)
  | parserState (error : StateError)
  | unknownSchema (schema : String)
  /-- An error of no particular class. -/
  | other (text : String)
  deriving DecidableEq, Repr

namespace PluginError

/-- The name of the class of an error. -/
def className : PluginError → String
  | decode _ => "DecodeError"
  | unsupportedFormat _ => "UnsupportedFormatError"
  | batch _ => "BatchConstructionError"
  | parserState _ => "ParserStateError"
  | unknownSchema _ => "UnknownSchemaError"
  | other _ => "PluginError"

/-- The wording of an error. -/
def message : PluginError → String
  | decode error => error.message
  | unsupportedFormat encoding => s!"Unsupported image format: {encoding}"
  | batch error => error.message
  | parserState error => error.message
  | unknownSchema schema => s!"No schema plugin registered for: {schema}"
  | other text => text

end PluginError

/-- Why a column builder refuses a type, a row or a value. -/
inductive BuilderError
  | listSizeTooSmall
  | negativeCapacity
  | unsupportedType (name : String)
  | rowSize (expected actual : Nat)
  /-- A value of the wrong kind; `expected` and `actual` name kinds. -/
  | kind (expected actual : String)
  | outOfRange (value : Int) (type : String)
  /-- A row of several elements was to be made of a value that has no elements. -/
  | notASequence
  deriving DecidableEq, Repr

/-- The wording of a refusal. A value without elements is refused without words. -/
def BuilderError.message? : BuilderError → Option String
  | listSizeTooSmall => some "list_size must be >= 1"
  | negativeCapacity => some "capacity must be >= 0"
  | unsupportedType name => some s!"Unsupported value type: {name}"
  | rowSize expected actual => some s!"Expected {expected} values per row, got {actual}"
  | kind expected actual => some s!"Expected {expected}, got {actual}"
  | outOfRange value type => some s!"Value {value} out of range for {type}"
  | notASequence => none

/-- Everything that can go wrong while a channel is loaded. -/
inductive Failure
  /-- The messages of the channel are at fault, or the channel itself. -/
  | plugin (error : PluginError)
  /-- A column builder refused a type or a value. -/
  | builder (error : BuilderError)
  /-- The parts of a pixel format do not fit together. -/
  | format (error : Image.FormatError)
  /-- A message has no payload at all. -/
  | noPayload
  /-- A number does not fit the column that is to hold it. -/
  | overflow
  deriving DecidableEq, Repr

/-- The plugin error that a failure is, if it is one. -/
def Failure.plugin? : Failure → Option PluginError
  | plugin error => some error
  | _ => none

instance : Coe Image.ResolveError Failure where
  coe
    | .unsupported encoding => .plugin (.unsupportedFormat encoding)
    | .format fault => .format fault

end FrameChunks
