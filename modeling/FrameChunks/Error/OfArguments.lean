import FrameChunks.Column.Value
import FrameChunks.Error

/-!
# Errors made by hosts

A host makes an error of a class out of arguments of any kind.

## Main definitions

* `PluginError.textOf`: the text of arguments
* `PluginError.ofArguments?`: the error
-/

namespace FrameChunks.PluginError

open Column

/-- The text of arguments: a single one is its own text, several are listed between parentheses. -/
def textOf : List Value → String
  | [] => ""
  | [v] => v.display
  | vs => "(" ++ ", ".intercalate (Value.describeAll vs) ++ ")"

/-- A decoding error with a text and a place. A place that is no integer is only named. -/
def decodeAt (text place : Value) : Wire.DecodeError :=
  match place with
  | .none => ⟨.described text.display, none⟩
  | .integer n => ⟨.described text.display, some n⟩
  | place => ⟨.described s!"{text.display} (at byte {place.display})", none⟩

/-- The error of a class out of the given arguments. Some classes take a certain number of them. -/
def ofArguments? (className : String) (arguments : List Value) : Option PluginError :=
  match className with
  | "DecodeError" =>
    match arguments with
    | [text] => some (.decode (decodeAt text .none))
    | [text, place] => some (.decode (decodeAt text place))
    | _ => none
  | "UnsupportedFormatError" =>
    match arguments with
    | [encoding] => some (.unsupportedFormat encoding.display)
    | _ => none
  | "UnknownSchemaError" =>
    match arguments with
    | [schema] => some (.unknownSchema schema.display)
    | _ => none
  | "BatchConstructionError" => some (.batch (.described (textOf arguments)))
  | "ParserStateError" => some (.parserState (.described (textOf arguments)))
  | "PluginError" => some (.other (textOf arguments))
  | _ => none

end FrameChunks.PluginError
