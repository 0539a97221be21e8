import FrameChunks.Document.Scalar
import FrameChunks.Document.Tree

/-!
# Default values

Where a scalar is asked for, a mapping stands for the value of its default key, which is an equals
sign. Default values that lead around in a circle have no end.

## Main definitions

* `Tree.defaultText`: the text that a node stands for
* `Scalar.ofDefault`: the meaning of a mapping with the tag of a scalar
-/

namespace FrameChunks.Document

namespace Tree

/-- Whether a key is that of the default value. -/
def isDefault : Tree → Bool
  | scalar tag style text => Scalar.kind? tag style text = some .default
  | list tag _ => tag.bind Scalar.Kind.ofTag? = some .default
  | mapping tag _ => tag.bind Scalar.Kind.ofTag? = some .default
  | unmergeable tag => tag.bind Scalar.Kind.ofTag? = some .default
  | again around => around.isDefault

mutual

/-- The text that a node stands for. -/
def defaultText : Tree → Except DocumentError (Style × String)
  | scalar _ style text => .ok (style, text)
  | mapping _ entries => defaultTextOf entries
  -- Only default values in a circle lead to where the laying out ends.
  | again (mapping _ []) => .error .tooDeep
  | again around => around.defaultText
  | _ => .error .malformed

/-- The text that the first default value among entries stands for. -/
def defaultTextOf : List (Tree × Tree) → Except DocumentError (Style × String)
  | [] => .error .malformed
  | (key, value) :: rest => if key.isDefault then value.defaultText else defaultTextOf rest

end

end Tree

/-- The meaning of a mapping with the tag of a scalar. Dates cannot be written in this way. -/
def Scalar.ofDefault (tag : Option String) (entries : List (Tree × Tree)) :
    Except DocumentError Node :=
  match tag.bind Kind.ofTag? with
  | none => .error .malformed
  | some kind => do
    let (style, s) ← Tree.defaultTextOf entries
    if kind = .date then throw .mappingForDate
    node tag style s

end FrameChunks.Document
