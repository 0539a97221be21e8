import FrameChunks.Image.Format

/-!
# Encoding names

The fixed vocabulary of encoding names, and the layout that each one stands for. Names are compared
exactly.

## Main definitions

* `encodings`: the vocabulary
* `resolve`: the format of an image with a given encoding name and size
-/

namespace FrameChunks.Image

/-- The encoding names and their layouts. -/
def encodings : List (String × Layout) :=
  [("rgb8", .color .rgb .u8),
   ("rgba8", .color .rgba .u8),
   ("rgb16", .color .rgb .u16),
   ("rgba16", .color .rgba .u16),
   ("bgr8", .color .bgr .u8),
   ("bgra8", .color .bgra .u8),
   ("bgr16", .color .bgr .u16),
   ("bgra16", .color .bgra .u16),
   ("mono8", .color .l .u8),
   ("mono16", .color .l .u16),
   ("yuyv", .packed .yuy2),
   ("yuv422_yuy2", .packed .yuy2),
   ("nv12", .packed .nv12),
   ("8UC1", .depth .u8),
   ("8SC1", .depth .i8),
   ("16UC1", .depth .u16),
   ("16SC1", .depth .i16),
   ("32SC1", .depth .i32),
   ("32FC1", .depth .f32)]

/-- The layout that an encoding name stands for. -/
def layoutOf? (encoding : String) : Option Layout :=
  (encodings.find? fun e => e.1 = encoding).map Prod.snd

/-- The encoding names, ordered by code point. -/
def encodingNames : List String := (encodings.map Prod.fst).mergeSort fun a b => decide (a ≤ b)

/-- Why a name and a size do not make a format. -/
inductive ResolveError
  | unsupported (encoding : String)
  | format (fault : FormatError)
  deriving DecidableEq, Repr

/-- The format of an image with the given encoding name and size. -/
def resolve (encoding : String) (width height : Int) : Except ResolveError Format :=
  match layoutOf? encoding with
  | none => .error (.unsupported encoding)
  | some layout => (Format.sized width height (.ok layout)).mapError .format

end FrameChunks.Image
