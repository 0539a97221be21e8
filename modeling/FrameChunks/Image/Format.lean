/-!
# Pixel formats

A pixel format says how the bytes of an image are laid out: interleaved colour channels, a packed
layout with sub-sampled colour, or a single depth channel.

## Main definitions

* `ColorModel`, `ChannelType`, `PackedLayout`: the vocabulary
* `Layout`: one of the three shapes
* `Format`: a layout with the width and the height of the image
* `Format.ofParts`: the format with the given parts, if they fit together
-/

namespace FrameChunks.Image

/-- The channels of an interleaved image, in their order. -/
inductive ColorModel
  | l
  | rgb
  | rgba
  | bgr
  | bgra
  deriving DecidableEq, Repr

/-- The type of the numbers in one channel. -/
inductive ChannelType
  | u8
  | i8
  | u16
  | i16
  | u32
  | i32
  | u64
  | i64
  | f16
  | f32
  | f64
  deriving DecidableEq, Repr

/-- A layout with sub-sampled colour. -/
inductive PackedLayout
  /-- Luminance and the two chroma channels by turns. -/
  | yuy2
  /-- A plane of luminance, then a plane of both chroma channels. -/
  | nv12
  deriving DecidableEq, Repr

/-- The colour models, in their usual order. -/
def ColorModel.all : List ColorModel := [l, rgb, rgba, bgr, bgra]

/-- The name of a colour model. -/
def ColorModel.name : ColorModel → String
  | l => "L"
  | rgb => "RGB"
  | rgba => "RGBA"
  | bgr => "BGR"
  | bgra => "BGRA"

/-- The channel types, in their usual order. -/
def ChannelType.all : List ChannelType :=
  [u8, i8, u16, i16, u32, i32, u64, i64, f16, f32, f64]

/-- The name of a channel type. -/
def ChannelType.name : ChannelType → String
  | u8 => "U8"
  | i8 => "I8"
  | u16 => "U16"
  | i16 => "I16"
  | u32 => "U32"
  | i32 => "I32"
  | u64 => "U64"
  | i64 => "I64"
  | f16 => "F16"
  | f32 => "F32"
  | f64 => "F64"

/-- The packed layouts, in their usual order. -/
def PackedLayout.all : List PackedLayout := [yuy2, nv12]

/-- The name of a packed layout. -/
def PackedLayout.name : PackedLayout → String
  | yuy2 => "YUY2"
  | nv12 => "NV12"

/-- How the bytes of an image are laid out. -/
inductive Layout
  /-- Interleaved channels of one type. -/
  | color (model : ColorModel) (channel : ChannelType)
  /-- A packed layout. -/
  | packed (layout : PackedLayout)
  /-- A single depth channel. -/
  | depth (channel : ChannelType)
  deriving DecidableEq, Repr

namespace Layout

/-- The colour model of a layout. Only interleaved colour has one. -/
def colorModel? : Layout → Option ColorModel
  | color model _ => some model
  | _ => none

/-- The channel type of a layout. A packed layout has none. -/
def channelType? : Layout → Option ChannelType
  | color _ channel => some channel
  | packed _ => none
  | depth channel => some channel

/-- The packed layout, if it is one. -/
def packedLayout? : Layout → Option PackedLayout
  | packed layout => some layout
  | _ => none

/-- Whether an image of this layout is filed as a depth image: it has no colour model. -/
def isDepth (layout : Layout) : Bool := layout.colorModel?.isNone

/-- The short name of a layout. -/
def name : Layout → String
  | color model channel => model.name ++ "/" ++ channel.name
  | packed layout => layout.name
  | depth channel => "depth/" ++ channel.name

end Layout

/-- A layout, and the size of the image. -/
structure Format where
  width : Nat
  height : Nat
  layout : Layout
  deriving DecidableEq, Repr

/-- Why the parts of a format do not fit together. -/
inductive FormatError
  | negativeSize
  | colorAndPacked
  | colorWithoutChannel
  | packedWithChannel
  | noLayout
  deriving DecidableEq, Repr

/-- The wording of a fault in the parts of a format. -/
def FormatError.message : FormatError → String
  | negativeSize => "width and height must be non-negative"
  | colorAndPacked => "color_model and pixel_format are mutually exclusive"
  | colorWithoutChannel => "color_model requires a channel_datatype"
  | packedWithChannel => "pixel_format does not take a channel_datatype"
  | noLayout => "ImageFormat needs a color model, pixel format or datatype"

namespace Layout

/-- The layout with the given parts, if they fit together. -/
def ofParts : Option ColorModel → Option ChannelType → Option PackedLayout → Except FormatError Layout
  | some _, _, some _ => .error .colorAndPacked
  | some _, none, none => .error .colorWithoutChannel
  | some model, some channel, none => .ok (.color model channel)
  | none, some _, some _ => .error .packedWithChannel
  | none, none, some layout => .ok (.packed layout)
  | none, some channel, none => .ok (.depth channel)
  | none, none, none => .error .noLayout

/-- A layout is made of its own parts. -/
theorem ofParts_parts (layout : Layout) :
    ofParts layout.colorModel? layout.channelType? layout.packedLayout? = .ok layout := by
  cases layout <;> rfl

end Layout

namespace Format

/-- The format of the given size with the given layout. -/
def sized (width height : Int) (layout : Except FormatError Layout) : Except FormatError Format := do
  if width < 0 ∨ height < 0 then throw .negativeSize
  return ⟨width.toNat, height.toNat, ← layout⟩

/-- The format with the given size and parts, if they fit together. The size is looked at first. -/
def ofParts (width height : Int) (model : Option ColorModel) (channel : Option ChannelType)
    (packed : Option PackedLayout) : Except FormatError Format :=
  sized width height (Layout.ofParts model channel packed)

/-- The format of bytes for red, green and blue. -/
def rgb8 (width height : Int) : Except FormatError Format :=
  ofParts width height (some .rgb) (some .u8) none

/-- The format of bytes for red, green, blue and opacity. -/
def rgba8 (width height : Int) : Except FormatError Format :=
  ofParts width height (some .rgba) (some .u8) none

/-- The format for a reader of log messages. -/
def describe (f : Format) : String := s!"ImageFormat({f.width}x{f.height}, {f.layout.name})"

end Format

end FrameChunks.Image
