/-!
# Words on the wire

A word is a number of bytes in one of two orders. Messages are written in either order; which one, a
message says in its header.

## Main definitions

* `ByteOrder`: most or least significant byte first
* `values`: how many numbers so many bytes can spell
* `ByteOrder.value`, `ByteOrder.bytes`: the number that bytes spell, and the bytes of a number
* `Word`: a width and whether the word is signed; `Word.uint8`, `Word.int32`, `Word.uint32`
* `Word.read`, `Word.write`: an integer from and to bytes
* `padding`: the bytes to skip so that a word starts at a multiple of its size

## Main results

* `value_bytes`: the bytes of a number spell it, modulo the width
* `add_padding_mod`: after the padding the position is a multiple of the size
-/

namespace FrameChunks

/-- A string of bytes. -/
abbrev Bytes := List UInt8

namespace Wire

/-- Which byte of a word comes first. -/
inductive ByteOrder
  | big
  | little
  deriving DecidableEq, Repr

/-- The bytes of `n`, least significant first, as many as `size` says. -/
def littleBytes : Nat → Nat → Bytes
  | 0, _ => []
  | size + 1, n => UInt8.ofNat n :: littleBytes size (n / 256)

/-- The number that bytes spell, least significant first. -/
def littleValue : Bytes → Nat
  | [] => 0
  | b :: rest => b.toNat + 256 * littleValue rest

/-- How many numbers so many bytes can spell. -/
def values (size : Nat) : Nat := Nat.pow 256 size

namespace ByteOrder

/-- The bytes of a number. -/
def bytes (order : ByteOrder) (size n : Nat) : Bytes :=
  match order with
  | little => littleBytes size n
  | big => (littleBytes size n).reverse

/-- The number that bytes spell. -/
def value (order : ByteOrder) (bs : Bytes) : Nat :=
  match order with
  | little => littleValue bs
  | big => littleValue bs.reverse

/-- The representation identifiers of a header, and the byte order that each announces. -/
def ofIdentifier? (identifier : Nat) : Option ByteOrder :=
  match identifier with
  | 0 | 6 => some big
  | 1 | 7 => some little
  | _ => none

/-- The representation identifier that is written for a byte order. -/
def identifier : ByteOrder → Nat
  | big => 0
  | little => 1

end ByteOrder

@[simp] theorem length_littleBytes (size n : Nat) : (littleBytes size n).length = size := by
  induction size generalizing n with
  | zero => rfl
  | succ size ih => simp [littleBytes, ih]

theorem values_succ (size : Nat) : values (size + 1) = 256 * values size :=
  Nat.mul_comm (values size) 256

theorem littleValue_littleBytes (size n : Nat) :
    littleValue (littleBytes size n) = n % values size := by
  induction size generalizing n with
  | zero => exact (Nat.mod_one n).symm
  | succ size ih =>
    simp only [littleBytes, littleValue, ih, UInt8.toNat_ofNat']
    rw [values_succ, Nat.mod_mul]

theorem littleValue_lt (bs : Bytes) : littleValue bs < values bs.length := by
  induction bs with
  | nil => exact Nat.one_pos
  | cons b rest ih =>
    have hb : b.toNat < 256 := b.toNat_lt
    simp only [littleValue, List.length_cons, values_succ]
    omega

theorem littleBytes_littleValue (bs : Bytes) : littleBytes bs.length (littleValue bs) = bs := by
  induction bs with
  | nil => rfl
  | cons b rest ih =>
    have hb : b.toNat < 256 := b.toNat_lt
    have hd : (b.toNat + 256 * littleValue rest) / 256 = littleValue rest := by omega
    have hm : UInt8.ofNat (b.toNat + 256 * littleValue rest) = b := by
      apply UInt8.toNat_inj.1
      rw [UInt8.toNat_ofNat']
      omega
    simp [littleBytes, littleValue, hd, hm, ih]

namespace ByteOrder

@[simp] theorem length_bytes (order : ByteOrder) (size n : Nat) :
    (order.bytes size n).length = size := by
  cases order <;> simp [bytes]

/-- The bytes of a number spell it, modulo the width. -/
theorem value_bytes (order : ByteOrder) (size n : Nat) :
    order.value (order.bytes size n) = n % values size := by
  cases order <;> simp [bytes, value, littleValue_littleBytes]

theorem value_lt (order : ByteOrder) (bs : Bytes) : order.value bs < values bs.length := by
  cases order
  · simpa [value] using littleValue_lt bs.reverse
  · simpa [value] using littleValue_lt bs

/-- Bytes are the bytes of the number that they spell. -/
theorem bytes_value (order : ByteOrder) (bs : Bytes) :
    order.bytes bs.length (order.value bs) = bs := by
  cases order
  · have h := littleBytes_littleValue bs.reverse
    rw [List.length_reverse] at h
    simp [bytes, value, h]
  · simpa [bytes, value] using littleBytes_littleValue bs

theorem ofIdentifier?_identifier (order : ByteOrder) : ofIdentifier? order.identifier = some order := by
  cases order <;> rfl

end ByteOrder

/-- A number of bytes, and whether the number is signed. -/
structure Word where
  size : Nat
  isSigned : Bool
  deriving DecidableEq, Repr

namespace Word

/-- One byte. -/
def uint8 : Word := ⟨1, false⟩

/-- Four bytes with a sign. -/
def int32 : Word := ⟨4, true⟩

/-- Four bytes without a sign. -/
def uint32 : Word := ⟨4, false⟩

/-- The integers that a word holds start here. -/
def low (w : Word) : Int := if w.isSigned then -(values w.size / 2 : Nat) else 0

/-- The integers that a word holds end before this one. -/
def high (w : Word) : Int := if w.isSigned then (values w.size / 2 : Nat) else values w.size

/-- Whether a word holds the integer. -/
def Holds (w : Word) (n : Int) : Prop := w.low ≤ n ∧ n < w.high

instance (w : Word) (n : Int) : Decidable (w.Holds n) :=
  inferInstanceAs (Decidable (_ ∧ _))

/-- The bytes of an integer, in two's complement. -/
def write (w : Word) (order : ByteOrder) (n : Int) : Bytes :=
  order.bytes w.size (n % values w.size).toNat

/-- The integer that the bytes of a word spell. -/
def read (w : Word) (order : ByteOrder) (bs : Bytes) : Int :=
  let n : Int := order.value bs
  if w.isSigned ∧ w.high ≤ n then n - values w.size else n

end Word

/-- The bytes between `position` and the next multiple of `size`. -/
def padding (position size : Nat) : Nat := (size - position % size) % size

theorem padding_lt (position : Nat) {size : Nat} (h : 0 < size) : padding position size < size :=
  Nat.mod_lt _ h

/-- After the padding the position is a multiple of the size. -/
theorem add_padding_mod (position : Nat) {size : Nat} (h : 0 < size) :
    (position + padding position size) % size = 0 := by
  have hl : position % size < size := Nat.mod_lt _ h
  unfold padding
  rw [Nat.add_mod, Nat.mod_mod, ← Nat.add_mod]
  have hd : size * (position / size) + position % size = position := Nat.div_add_mod ..
  have he : position + (size - position % size) = size * (position / size + 1) := by
    rw [Nat.mul_add]; omega
  rw [he, Nat.mul_mod_right]

end Wire

end FrameChunks
