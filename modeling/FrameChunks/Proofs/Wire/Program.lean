import FrameChunks.Proofs.Wire.Writing

/-!
# Programs of writes and reads

Values of any kinds are written one after the other, and values of the same kinds are read from the
payload. Every text and byte sequence moves what comes behind it, and the padding of a word depends
on where the word comes to stand: the writer takes that from the bytes it holds, the reader from its
position. The two agree after every value.

## Main definitions

* `Value.Fits`: a value in the range of its kind
* `Write.log`, `Read.log`: a program, with the place that is reached after every value
* `Output.value`: what is written for a value

## Main results

* `Write.value_puts`, `Read.value_of_output`: a value that fits is written, and read again
* `Write.log_roundTrip`: what a program writes is read by the program of the same kinds
-/

namespace FrameChunks.Wire

open Steps

/-- A value in the range of its kind. A text has a zero byte at its end, which counts. -/
def Value.Fits : Value → Prop
  | uint8 n => 0 ≤ n ∧ n < 2 ^ 8
  | bool _ => True
  | int32 n => -2 ^ 31 ≤ n ∧ n < 2 ^ 31
  | uint32 n => 0 ≤ n ∧ n < 2 ^ 32
  | text s => s.utf8ByteSize ≤ 2 ^ 32 - 2
  | bytes bs => bs.length ≤ 2 ^ 32 - 1

instance : (v : Value) → Decidable v.Fits
  | .uint8 n => inferInstanceAs (Decidable (0 ≤ n ∧ n < 2 ^ 8))
  | .bool _ => inferInstanceAs (Decidable True)
  | .int32 n => inferInstanceAs (Decidable (-2 ^ 31 ≤ n ∧ n < 2 ^ 31))
  | .uint32 n => inferInstanceAs (Decidable (0 ≤ n ∧ n < 2 ^ 32))
  | .text s => inferInstanceAs (Decidable (s.utf8ByteSize ≤ 2 ^ 32 - 2))
  | .bytes bs => inferInstanceAs (Decidable (bs.length ≤ 2 ^ 32 - 1))

/-- Writes values one after the other, and lists each with the size of the payload after it. -/
def Write.log : List Value → Write (List (Value × Nat))
  | [] => return []
  | v :: rest => do
    value v
    let size := (← get).toBytes.length
    return (v, size) :: (← log rest)

/-- Reads values of the given kinds one after the other, and lists each with the offset of the
reader after it. -/
def Read.log : List Kind → Read (List (Value × Nat))
  | [] => return []
  | kind :: rest => do
    let v ← value kind
    let offset := (← get).offset
    return (v, offset) :: (← log rest)

/-! ## One value -/

/-- What is written for a value. -/
def Output.value : Value → Output
  | .uint8 n => word .uint8 n
  | .bool b => word .uint8 (if b then 1 else 0)
  | .int32 n => word .int32 n
  | .uint32 n => word .uint32 n
  | .text s => text s
  | .bytes bs => bytes bs

theorem Write.value_puts (v : Value) : (value v).Puts v.Fits (.value v) := by
  cases v with
  | uint8 n => exact word_puts .uint8 n
  | bool b => exact bool_puts b
  | int32 n => exact word_puts .int32 n
  | uint32 n => exact word_puts .uint32 n
  | text s =>
    have h := text_puts s
    rw [holds_textBytes_iff] at h
    exact h
  | bytes bs =>
    have h := bytes_puts bs
    rw [holds_length_iff] at h
    exact h

section Read

variable {α : Type} {m : Read α} {L : Form α} {order : ByteOrder} {position : Nat} {bs : Bytes}
  {a : α}

/-- A step reads a string of its form, whatever stands behind it. -/
theorem Read.Reads.of_form (h : m.Reads L) (hb : L order position bs a) (tail : Bytes) :
    m ⟨order, position, bs ++ tail⟩ = .ok a ⟨order, position + bs.length, tail⟩ :=
  (h _ a _).mpr ⟨bs, hb, rfl, rfl⟩

/-- What is written for a value is read as the value. -/
theorem Read.value_of_output {v : Value} (hv : v.Fits) (order : ByteOrder) (position : Nat)
    (tail : Bytes) :
    value v.kind ⟨order, position, Output.value v order position ++ tail⟩ =
      .ok v ⟨order, position + (Output.value v order position).length, tail⟩ := by
  cases v with
  | uint8 n => exact map_of_ok (uint8_reads.of_form (Output.word_form hv) tail)
  | bool b => exact map_of_ok (bool_reads.of_form (Output.bool_form b) tail)
  | int32 n => exact map_of_ok (int32_reads.of_form (Output.word_form hv) tail)
  | uint32 n => exact map_of_ok (uint32_reads.of_form (Output.word_form hv) tail)
  | text s =>
    exact map_of_ok (text_reads.of_form (Output.text_form (holds_textBytes_iff.mpr hv)) tail)
  | bytes bs =>
    exact map_of_ok (bytes_reads.of_form (Output.bytes_form (holds_length_iff.mpr hv)) tail)

end Read

/-! ## Programs -/

namespace Write

/-- From wherever the writer is, a program that fits appends bytes which the program of the same
kinds reads with the same log. -/
theorem exists_log {values : List Value} (h : ∀ v ∈ values, v.Fits) (w : Writer) :
    ∃ bytes entries, log values w = .ok entries { w with body := w.body ++ bytes } ∧
      entries.map Prod.fst = values ∧
      ∀ tail, Read.log (values.map Value.kind) ⟨w.order, w.body.length, bytes ++ tail⟩ =
        .ok entries ⟨w.order, w.body.length + bytes.length, tail⟩ := by
  -- Induction on the values: the rest starts where the first value has taken the writer.
  induction values generalizing w with
  | nil =>
    refine ⟨[], [], ?_, rfl, fun tail => rfl⟩
    rw [List.append_nil]
    rfl
  | cons v rest ih =>
    obtain ⟨hv, hrest⟩ := List.forall_mem_cons.mp h
    let out := Output.value v w.order w.body.length
    let w' : Writer := { w with body := w.body ++ out }
    obtain ⟨bytes, entries, hwrite, hvalues, hread⟩ := ih hrest w'
    refine ⟨out ++ bytes, (v, w'.toBytes.length) :: entries, ?_, ?_, ?_⟩
    · have hput : value v w = .ok () w' := (value_puts v w).1 hv
      rw [log, bind_of_ok hput]
      refine (bind_of_ok rfl).trans ((bind_of_ok hwrite).trans ?_)
      rw [← List.append_assoc]
      rfl
    · rw [List.map_cons, hvalues]
    · intro tail
      have hvalue := Read.value_of_output hv w.order w.body.length (bytes ++ tail)
      -- The place of the reader is the size of the payload, both counted with the header.
      have hplace : w.body.length + out.length = w'.body.length := List.length_append.symm
      have hoffset : headerSize + w'.body.length = w'.toBytes.length := w'.length_toBytes.symm
      have hend : w.body.length + (out ++ bytes).length = w'.body.length + bytes.length := by
        rw [← hplace, List.length_append, Nat.add_assoc]
      rw [hplace] at hvalue
      rw [List.map_cons, Read.log, List.append_assoc, bind_of_ok hvalue]
      refine (bind_of_ok rfl).trans ((bind_of_ok (hread tail)).trans ?_)
      rw [hend, ← hoffset]
      rfl

theorem start_toBytes (w : Writer) : Reader.start w.toBytes = .ok ⟨w.order, 0, w.body⟩ :=
  start_eq_ok_iff.mpr
    ⟨w.order.identifier, 0, 0, ByteOrder.ofIdentifier?_identifier w.order, rfl, rfl⟩

/-- Any values in the ranges of their kinds are written, and reading the same kinds from the payload
gives the same values. After each of them the offset of the reader is the number of bytes that the
writer held after it, and in the end nothing is left to be read. -/
theorem log_roundTrip (order : ByteOrder) (values : List Value) (h : ∀ v ∈ values, v.Fits) :
    ∃ entries w, log values { order } = .ok entries w ∧ entries.map Prod.fst = values ∧
      ∃ r r', Reader.start w.toBytes = .ok r ∧
        Read.log (values.map Value.kind) r = .ok entries r' ∧ r'.remaining = 0 := by
  obtain ⟨bytes, entries, hwrite, hvalues, hread⟩ := exists_log h { order }
  have hbytes := hread []
  rw [List.append_nil] at hbytes
  exact ⟨entries, _, hwrite, hvalues, _, _, start_toBytes _, hbytes, rfl⟩

/-- One value of every kind. The byte moves the text, and the text what comes behind it. -/
def mixedValues : List Value :=
  [.uint8 255, .text "é\x00", .int32 (-2147483648), .bool true, .bytes [1, 2, 3],
    .uint32 4294967295]

theorem log_roundTrip_mixedValues : (∀ v ∈ mixedValues, v.Fits) ∧
    ∃ entries w, log mixedValues { order := .big } = .ok entries w ∧
      entries.map Prod.fst = mixedValues ∧
      ∃ r r', Reader.start w.toBytes = .ok r ∧
        Read.log [.uint8, .text, .int32, .bool, .bytes, .uint32] r = .ok entries r' ∧
        r'.remaining = 0 :=
  have h : ∀ v ∈ mixedValues, v.Fits := by decide
  ⟨h, log_roundTrip .big mixedValues h⟩

end Write

end FrameChunks.Wire
