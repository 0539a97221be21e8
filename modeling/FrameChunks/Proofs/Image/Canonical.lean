import FrameChunks.Proofs.Image.RoundTrip

/-!
# Payloads that encoding gives back

A payload splits into parts in one way only. Several payloads mean one frame: they differ in the
options, in the gaps, in the zero bytes at the ends of the texts, in how the stamp is split, and in
what stands behind the pixels. Encoding the frame gives the one of them that has nothing optional.

## Main definitions

* `Parts.Canonical`: parts with nothing optional
* `Parts.written`: the parts that are written for a frame

## Main results

* `Parts.bytes_injective`: a payload has at most one split into valid parts
* `Parts.Canonical.fields_eq_output`: canonical parts are what is written for the frame they mean
* `Frame.encode_decode_iff_canonical`: encoding gives a decoded payload back exactly if its parts
  are canonical
-/

namespace FrameChunks.Image

open Wire

namespace Parts

variable {p q : Parts} {f : Frame}

/-! ## One split only -/

theorem Valid.ofIdentifier?_identifier (hp : p.Valid) :
    ByteOrder.ofIdentifier? p.identifier = some p.order :=
  ofIdentifier?_eq_some_iff.mpr hp.announced

/-- The identifiers that are written tell the byte order. -/
theorem Valid.order_of_identifier (hp : p.Valid)
    (hi : p.identifier = 0x0000 ∨ p.identifier = 0x0001) :
    (if p.identifier = 0x0000 then ByteOrder.big else .little) = p.order ∧
      p.identifier = p.order.identifier := by
  rcases hp.announced with ⟨ha, ho⟩ | ⟨ha, ho⟩
  · have h₀ : p.identifier = 0x0000 := by omega
    rw [ho, h₀]
    exact ⟨rfl, rfl⟩
  · have h₁ : p.identifier = 0x0001 := by omega
    rw [ho, h₁]
    exact ⟨rfl, rfl⟩

theorem identifier_inj (hp : p.Valid) (hq : q.Valid)
    (h : ByteOrder.big.bytes 2 p.identifier = ByteOrder.big.bytes 2 q.identifier) :
    p.identifier = q.identifier := by
  have hvalue := congrArg ByteOrder.big.value h
  have hlt := lt_of_ofIdentifier? hp.ofIdentifier?_identifier
  have hlt' := lt_of_ofIdentifier? hq.ofIdentifier?_identifier
  have hvalues : values 2 = 65536 := rfl
  rw [ByteOrder.value_bytes, ByteOrder.value_bytes, hvalues] at hvalue
  omega

/-- Gaps that fill up fronts of one length are of one length. -/
theorem length_eq_of_fills {gap gap' front front' : Bytes} (h : Fills gap front)
    (h' : Fills gap' front') (hf : front.length = front'.length) : gap.length = gap'.length := by
  obtain ⟨hl, hm⟩ := h
  obtain ⟨hl', hm'⟩ := h'
  omega

/-- A payload has at most one split into valid parts. -/
theorem bytes_injective (hp : p.Valid) (hq : q.Valid) (h : p.bytes = q.bytes) : p = q := by
  simp only [bytes, header, fields_eq, List.append_assoc, List.nil_append] at h
  -- From the front to the back, each part tells where the next one starts.
  obtain ⟨hidentifier, h⟩ := List.append_inj h (by simp)
  have hidentifier := identifier_inj hp hq hidentifier
  have horder : p.order = q.order := by
    have hi := hp.ofIdentifier?_identifier
    rw [hidentifier, hq.ofIdentifier?_identifier] at hi
    exact (Option.some.inj hi).symm
  rw [horder] at h
  obtain ⟨hoptions, h⟩ := List.append_inj h rfl
  obtain ⟨hseconds, h⟩ := Word.write_append_inj (by decide) hp.seconds hq.seconds h
  obtain ⟨hnanos, h⟩ := Word.write_append_inj (by decide) hp.nanos hq.nanos h
  obtain ⟨hframeId, h⟩ := Word.write_length_append_inj hp.frameId hq.frameId h
  have hfront : p.front.length = q.front.length := by
    rw [length_front, length_front, hframeId]
  obtain ⟨hheightGap, h⟩ := List.append_inj h (length_eq_of_fills hp.heightGap hq.heightGap hfront)
  obtain ⟨hheight, h⟩ := Word.write_append_inj (by decide) hp.height hq.height h
  obtain ⟨hwidth, h⟩ := Word.write_append_inj (by decide) hp.width hq.width h
  obtain ⟨hencoding, h⟩ := Word.write_length_append_inj hp.encoding hq.encoding h
  obtain ⟨hbigEndian, h⟩ := List.append_inj h rfl
  have hmiddle : p.middle.length = q.middle.length := by
    rw [length_middle, length_middle, hfront, hheightGap, hencoding]
  obtain ⟨hstepGap, h⟩ := List.append_inj h (length_eq_of_fills hp.stepGap hq.stepGap hmiddle)
  obtain ⟨hstep, h⟩ := Word.write_append_inj (by decide) hp.step hq.step h
  obtain ⟨hdata, htrailing⟩ := Word.write_length_append_inj hp.data hq.data h
  have hbool : p.bigEndian = q.bigEndian := by
    cases hb : p.bigEndian <;> cases hb' : q.bigEndian <;> simp [hb, hb'] at hbigEndian ⊢
  cases p
  cases q
  simp_all

/-! ## Parts with nothing optional -/

/-- Parts with nothing optional. There are no options; the gaps are zero bytes; each text ends in a
zero byte that its length counts; the nanoseconds are less than a second; and nothing stands behind
the pixels. -/
structure Canonical (p : Parts) : Prop where
  option₀ : p.option₀ = 0
  option₁ : p.option₁ = 0
  nanos : p.nanos < 1000000000
  frameId : p.frameId.getLast? = some 0
  heightGap : ∀ b ∈ p.heightGap, b = 0
  encoding : p.encoding.getLast? = some 0
  stepGap : ∀ b ∈ p.stepGap, b = 0
  trailing : p.trailing = []

theorem eq_textBytes_of_spells {raw : Bytes} {s : String} (h : Spells raw s)
    (hl : raw.getLast? = some 0) : raw = Output.textBytes s := by
  rcases h with h | ⟨-, hne⟩
  · exact h
  · exact absurd hl hne

theorem getLast?_textBytes (s : String) : (Output.textBytes s).getLast? = some 0 :=
  List.getLast?_concat

/-- Splitting a stamp carries whole seconds of nanoseconds over to the seconds. -/
theorem carry_stamp (seconds nanos : Int) :
    (seconds * 1000000000 + nanos).fdiv nanosPerSecond = seconds + nanos / 1000000000 ∧
      (seconds * 1000000000 + nanos).fmod nanosPerSecond = nanos % 1000000000 := by
  have hp : (0 : Int) ≤ nanosPerSecond := by decide
  rw [Int.fdiv_eq_ediv_of_nonneg _ hp, Int.fmod_eq_emod_of_nonneg _ hp, nanosPerSecond]
  omega

/-- Less than a second of nanoseconds is split off again. -/
theorem split_stamp (seconds : Int) {nanos : Int} (h₀ : 0 ≤ nanos) (h₁ : nanos < 1000000000) :
    (seconds * 1000000000 + nanos).fdiv nanosPerSecond = seconds ∧
      (seconds * 1000000000 + nanos).fmod nanosPerSecond = nanos := by
  obtain ⟨hseconds, hnanos⟩ := carry_stamp seconds nanos
  rw [hseconds, hnanos, Int.ediv_eq_zero_of_lt h₀ h₁, Int.emod_eq_of_lt h₀ h₁, add_zero]
  exact ⟨rfl, rfl⟩

namespace Canonical

/-- Canonical parts are what is written for the frame that they mean. -/
theorem fields_eq_output (hc : p.Canonical) (hv : p.Valid) (hm : p.Means f) :
    f.output p.order 0 = p.fields := by
  obtain ⟨hg₁, hheight⟩ := hv.heightGap
  obtain ⟨hg₂, hstep⟩ := hv.stepGap
  rw [length_front] at hheight
  rw [length_middle, length_front] at hstep
  have hfid := eq_textBytes_of_spells hm.frameId hc.frameId
  have henc := eq_textBytes_of_spells hm.encoding hc.encoding
  obtain ⟨hseconds, hnanos⟩ := split_stamp p.seconds hv.nanos.1 hc.nanos
  rw [p.fields_eq, List.append_nil, Frame.output, hm.timestamp, hseconds, hnanos, Output.text,
    Output.text, ← hfid, ← henc, hm.height, hm.width, hm.bigEndian, hm.step, hm.data]
  -- Only the height and the step stand behind gaps: every other word starts at a multiple of four.
  refine Output.seq_eq (Output.word_eq_of_aligned (by decide) rfl) ?_
  refine Output.seq_eq (Output.word_eq_of_aligned (by decide) (by simp)) ?_
  refine Output.seq_eq (Output.bytes_eq_of_aligned (by simp)) ?_
  refine Output.seq_eq (Output.word_eq (by decide) hg₁ (by simp; omega) hc.heightGap) ?_
  refine Output.seq_eq (Output.word_eq_of_aligned (by decide) (by simp; omega)) ?_
  refine Output.seq_eq (Output.bytes_eq_of_aligned (by simp; omega)) ?_
  refine Output.seq_eq ?flag ?_
  case flag =>
    rw [Output.word_eq_of_aligned (by decide) (Nat.mod_one _), Word.write_uint8]
    cases p.bigEndian <;> rfl
  refine Output.seq_eq (Output.word_eq (by decide) hg₂ (by simp; omega) hc.stepGap) ?_
  exact Output.bytes_eq_of_aligned (by simp; omega)

theorem encodable (hc : p.Canonical) (hv : p.Valid) (hm : p.Means f) : f.Encodable := by
  obtain ⟨hseconds, hnanos⟩ := split_stamp p.seconds hv.nanos.1 hc.nanos
  rw [Frame.encodable_iff, hm.timestamp, hseconds, hnanos, hm.height, hm.width, hm.step, hm.data,
    ← eq_textBytes_of_spells hm.frameId hc.frameId,
    ← eq_textBytes_of_spells hm.encoding hc.encoding]
  exact ⟨hv.seconds, hv.nanos, hv.frameId, hv.height, hv.width, hv.encoding, trivial, hv.step,
    hv.data⟩

end Canonical

/-- The parts that are written for a frame. -/
def written (order : ByteOrder) (f : Frame) : Parts :=
  let frameId := Output.textBytes f.frameId
  let encoding := Output.textBytes f.encoding
  let front := 12 + frameId.length
  let middle := front + padding front 4 + 12 + encoding.length + 1
  { identifier := order.identifier
    option₀ := 0
    option₁ := 0
    order
    seconds := f.timestamp.fdiv nanosPerSecond
    nanos := f.timestamp.fmod nanosPerSecond
    frameId
    heightGap := List.replicate (padding front 4) 0
    height := f.height
    width := f.width
    encoding
    bigEndian := f.bigEndian
    stepGap := List.replicate (padding middle 4) 0
    step := f.step
    data := f.data
    trailing := [] }

section Written

variable {order : ByteOrder}

theorem canonical_written (order : ByteOrder) (f : Frame) : (written order f).Canonical where
  option₀ := rfl
  option₁ := rfl
  nanos := Int.fmod_lt_of_pos _ (by decide)
  frameId := getLast?_textBytes f.frameId
  heightGap := fun _ => List.eq_of_mem_replicate
  encoding := getLast?_textBytes f.encoding
  stepGap := fun _ => List.eq_of_mem_replicate
  trailing := rfl

theorem valid_written (hf : f.Encodable) (order : ByteOrder) : (written order f).Valid := by
  obtain ⟨hs, hn, hfid, hh, hw, henc, -, hstep, hd⟩ := Frame.encodable_iff.mp hf
  refine ⟨?_, hs, hn, hfid, ?_, hh, hw, henc, ?_, hstep, hd⟩
  · exact ofIdentifier?_eq_some_iff.mp (ByteOrder.ofIdentifier?_identifier order)
  · rw [Fills, length_front, ← eq_padding_iff (by decide)]
    exact List.length_replicate
  · have hgap : (written order f).heightGap.length =
        padding (12 + (written order f).frameId.length) 4 := List.length_replicate
    rw [Fills, length_middle, length_front, hgap, ← eq_padding_iff (by decide)]
    exact List.length_replicate

theorem means_written (order : ByteOrder) (f : Frame) : (written order f).Means f :=
  ⟨(Frame.stamp_eq f.timestamp).symm, .inl rfl, rfl, rfl, .inl rfl, rfl, rfl, rfl⟩

theorem bytes_written (hf : f.Encodable) (order : ByteOrder) : (written order f).bytes =
    ByteOrder.big.bytes 2 order.identifier ++ [0, 0] ++ f.output order 0 := by
  have hfields := (canonical_written order f).fields_eq_output (valid_written hf order)
    (means_written order f)
  have horder : (written order f).order = order := rfl
  rw [horder] at hfields
  rw [bytes, ← hfields]
  simp [header, written]

end Written

end Parts

namespace Frame

/-- Encoding gives a payload back exactly if its parts are canonical. -/
theorem encode_bytes_iff {p : Parts} {f : Frame} (hv : p.Valid) (hm : p.Means f)
    (hi : p.identifier = p.order.identifier) :
    encode p.order f = .ok p.bytes ↔ p.Canonical := by
  rw [encode_eq_ok_iff]
  constructor
  · rintro ⟨hf, hb⟩
    -- The payload has no other split than that of what was written.
    rw [← Parts.bytes_written hf] at hb
    rw [Parts.bytes_injective hv (Parts.valid_written hf p.order) hb]
    exact Parts.canonical_written p.order f
  · intro hc
    refine ⟨hc.encodable hv hm, ?_⟩
    rw [hc.fields_eq_output hv hm, Parts.bytes, Parts.header, hi, hc.option₀, hc.option₁,
      hc.trailing, List.append_nil]

/-- A payload that is decoded to a frame splits into valid parts in exactly one way. If it starts
with an identifier that encoding writes, then encoding the frame in the byte order of the identifier
succeeds and gives the payload back exactly if the parts are canonical. -/
theorem encode_decode_iff_canonical {payload : Bytes} {f : Frame}
    (hd : decode payload = .ok f) :
    ∃ p : Parts, p.Valid ∧ p.Means f ∧ payload = p.bytes ∧
      (∀ q : Parts, q.Valid → payload = q.bytes → q = p) ∧
      (p.identifier = 0x0000 ∨ p.identifier = 0x0001 →
        (encode (if p.identifier = 0x0000 then .big else .little) f = .ok payload ↔
          p.Canonical)) := by
  obtain ⟨p, hv, hm, rfl⟩ := decode_eq_ok_iff_parts.mp hd
  refine ⟨p, hv, hm, rfl, ?_, ?_⟩
  · intro q hq hb
    exact (Parts.bytes_injective hv hq hb).symm
  · intro hi
    obtain ⟨horder, hidentifier⟩ := hv.order_of_identifier hi
    rw [horder]
    exact encode_bytes_iff hv hm hidentifier

/-- Parts with more than a second of nanoseconds and with a text that has no zero byte at its end.
-/
def looseParts : Parts :=
  { identifier := 0x0001, option₀ := 0, option₁ := 0, order := .little
    seconds := -1, nanos := 1000000005, frameId := [99], heightGap := [0, 0, 0]
    height := 1, width := 1, encoding := [109, 0], bigEndian := true, stepGap := [0]
    step := 1, data := [7], trailing := [] }

theorem valid_looseParts : looseParts.Valid :=
  ⟨by decide, by decide, by decide, by decide, ⟨by decide, by decide⟩, by decide, by decide,
    by decide, ⟨by decide, by decide⟩, by decide, by decide⟩

/-- The frame that these parts mean. -/
def looseFrame : Frame := ⟨5, "c", 1, 1, "m", true, 1, [7]⟩

theorem means_looseParts : looseParts.Means looseFrame :=
  ⟨rfl, .inr (by decide), rfl, rfl, .inl (by decide), rfl, rfl, rfl⟩

/-- The payload of these parts is decoded, but encoding does not give it back. -/
theorem encode_decode_looseParts : decode looseParts.bytes = .ok looseFrame ∧
    encode .little looseFrame ≠ .ok looseParts.bytes := by
  have hd := decode_eq_ok_iff_parts.mpr ⟨_, valid_looseParts, means_looseParts, rfl⟩
  obtain ⟨p, -, -, -, hunique, hiff⟩ := encode_decode_iff_canonical hd
  obtain rfl := hunique looseParts valid_looseParts rfl
  refine ⟨hd, fun he => ?_⟩
  have hnanos := ((hiff (.inr rfl)).mp he).nanos
  exact absurd hnanos (by decide)

end Frame

end FrameChunks.Image
