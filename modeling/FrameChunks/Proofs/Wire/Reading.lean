import FrameChunks.Proofs.Steps
import FrameChunks.Proofs.Text.Utf8
import FrameChunks.Proofs.Wire.Word
import FrameChunks.Wire.Reader

/-!
# What reading steps accept

A reading step accepts byte strings of a form, which depends on the byte order and on the position
where the step starts. The form of a sequence of steps is put together from the forms of the steps,
as the steps are.

## Main definitions

* `Form`: byte strings with what they mean
* `Form.seq`: a string of one form with a string of a second form behind it
* `Form.word`, `Form.bool`, `Form.text`, `Form.bytes`: the forms of the items of a message
* `Spells`: the bytes of a text, of which a last zero byte does not count
* `Read.Reads`: a step succeeds exactly where a string of the form stands, and moves behind it

## Main results

* `Read.Reads.bind`: the form of a sequence
* `Read.word_reads`, `Read.bool_reads`, `Read.text_reads`, `Read.bytes_reads`: the steps read their
  forms
* `start_eq_ok_iff`: the headers that are accepted
-/

namespace FrameChunks.Wire

open Text Steps

/-- The byte strings with a meaning, by the byte order and the position after the header. -/
abbrev Form (α : Type) := ByteOrder → Nat → Bytes → α → Prop

/-- The bytes are those of the text, and they may have a zero byte at the end that does not count.
A zero byte at the end of the text itself is kept by another one behind it. -/
def Spells (raw : Bytes) (s : String) : Prop :=
  raw = s.toUTF8.data.toList ++ [0] ∨ raw = s.toUTF8.data.toList ∧ raw.getLast? ≠ some 0

namespace Form

variable {α β : Type}

/-- Only the empty string, which means `a`. -/
def done (a : α) : Form α := fun _ _ bs b => bs = [] ∧ b = a

/-- A string of one form, and behind it a string of a form that depends on what the first means. -/
def seq (L : Form α) (M : α → Form β) : Form β := fun order position bs b =>
  ∃ a xs ys, L order position xs a ∧ M a order (position + xs.length) ys b ∧ bs = xs ++ ys

/-- Any bytes up to the next multiple of the size of the word, and the bytes of an integer. -/
def word (w : Word) : Form Int := fun order position bs n =>
  ∃ gap, gap.length = padding position w.size ∧ w.Holds n ∧ bs = gap ++ w.write order n

/-- A byte that is one or zero. -/
def bool : Form Bool := fun _ _ bs b => bs = [if b then 1 else 0]

/-- The length of a byte string, and the bytes. -/
def bytes : Form Bytes := fun order position bs raw =>
  ∃ front, word .uint32 order position front raw.length ∧ bs = front ++ raw

/-- The length of a byte string, and bytes that spell a text. -/
def text : Form String := fun order position bs s =>
  ∃ raw, bytes order position bs raw ∧ Spells raw s

variable {L : Form α} {M : α → Form β} {order : ByteOrder} {position : Nat} {a : α} {b : β}
  {xs ys bs raw : Bytes}

theorem seq_append (h : L order position xs a) (h' : M a order (position + xs.length) ys b) :
    L.seq M order position (xs ++ ys) b :=
  ⟨a, xs, ys, h, h', rfl⟩

/-- A word needs no bytes before it at a multiple of its size. -/
theorem word_iff_of_aligned {w : Word} {n : Int} (hw : 0 < w.size) (h : position % w.size = 0) :
    word w order position bs n ↔ w.Holds n ∧ bs = w.write order n := by
  have hp : 0 = padding position w.size := (eq_padding_iff hw).mpr ⟨hw, h⟩
  constructor
  · rintro ⟨gap, hg, hn, rfl⟩
    obtain rfl : gap = [] := List.eq_nil_of_length_eq_zero (hg.trans hp.symm)
    exact ⟨hn, rfl⟩
  · rintro ⟨hn, rfl⟩
    exact ⟨[], hp, hn, rfl⟩

theorem bytes_iff_of_aligned (h : position % 4 = 0) : bytes order position bs raw ↔
    Word.uint32.Holds raw.length ∧ bs = Word.uint32.write order raw.length ++ raw := by
  have hw (front : Bytes) : word .uint32 order position front raw.length ↔
      Word.uint32.Holds raw.length ∧ front = Word.uint32.write order raw.length :=
    word_iff_of_aligned (by decide) h
  constructor
  · rintro ⟨front, hf, rfl⟩
    obtain ⟨hl, rfl⟩ := (hw front).mp hf
    exact ⟨hl, rfl⟩
  · rintro ⟨hl, rfl⟩
    exact ⟨_, (hw _).mpr ⟨hl, rfl⟩, rfl⟩

theorem text_iff_of_aligned {s : String} (h : position % 4 = 0) : text order position bs s ↔
    ∃ raw : Bytes, Word.uint32.Holds raw.length ∧ Spells raw s ∧
      bs = Word.uint32.write order raw.length ++ raw := by
  constructor
  · rintro ⟨raw, hb, hs⟩
    obtain ⟨hl, rfl⟩ := (bytes_iff_of_aligned h).mp hb
    exact ⟨raw, hl, hs, rfl⟩
  · rintro ⟨raw, hl, hs, rfl⟩
    exact ⟨raw, (bytes_iff_of_aligned h).mpr ⟨hl, rfl⟩, hs⟩

end Form

namespace Read

variable {α β : Type} {m : Read α} {L L' : Form α}

/-- A step succeeds exactly where a string of the form stands. It moves behind the string and gives
what the string means. -/
def Reads (m : Read α) (L : Form α) : Prop :=
  ∀ r a r', m r = .ok a r' ↔ ∃ bs, L r.order r.position bs a ∧ r.rest = bs ++ r'.rest ∧
    r' = ⟨r.order, r.position + bs.length, r'.rest⟩

namespace Reads

theorem congr (h : m.Reads L) (hL : ∀ order position bs a, L order position bs a ↔
    L' order position bs a) : m.Reads L' := by
  intro r a r'
  rw [h r a r']
  simp only [hL]

theorem pure (a : α) : (Pure.pure a : Read α).Reads (Form.done a) := by
  intro r b r'
  constructor
  · intro h
    obtain ⟨rfl, rfl⟩ := EStateM.Result.ok.inj h
    exact ⟨[], ⟨rfl, rfl⟩, rfl, rfl⟩
  · rintro ⟨_, ⟨rfl, rfl⟩, hr, hr'⟩
    rw [hr', ← show r.rest = r'.rest from hr]
    rfl

theorem throw (e : DecodeError) : (MonadExcept.throw e : Read α).Reads fun _ _ _ _ => False := by
  intro r a r'
  constructor
  · intro h
    nomatch h
  · rintro ⟨_, h, -⟩
    exact h.elim

/-- The form of a sequence of steps. -/
theorem bind {k : α → Read β} {M : α → Form β} (h : m.Reads L) (hk : ∀ a, (k a).Reads (M a)) :
    (m >>= k).Reads (L.seq M) := by
  intro r b r'
  rw [bind_eq_ok_iff]
  constructor
  · rintro ⟨a, s, hm, hs⟩
    obtain ⟨xs, hx, hr, he⟩ := (h r a s).mp hm
    obtain ⟨ys, hy, hr', he'⟩ := (hk a s b r').mp hs
    rw [he] at hy he'
    refine ⟨xs ++ ys, ⟨a, xs, ys, hx, hy, rfl⟩, ?_, ?_⟩
    · rw [hr, hr', List.append_assoc]
    · rw [he', List.length_append, Nat.add_assoc]
  · rintro ⟨_, ⟨a, xs, ys, hx, hy, rfl⟩, hr, he⟩
    refine ⟨a, ⟨r.order, r.position + xs.length, ys ++ r'.rest⟩, ?_, ?_⟩
    · exact (h r a _).mpr ⟨xs, hx, by rw [hr, List.append_assoc], rfl⟩
    · refine (hk a _ b r').mpr ⟨ys, hy, rfl, ?_⟩
      rw [he, List.length_append, Nat.add_assoc]

/-- A step that looks at the reader first. -/
theorem get {k : Reader → Read α} (h : ∀ r, ∃ M, (k r).Reads M ∧
    ∀ bs a, M r.order r.position bs a ↔ L r.order r.position bs a) :
    (MonadState.get >>= k).Reads L := by
  intro r a r'
  obtain ⟨M, hk, hM⟩ := h r
  rw [bind_of_ok (show (MonadState.get : Read Reader) r = .ok r r from rfl), hk r a r']
  simp only [hM]

end Reads

/-! ## Bytes and words -/

/-- A step that takes bytes takes any of them. -/
theorem take_reads (item : Item) (n : Nat) :
    (take item n).Reads fun _ _ bs a => bs.length = n ∧ a = bs := by
  intro r a r'
  constructor
  · intro h
    rw [take] at h
    split at h
    · next hn =>
      obtain ⟨rfl, rfl⟩ := EStateM.Result.ok.inj h
      have hl : (r.rest.take n).length = n := List.length_take_of_le hn
      refine ⟨r.rest.take n, ⟨hl, rfl⟩, (List.take_append_drop n r.rest).symm, ?_⟩
      rw [hl]
      rfl
    · nomatch h
  · rintro ⟨bs, ⟨hl, rfl⟩, hr, he⟩
    have hn : n ≤ r.remaining := by
      rw [Reader.remaining, hr, List.length_append, hl]
      exact Nat.le_add_right ..
    rw [take, if_pos hn, Reader.advance, hr, ← hl, List.take_left, List.drop_left, he]

theorem align_reads (size : Nat) :
    (align size).Reads fun _ position bs _ => bs.length = padding position size := by
  refine Reads.get fun r => ⟨_, (take_reads _ _).bind fun _ => Reads.pure (), ?_⟩
  intro bs a
  constructor
  · rintro ⟨_, xs, ys, ⟨hx, rfl⟩, ⟨rfl, -⟩, rfl⟩
    rw [List.append_nil, hx]
  · intro h
    exact ⟨bs, bs, [], ⟨h, rfl⟩, ⟨rfl, rfl⟩, (List.append_nil bs).symm⟩

/-- A word is read where the bytes of an integer stand behind the padding. -/
theorem word_reads (item : Item) {w : Word} (hw : 0 < w.size) :
    (word item w).Reads (Form.word w) := by
  have h := (align_reads w.size).bind fun _ => (take_reads item w.size).bind fun bs =>
    Reads.get (k := fun r => (Pure.pure (w.read r.order bs) : Read Int))
      (L := fun order _ ys n => ys = [] ∧ n = w.read order bs)
      fun r => ⟨_, Reads.pure _, fun _ _ => Iff.rfl⟩
  refine Reads.congr h fun order position bs n => ?_
  -- Of the three steps, the first gives the gap, the second the bytes, and the third their meaning.
  constructor
  · rintro ⟨_, gap, _, hg, ⟨_, xs, _, ⟨hl, rfl⟩, ⟨rfl, rfl⟩, rfl⟩, rfl⟩
    refine ⟨gap, hg, Word.holds_read hw hl order, ?_⟩
    rw [Word.write_read hl, List.append_nil]
  · rintro ⟨gap, hg, hn, rfl⟩
    refine ⟨(), gap, _, hg, ⟨_, w.write order n, [], ⟨w.length_write order n, rfl⟩,
      ⟨rfl, ?_⟩, ?_⟩, rfl⟩
    · rw [Word.read_write hw hn]
    · rw [List.append_nil]

theorem uint8_reads : uint8.Reads (Form.word .uint8) := word_reads .uint8 (by decide)

theorem int32_reads : int32.Reads (Form.word .int32) := word_reads .int32 (by decide)

theorem uint32_reads : uint32.Reads (Form.word .uint32) := word_reads .uint32 (by decide)

/-! ## Truth values, byte sequences and texts -/

/-- A truth value is read where a byte below two stands. -/
theorem bool_reads : bool.Reads Form.bool := by
  unfold bool
  refine (uint8_reads.bind (M := fun n _ _ bs b => n ≤ 1 ∧ bs = [] ∧ b = decide (n = 1))
    fun n => ?_).congr fun order position bs b => ?_
  · -- A byte above one is refused, which reads no string at all.
    split
    · next hn =>
      refine Reads.congr (Reads.get (L := fun _ _ _ _ => False) fun r => ⟨_, (Reads.throw _).bind
        fun _ => Reads.pure _, ?_⟩) ?_
      · rintro bs b
        exact ⟨fun ⟨_, _, _, h, _⟩ => h, False.elim⟩
      · rintro _ _ bs b
        exact ⟨False.elim, fun ⟨h, _⟩ => absurd h (Int.not_le.mpr hn)⟩
    · next hn =>
      refine (Reads.pure (decide (n = 1))).congr fun _ _ bs b => ?_
      exact ⟨fun h => ⟨Int.not_lt.mp hn, h⟩, And.right⟩
  · have hp : padding position Word.uint8.size = 0 := padding_one position
    constructor
    · rintro ⟨n, _, _, ⟨gap, hg, ⟨h₀, -⟩, rfl⟩, ⟨h₁, rfl, rfl⟩, rfl⟩
      obtain rfl := List.eq_nil_of_length_eq_zero (hg.trans hp)
      have h₀ : 0 ≤ n := h₀
      rw [Word.write_uint8]
      obtain rfl | rfl : n = 0 ∨ n = 1 := by omega
      · rfl
      · rfl
    · intro h
      refine ⟨if b then 1 else 0, bs, [], ⟨[], hp.symm, ?_, ?_⟩, ⟨?_, rfl, ?_⟩, ?_⟩
      · cases b <;> decide
      · rw [Word.write_uint8, h]
        cases b <;> rfl
      · cases b <;> decide
      · cases b <;> rfl
      · rw [List.append_nil]

/-- The length that a word of four bytes announces is the length of the bytes taken. -/
theorem word_length {order : ByteOrder} {position : Nat} {front raw : Bytes} {n : Int}
    (h : Form.word .uint32 order position front n) (hl : raw.length = n.toNat) :
    Form.word .uint32 order position front raw.length := by
  obtain ⟨gap, hg, hn, rfl⟩ := h
  have h₀ : 0 ≤ n := hn.1
  rw [hl, Int.toNat_of_nonneg h₀]
  exact ⟨gap, hg, hn, rfl⟩

/-- A byte sequence is read where its length and its bytes stand. -/
theorem bytes_reads : bytes.Reads Form.bytes := by
  refine (uint32_reads.bind fun n => take_reads .bytes n.toNat).congr ?_
  intro order position bs raw
  constructor
  · rintro ⟨n, front, _, hf, ⟨hl, rfl⟩, rfl⟩
    exact ⟨front, word_length hf hl, rfl⟩
  · rintro ⟨front, hf, rfl⟩
    exact ⟨raw.length, front, raw, hf, ⟨rfl, rfl⟩, rfl⟩

/-- The bytes without the zero byte that may end them are those of a text. -/
theorem decode_dropTerminator_iff {raw : Bytes} {s : List Char} :
    Utf8.decode (dropTerminator raw) = .ok s ↔ Spells raw (String.ofList s) := by
  rw [Utf8.decode_eq_ok_iff, Spells, ← Utf8.encode_toList, String.toList_ofList, dropTerminator]
  constructor
  · intro h
    split at h
    · next hz =>
      obtain ⟨front, rfl⟩ := List.getLast?_eq_some_iff.mp hz
      rw [List.dropLast_concat] at h
      exact .inl (by rw [h])
    · next hz => exact .inr ⟨h, hz⟩
  · rintro (rfl | ⟨rfl, hz⟩)
    · rw [List.getLast?_concat, if_pos rfl, List.dropLast_concat]
    · rw [if_neg hz]

/-- A text is read where its length and bytes that spell it stand. -/
theorem text_reads : text.Reads Form.text := by
  unfold text
  refine (uint32_reads.bind (M := fun n => Form.seq
    (fun _ _ raw a => raw.length = n.toNat ∧ a = raw) fun raw _ _ bs s => bs = [] ∧ Spells raw s)
    fun n => Reads.get fun r =>
      ⟨_, (take_reads .text n.toNat).bind fun raw => ?_, fun _ _ => Iff.rfl⟩).congr ?_
  · -- Nothing is read behind the bytes: they spell a text, or they are refused.
    rcases hs : Utf8.decode (dropTerminator raw) with fault | cs
    · refine (Reads.throw _).congr fun _ _ bs s => ⟨False.elim, fun ⟨_, h⟩ => ?_⟩
      rw [← String.ofList_toList (s := s), ← decode_dropTerminator_iff, hs] at h
      nomatch h
    · refine (Reads.pure (String.ofList cs)).congr fun _ _ bs s => and_congr_right fun _ => ?_
      rw [← String.ofList_toList (s := s), ← decode_dropTerminator_iff, hs, Except.ok.injEq,
        String.ofList_inj, eq_comm]
  · intro order position bs s
    constructor
    · rintro ⟨n, front, _, hf, ⟨raw, _, _, ⟨hl, rfl⟩, ⟨rfl, hs⟩, rfl⟩, rfl⟩
      exact ⟨raw, ⟨front, word_length hf hl, by rw [List.append_nil]⟩, hs⟩
    · rintro ⟨raw, ⟨front, hf, rfl⟩, hs⟩
      exact ⟨_, front, raw, hf, ⟨raw, raw, [], ⟨rfl, rfl⟩, ⟨rfl, hs⟩, by rw [List.append_nil]⟩, rfl⟩

end Read

/-! ## Headers -/

theorem bytes_big_two (m n : UInt8) : ByteOrder.big.bytes 2 (m.toNat * 256 + n.toNat) = [m, n] := by
  have h := ByteOrder.big.bytes_value [m, n]
  have hv : ByteOrder.big.value [m, n] = m.toNat * 256 + n.toNat := by
    simp only [ByteOrder.value, List.reverse_cons, List.reverse_nil, List.nil_append,
      List.cons_append, littleValue]
    omega
  rwa [hv] at h

theorem lt_of_ofIdentifier? {identifier : Nat} {order : ByteOrder}
    (h : ByteOrder.ofIdentifier? identifier = some order) : identifier < 256 := by
  unfold ByteOrder.ofIdentifier? at h
  split at h <;> first | omega | nomatch h

/-- A header is an identifier that announces a byte order, and two more bytes. -/
theorem start_eq_ok_iff {payload : Bytes} {r : Reader} :
    Reader.start payload = .ok r ↔ ∃ (identifier : Nat) (o₀ o₁ : UInt8),
      ByteOrder.ofIdentifier? identifier = some r.order ∧ r.position = 0 ∧
        payload = ByteOrder.big.bytes 2 identifier ++ [o₀, o₁] ++ r.rest := by
  constructor
  · intro h
    unfold Reader.start at h
    split at h
    · next b₀ b₁ o₀ o₁ rest =>
      simp only at h
      split at h
      · next order hi =>
        obtain rfl := Except.ok.inj h
        exact ⟨_, o₀, o₁, hi, rfl, by rw [bytes_big_two]; rfl⟩
      · nomatch h
    · nomatch h
  · rintro ⟨identifier, o₀, o₁, hi, hp, rfl⟩
    have hlt := lt_of_ofIdentifier? hi
    have hn : identifier = (0 : UInt8).toNat * 256 + (UInt8.ofNat identifier).toNat := by
      rw [UInt8.toNat_ofNat', Nat.mod_eq_of_lt hlt, UInt8.toNat_zero, Nat.zero_mul, Nat.zero_add]
    rw [hn] at hi ⊢
    rw [bytes_big_two]
    simp only [List.cons_append, List.nil_append, Reader.start, hi, ← hp]

end FrameChunks.Wire
