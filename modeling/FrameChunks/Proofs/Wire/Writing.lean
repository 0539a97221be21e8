import FrameChunks.Proofs.Steps
import FrameChunks.Proofs.Wire.Reading
import FrameChunks.Wire.Writer

/-!
# What writing steps append

A writing step has a condition, under which it succeeds. What it appends then depends only on the
byte order and on the number of bytes before. Every step appends bytes that the reading step of the
same kind accepts.

## Main definitions

* `Output`: what a step appends
* `Write.Puts`: a step succeeds under a condition and appends an output
* `Output.word`, `Output.bytes`, `Output.text`: the outputs of the items of a message

## Main results

* `Write.Puts.bind`: the output of a sequence of steps
* `Write.word_puts`, `Write.bool_puts`, `Write.text_puts`, `Write.bytes_puts`: the outputs of the
  steps
* `Output.word_form`, `Output.bytes_form`, `Output.text_form`: outputs are of the form that is read
* `Output.seq_eq`, `Output.word_eq`, `Output.bytes_eq_of_aligned`: outputs at a given position
-/

namespace FrameChunks.Wire

open Text Steps

/-- What a step appends, by the byte order and the number of bytes before it. -/
abbrev Output := ByteOrder → Nat → Bytes

namespace Output

/-- An output with a second one behind it. -/
def seq (out out' : Output) : Output := fun order position =>
  out order position ++ out' order (position + (out order position).length)

/-- Zero bytes up to the next multiple of the size of the word, and the bytes of an integer. -/
def word (w : Word) (n : Int) : Output := fun order position =>
  List.replicate (padding position w.size) 0 ++ w.write order n

/-- The length of a byte string, and the bytes. -/
def bytes (bs : Bytes) : Output := seq (word .uint32 bs.length) fun _ _ => bs

/-- The bytes of a text with a zero byte behind them. -/
def textBytes (s : String) : Bytes := s.toUTF8.data.toList ++ [0]

/-- The length of a text with its zero byte, and the bytes. -/
def text (s : String) : Output := bytes (textBytes s)

/-- The number of bytes is the same in both byte orders. -/
def SameSize (out : Output) : Prop :=
  ∀ order order' position, (out order position).length = (out order' position).length

end Output

namespace Write

/-- A step succeeds under a condition, and then it appends the output. Otherwise it fails at an
integer that does not fit its word. -/
def Puts (m : Write Unit) (fits : Prop) (out : Output) : Prop :=
  ∀ w : Writer,
    (fits → m w = .ok () { w with body := w.body ++ out w.order w.body.length }) ∧
      (¬ fits → ∃ n w', m w = .error (.outOfRange n) w')

/-- The output of a sequence of steps. -/
theorem Puts.bind {m k : Write Unit} {fits fits' : Prop} {out out' : Output} (h : m.Puts fits out)
    (hk : k.Puts fits' out') : (m >>= fun _ => k).Puts (fits ∧ fits') (out.seq out') := by
  intro w
  constructor
  · rintro ⟨hf, hf'⟩
    rw [bind_of_ok ((h w).1 hf), (hk _).1 hf', List.length_append, List.append_assoc]
    rfl
  · intro hn
    -- The first step that does not fit is the one that fails.
    by_cases hf : fits
    · obtain ⟨n, w', he⟩ := (hk { w with body := w.body ++ out w.order w.body.length }).2
        fun hf' => hn ⟨hf, hf'⟩
      exact ⟨n, w', by rw [bind_of_ok ((h w).1 hf), he]⟩
    · obtain ⟨n, w', he⟩ := (h w).2 hf
      exact ⟨n, w', bind_of_error he⟩

theorem put_eq (bs : Bytes) (w : Writer) : put bs w = .ok () { w with body := w.body ++ bs } := rfl

theorem put_puts (bs : Bytes) : (put bs).Puts True fun _ _ => bs :=
  fun w => ⟨fun _ => put_eq bs w, fun h => absurd trivial h⟩

theorem align_eq (size : Nat) (w : Writer) : align size w =
    .ok () { w with body := w.body ++ List.replicate (padding w.body.length size) 0 } := rfl

/-- A word is written if it holds the integer. -/
theorem word_puts (kind : Word) (n : Int) : (word kind n).Puts (kind.Holds n) (.word kind n) := by
  intro w
  unfold word
  rw [bind_of_ok (align_eq kind.size w)]
  constructor
  · intro hn
    rw [if_pos hn]
    show put _ _ = _
    rw [put_eq, List.append_assoc]
    rfl
  · intro hn
    rw [if_neg hn]
    exact ⟨n, _, rfl⟩

theorem bool_puts (b : Bool) : (bool b).Puts True (.word .uint8 (if b then 1 else 0)) := by
  have hb : Word.uint8.Holds (if b then 1 else 0) := by cases b <;> decide
  exact fun w => ⟨fun _ => (word_puts _ _ w).1 hb, fun h => absurd trivial h⟩

/-- A byte sequence is written if a word holds its length. -/
theorem bytes_puts (bs : Bytes) : (bytes bs).Puts (Word.uint32.Holds bs.length) (.bytes bs) := by
  have h := (word_puts .uint32 bs.length).bind (put_puts bs)
  rw [and_true] at h
  exact h

theorem text_puts (s : String) :
    (text s).Puts (Word.uint32.Holds (Output.textBytes s).length) (.text s) := by
  have h : (text s).Puts _ _ := bytes_puts (Utf8.encode s.toList ++ [0])
  rw [Utf8.encode_toList] at h
  exact h

end Write

namespace Output

variable {order : ByteOrder} {position : Nat}

/-! ## Outputs are read -/

theorem word_form {w : Word} {n : Int} (h : w.Holds n) :
    Form.word w order position (word w n order position) n :=
  ⟨_, List.length_replicate, h, rfl⟩

theorem bool_form (b : Bool) :
    Form.bool order position (word .uint8 (if b then 1 else 0) order position) b := by
  rw [word, Word.size_uint8, padding_one, Word.write_uint8]
  cases b <;> rfl

theorem bytes_form {bs : Bytes} (h : Word.uint32.Holds bs.length) :
    Form.bytes order position (bytes bs order position) bs :=
  ⟨_, word_form h, rfl⟩

theorem text_form {s : String} (h : Word.uint32.Holds (textBytes s).length) :
    Form.text order position (text s order position) s :=
  ⟨textBytes s, bytes_form h, .inl rfl⟩

theorem seq_form {α β : Type} {L : Form α} {M : α → Form β} {out out' : Output} {a : α} {b : β}
    (h : L order position (out order position) a)
    (h' : M a order (position + (out order position).length)
      (out' order (position + (out order position).length)) b) :
    L.seq M order position (out.seq out' order position) b :=
  Form.seq_append h h'

/-! ## Outputs at a given position -/

section Position

variable {out out' : Output} {w : Word} {n : Int} {bs gap xs ys : Bytes}

theorem seq_eq (h : out order position = xs) (h' : out' order (position + xs.length) = ys) :
    out.seq out' order position = xs ++ ys := by
  subst h
  rw [← h', seq]

theorem word_eq (hw : 0 < w.size) (hl : gap.length < w.size)
    (hg : (position + gap.length) % w.size = 0) (h₀ : ∀ b ∈ gap, b = 0) :
    word w n order position = gap ++ w.write order n := by
  have hlength : gap.length = padding position w.size := (eq_padding_iff hw).mpr ⟨hl, hg⟩
  rw [word, ← hlength, List.eq_replicate_of_mem h₀, List.length_replicate]

theorem word_eq_of_aligned (hw : 0 < w.size) (h : position % w.size = 0) :
    word w n order position = w.write order n := by
  have hlength : ([] : Bytes).length < w.size := hw
  exact word_eq hw hlength h (List.forall_mem_nil _)

theorem bytes_eq_of_aligned (h : position % 4 = 0) :
    bytes bs order position = Word.uint32.write order bs.length ++ bs :=
  seq_eq (word_eq_of_aligned (by decide) h) rfl

end Position

/-! ## The two byte orders -/

theorem SameSize.seq {out out' : Output} (h : out.SameSize) (h' : out'.SameSize) :
    (out.seq out').SameSize := by
  intro order order' position
  rw [Output.seq, Output.seq, List.length_append, List.length_append, h order order' position,
    h' order order']

theorem sameSize_const (bs : Bytes) : SameSize fun _ _ => bs := fun _ _ _ => rfl

theorem sameSize_word (w : Word) (n : Int) : (word w n).SameSize := by
  intro order order' position
  rw [word, word, List.length_append, List.length_append, Word.length_write, Word.length_write]

theorem sameSize_bytes (bs : Bytes) : (bytes bs).SameSize :=
  (sameSize_word _ _).seq (sameSize_const bs)

theorem sameSize_text (s : String) : (text s).SameSize := sameSize_bytes _

end Output

/-! ## Integers and lengths that fit -/

theorem holds_uint32_iff {n : Int} : Word.uint32.Holds n ↔ 0 ≤ n ∧ n < 2 ^ 32 := Iff.rfl

theorem holds_length_iff {n : Nat} : Word.uint32.Holds n ↔ n ≤ 2 ^ 32 - 1 := by
  rw [holds_uint32_iff]
  omega

theorem holds_textBytes_iff {s : String} :
    Word.uint32.Holds (Output.textBytes s).length ↔ s.utf8ByteSize ≤ 2 ^ 32 - 2 := by
  have hl : (Output.textBytes s).length = s.utf8ByteSize + 1 := by
    rw [Output.textBytes, List.length_append, List.length_singleton]
    rfl
  rw [hl, holds_length_iff]
  omega

end FrameChunks.Wire
