import FrameChunks.Chunk.Id
import FrameChunks.Proofs.Text.Hex
import Mathlib.Algebra.Group.Int.Defs
import Mathlib.Data.List.Nodup

/-!
# Chunk ids

An id of two numbers of 64 bits may be read as one number of 128 bits, and its text is the numeral of
that number. So texts are told apart and ordered as the ids are.

The increments of a counter start again after one period. Until then no id comes twice, whatever the
clock shows. The ids are also in order if the clock never goes back and the increments do not start
again.

## Main definitions

* `ChunkId.Fits`: an id whose numbers fit 64 bits
* `ChunkId.number`: the two numbers as one
* `ChunkId.Counter.Lasts`: increments that do not start again

## Main results

* `ChunkId.text_inj`, `ChunkId.text_lt_iff`: when texts are the same, and their order
* `ChunkId.text_faithful`: the text of an id, and what it tells about the id
* `ChunkId.Counter.freshAll_distinct`: the ids of a counter
-/

namespace FrameChunks.ChunkId

open Text

/-! ## Texts -/

/-- An id whose two numbers fit 64 bits without a sign. -/
structure Fits (id : ChunkId) : Prop where
  time : 0 ≤ id.time ∧ id.time < 2 ^ 64
  increment : 0 ≤ id.increment ∧ id.increment < 2 ^ 64

/-- The two numbers of an id as one, the time in front. -/
def number (id : ChunkId) : Int := id.time * 2 ^ 64 + id.increment

section Text

variable {a b : ChunkId}

theorem number_lt_iff (ha : a.Fits) (hb : b.Fits) : a.number < b.number ↔ a.Precedes b := by
  have hat := ha.time
  have hbt := hb.time
  have hai := ha.increment
  have hbi := hb.increment
  unfold number Precedes
  omega

theorem number_inj (ha : a.Fits) (hb : b.Fits) : a.number = b.number ↔ a = b := by
  have hai := ha.increment
  have hbi := hb.increment
  constructor
  · intro h
    unfold number at h
    have ht : a.time = b.time := by omega
    have hi : a.increment = b.increment := by omega
    cases a
    cases b
    exact congr (congrArg mk ht) hi
  · exact congrArg number

/-- Both numbers of an id that fits are natural numbers, and the text is made of their numerals. -/
theorem Fits.exists_padded (h : a.Fits) : ∃ m n : Nat, m < 16 ^ 16 ∧ n < 16 ^ 16 ∧
    a.time = m ∧ a.increment = n ∧ a.text.toList = Hex.padded 16 m ++ Hex.padded 16 n := by
  obtain ⟨m, hm⟩ := Int.eq_ofNat_of_zero_le h.time.1
  obtain ⟨n, hn⟩ := Int.eq_ofNat_of_zero_le h.increment.1
  have ht := h.time.2
  have hi := h.increment.2
  refine ⟨m, n, by omega, by omega, hm, hn, ?_⟩
  rw [text, String.toList_ofList, hm, hn]

theorem Fits.length_text (h : a.Fits) : a.text.toList.length = 32 := by
  obtain ⟨m, n, hm, hn, -, -, htext⟩ := h.exists_padded
  rw [htext, List.length_append, Hex.length_padded (by decide) hm, Hex.length_padded (by decide) hn]

theorem Fits.mem_alphabet (h : a.Fits) : ∀ c ∈ a.text.toList, c ∈ Hex.alphabet := by
  obtain ⟨m, n, -, -, -, -, htext⟩ := h.exists_padded
  intro c hc
  rw [htext] at hc
  rcases List.mem_append.mp hc with hc | hc
  · exact Hex.mem_alphabet_of_mem_padded hc
  · exact Hex.mem_alphabet_of_mem_padded hc

theorem Fits.value_text (h : a.Fits) : (Hex.value a.text.toList : Int) = a.number := by
  obtain ⟨m, n, -, hn, hm', hn', htext⟩ := h.exists_padded
  rw [htext, Hex.value_append, Hex.length_padded (by decide) hn, Hex.value_padded, Hex.value_padded,
    number, hm', hn']
  omega

theorem text_inj (ha : a.Fits) (hb : b.Fits) : a.text = b.text ↔ a = b := by
  constructor
  · intro h
    rw [← number_inj ha hb, ← ha.value_text, ← hb.value_text, h]
  · exact congrArg text

theorem text_lt_iff (ha : a.Fits) (hb : b.Fits) : a.text < b.text ↔ a.Precedes b := by
  have hlength := ha.length_text.trans hb.length_text.symm
  rw [String.lt_iff, Hex.lt_iff_value_lt ha.mem_alphabet hb.mem_alphabet hlength,
    ← number_lt_iff ha hb, ← ha.value_text, ← hb.value_text, Int.ofNat_lt]

/-- The text of an id that fits is 32 digits. Two ids have the same text only if they are the same,
and one text is before another, by code points, exactly if its id is. -/
theorem text_faithful (a b : ChunkId) (ha : a.Fits) (hb : b.Fits) :
    (a.text.length = 32 ∧ ∀ c ∈ a.text.toList, c ∈ Hex.alphabet) ∧
      (a.text = b.text ↔ a = b) ∧ (a.text < b.text ↔ a.Precedes b) :=
  ⟨⟨ha.length_text, ha.mem_alphabet⟩, text_inj ha hb, text_lt_iff ha hb⟩

/-- The last id of a time, the numeral of which ends in a digit. -/
def lastOfNine : ChunkId := ⟨9, 2 ^ 64 - 1⟩

/-- The first id of the next time, the numeral of which ends in a letter. -/
def firstOfTen : ChunkId := ⟨10, 0⟩

theorem text_faithful_lastOfNine : lastOfNine.Fits ∧ firstOfTen.Fits ∧
    lastOfNine.text.length = 32 ∧ lastOfNine.text ≠ firstOfTen.text ∧
    lastOfNine.text < firstOfTen.text := by
  have ha : lastOfNine.Fits := ⟨by decide, by decide⟩
  have hb : firstOfTen.Fits := ⟨by decide, by decide⟩
  obtain ⟨⟨hlength, -⟩, heq, hlt⟩ := text_faithful lastOfNine firstOfTen ha hb
  exact ⟨ha, hb, hlength, heq.not.mpr (by decide), hlt.mpr (by decide)⟩

end Text

/-! ## Fresh ids -/

namespace Counter

variable {c : Counter} {times : List Int} {id : ChunkId}

/-- So many increments do not start again. -/
def Lasts (c : Counter) (calls : Nat) : Prop := 0 ≤ c.next ∧ c.next + calls ≤ period

theorem lasts_iff {seed calls : Nat} : Lasts ⟨seed⟩ calls ↔ seed + calls ≤ 2 ^ 64 := by
  show (0 : Int) ≤ seed ∧ (seed : Int) + calls ≤ 2 ^ 64 ↔ _
  omega

theorem map_time_freshAll (c : Counter) (times : List Int) :
    (c.freshAll times).map ChunkId.time = times := by
  induction times generalizing c with
  | nil => rfl
  | cons time rest ih =>
    rw [freshAll, List.map_cons, ih]
    rfl

/-- An id of a counter shows one of the times, and the increment says at which call it was given. -/
theorem exists_call_of_mem (h : id ∈ c.freshAll times) :
    id.time ∈ times ∧ ∃ k < times.length, id.increment = (c.next + k) % period := by
  induction times generalizing c with
  | nil => nomatch h
  | cons time rest ih =>
    rcases List.mem_cons.mp h with rfl | h
    · exact ⟨List.mem_cons_self, 0, Nat.zero_lt_succ _, by simp [fresh]⟩
    · obtain ⟨htime, k, hk, hi⟩ := ih h
      refine ⟨List.mem_cons_of_mem time htime, k + 1, Nat.succ_lt_succ hk, ?_⟩
      rw [hi, fresh, Int.natCast_succ, Int.add_assoc, Int.add_comm 1]

/-- No two increments are the same before they start again, whatever the times are. -/
theorem nodup_increments (h : times.length ≤ 2 ^ 64) :
    ((c.freshAll times).map increment).Nodup := by
  induction times generalizing c with
  | nil => exact List.nodup_nil
  | cons time rest ih =>
    rw [List.length_cons] at h
    rw [freshAll, List.map_cons, List.nodup_cons]
    refine ⟨?_, ih (Nat.le_of_succ_le h)⟩
    intro hm
    obtain ⟨id, hid, he⟩ := List.mem_map.mp hm
    obtain ⟨-, k, hk, hi⟩ := exists_call_of_mem hid
    -- the two calls are less than one period apart
    have hfirst : c.next % period = (c.next + 1 + k) % period := he.symm.trans hi
    unfold period at hfirst
    omega

theorem pairwise_precedes (htimes : times.Pairwise (· ≤ ·)) (h : c.Lasts times.length) :
    (c.freshAll times).Pairwise Precedes := by
  induction times generalizing c with
  | nil => exact List.Pairwise.nil
  | cons time rest ih =>
    obtain ⟨hle, hrest⟩ := List.pairwise_cons.mp htimes
    obtain ⟨hseed, hlast⟩ := h
    rw [List.length_cons] at hlast
    rw [freshAll, List.pairwise_cons]
    constructor
    · intro id hid
      obtain ⟨htime, k, hk, hi⟩ := exists_call_of_mem hid
      have htime := hle _ htime
      have hi : id.increment = (c.next + 1 + k) % period := hi
      have hlt : c.next % period < id.increment := by
        unfold period at *
        omega
      rcases Int.lt_or_eq_of_le htime with hlt' | heq
      · exact .inl hlt'
      · exact .inr ⟨heq, hlt⟩
    · apply ih hrest
      constructor
      · show 0 ≤ c.next + 1
        omega
      · show c.next + 1 + _ ≤ _
        omega

/-- Every call gives an id that shows the time of the call. Among as many calls as there are
increments no id comes twice, whatever the clock shows. If it never goes back, and the increments do
not start again, every id precedes the later ones. -/
theorem freshAll_distinct (seed : Nat) (times : List Int) (h : times.length ≤ 2 ^ 64) :
    (freshAll ⟨seed⟩ times).map ChunkId.time = times ∧
      (freshAll ⟨seed⟩ times).Nodup ∧
      (times.Pairwise (· ≤ ·) → seed + times.length ≤ 2 ^ 64 →
        (freshAll ⟨seed⟩ times).Pairwise Precedes) ∧
      (times.Pairwise (· ≤ ·) → seed < 2 ^ 56 → times.length ≤ 2 ^ 64 - 2 ^ 56 →
        (freshAll ⟨seed⟩ times).Pairwise Precedes) := by
  refine ⟨map_time_freshAll _ _, List.Nodup.of_map _ (nodup_increments h), ?_, ?_⟩
  · intro htimes hl
    exact pairwise_precedes htimes (lasts_iff.mpr hl)
  · intro htimes hs hl
    exact pairwise_precedes htimes (lasts_iff.mpr (by omega))

/-- Two calls at one time, with increments that start again between them, and a third call before
that time. The other increments go up to the last one. -/
theorem freshAll_distinct_restarting :
    (freshAll ⟨(2 ^ 64 - 1 : Nat)⟩ [5, 5, 3]).Nodup ∧
      (freshAll ⟨(2 ^ 64 - 3 : Nat)⟩ [5, 5, 7]).Pairwise Precedes ∧
      (freshAll ⟨(2 ^ 56 - 1 : Nat)⟩ [5, 5, 7]).Pairwise Precedes := by
  have hdistinct := (freshAll_distinct (2 ^ 64 - 1) [5, 5, 3] (by decide)).2.1
  have hlast := (freshAll_distinct (2 ^ 64 - 3) [5, 5, 7] (by decide)).2.2.1
  have hseven := (freshAll_distinct (2 ^ 56 - 1) [5, 5, 7] (by decide)).2.2.2
  exact ⟨hdistinct, hlast (by decide) (by decide), hseven (by decide) (by decide) (by decide)⟩

end Counter

end FrameChunks.ChunkId
