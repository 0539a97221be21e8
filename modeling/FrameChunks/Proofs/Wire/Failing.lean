import FrameChunks.Proofs.Wire.Program
import FrameChunks.Proofs.Wire.Stopping

/-!
# Programs of reads that fail

A program that stops at the first failure has read every value before it. A failure that more bytes
behind the payload do not change at one value, they do not change for a program. A sequence of steps
that reads values and puts them together fails as the program of their kinds.

## Main definitions

* `Read.FailsAs`: a step fails exactly as a program does

## Main results

* `Read.exists_of_log_error`: the value at which a program has failed
* `Read.log_extend_of_error`: the failure of a program with more bytes behind the payload
* `Read.FailsAs.bind`: a sequence of steps fails as the program of its kinds
-/

namespace FrameChunks.Wire.Read

open Steps

variable {kind : Kind} {kinds rest : List Kind} {r r' s : Reader} {v : Value} {e : DecodeError}
  {entries : List (Value × Nat)} {payload tail : Bytes}

theorem log_cons_of_ok (h : value kind r = .ok v s) :
    log (kind :: rest) r = ((fun es => (v, s.offset) :: es) <$> log rest) s := by
  rw [log, bind_of_ok h]
  rcases hl : log rest s with ⟨es, t⟩ | ⟨e, t⟩
  · rw [map_of_ok hl]
    exact (bind_of_ok rfl).trans ((bind_of_ok hl).trans rfl)
  · rw [map_of_error hl]
    exact (bind_of_ok rfl).trans (bind_of_error hl)

theorem log_cons_of_error (h : value kind r = .error e r') :
    log (kind :: rest) r = .error e r' :=
  bind_of_error h

theorem log_cons_eq_ok_iff : log (kind :: rest) r = .ok entries r' ↔
    ∃ v s es, value kind r = .ok v s ∧ log rest s = .ok es r' ∧ (v, s.offset) :: es = entries := by
  rcases hv : value kind r with ⟨v, s⟩ | ⟨e, s⟩
  · rw [log_cons_of_ok hv, map_eq_ok_iff]
    constructor
    · rintro ⟨es, hes, rfl⟩
      exact ⟨v, s, es, rfl, hes, rfl⟩
    · rintro ⟨_, _, es, h, hes, rfl⟩
      obtain ⟨rfl, rfl⟩ := EStateM.Result.ok.inj h
      exact ⟨es, hes, rfl⟩
  · rw [log_cons_of_error hv]
    constructor
    · intro h
      nomatch h
    · rintro ⟨_, _, _, h, -⟩
      nomatch h

theorem log_cons_eq_error_iff : log (kind :: rest) r = .error e r' ↔
    value kind r = .error e r' ∨ ∃ v s, value kind r = .ok v s ∧ log rest s = .error e r' := by
  rcases hv : value kind r with ⟨v, s⟩ | ⟨e', s⟩
  · rw [log_cons_of_ok hv, map_eq_error_iff]
    constructor
    · intro h
      exact .inr ⟨v, s, rfl, h⟩
    · rintro (h | ⟨_, _, h, hl⟩)
      · nomatch h
      · obtain ⟨rfl, rfl⟩ := EStateM.Result.ok.inj h
        exact hl
  · rw [log_cons_of_error hv]
    constructor
    · intro h
      obtain ⟨rfl, rfl⟩ := EStateM.Result.error.inj h
      exact .inl rfl
    · rintro (h | ⟨_, _, h, -⟩)
      · obtain ⟨rfl, rfl⟩ := EStateM.Result.error.inj h
        rfl
      · nomatch h

/-- A program that fails has read every value before the one at which it fails. -/
theorem exists_of_log_error (h : log kinds r = .error e r') :
    ∃ before kind after entries s, kinds = before ++ kind :: after ∧
      log before r = .ok entries s ∧ value kind s = .error e r' := by
  -- Induction on the program, which fails at its first value or behind it.
  induction kinds generalizing r with
  | nil => nomatch h
  | cons kind rest ih =>
    rcases log_cons_eq_error_iff.mp h with hv | ⟨v, s, hv, hl⟩
    · exact ⟨[], kind, rest, [], r, rfl, rfl, hv⟩
    · obtain ⟨before, kind', after, es, t, rfl, hes, ht⟩ := ih hl
      exact ⟨kind :: before, kind', after, (v, s.offset) :: es, t, rfl,
        log_cons_eq_ok_iff.mpr ⟨v, s, es, hv, hes, rfl⟩, ht⟩

theorem within_of_log (hr : r.Within payload) (h : log kinds r = .ok entries r') :
    r'.Within payload := by
  induction kinds generalizing r entries with
  | nil =>
    obtain ⟨-, rfl⟩ := EStateM.Result.ok.inj h
    exact hr
  | cons kind rest ih =>
    obtain ⟨v, s, es, hv, hes, -⟩ := log_cons_eq_ok_iff.mp h
    obtain ⟨n, hn, rfl⟩ := (value_reads kind).advance_le hv
    exact ih (hr.advance hn) hes

theorem log_extend_of_error (h : log kinds r = .error e r') (he : ¬ e.cause.Incomplete)
    (tail : Bytes) : log kinds (r.extend tail) = .error e (r'.extend tail) := by
  induction kinds generalizing r with
  | nil => nomatch h
  | cons kind rest ih =>
    rcases log_cons_eq_error_iff.mp h with hv | ⟨v, s, hv, hl⟩
    · exact log_cons_eq_error_iff.mpr (.inl (value_extend_of_error hv he tail))
    · exact log_cons_eq_error_iff.mpr
        (.inr ⟨v, s.extend tail, (value_reads kind).extend hv tail, ih hl⟩)

/-! ## Steps that put values together -/

section FailsAs

variable {α β : Type} {m : Read α}

/-- A step fails exactly as the program of the given kinds. -/
def FailsAs (m : Read α) (kinds : List Kind) : Prop :=
  ∀ r e r', m r = .error e r' ↔ log kinds r = .error e r'

theorem FailsAs.pure (a : α) : (Pure.pure a : Read α).FailsAs [] := by
  intro r e r'
  constructor <;> intro h <;> nomatch h

theorem FailsAs.bind {k : α → Read β} (f : α → Value) (hm : value kind = f <$> m)
    (hk : ∀ a, (k a).FailsAs rest) : (m >>= k).FailsAs (kind :: rest) := by
  intro r e r'
  rw [bind_eq_error_iff, log_cons_eq_error_iff, hm, map_eq_error_iff]
  refine or_congr_right ⟨?_, ?_⟩
  · rintro ⟨a, s, ha, hs⟩
    exact ⟨f a, s, map_of_ok ha, (hk a s e r').mp hs⟩
  · rintro ⟨v, s, hv, hs⟩
    obtain ⟨a, ha, -⟩ := map_eq_ok_iff.mp hv
    exact ⟨a, s, ha, (hk a s e r').mpr hs⟩

end FailsAs

end FrameChunks.Wire.Read
