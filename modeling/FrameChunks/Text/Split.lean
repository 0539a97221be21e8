/-!
# Splitting and joining

## Main definitions

* `split`: the parts of a text between separators
* `join`: parts with a separator between them

## Main results

* `join_split`: joining undoes splitting
* `not_mem_of_mem_split`: no part holds the separator
-/

namespace FrameChunks.Text

variable {α : Type} [DecidableEq α]

/-- The parts between separators. There is always one, which may be empty. -/
def split (separator : α) : List α → List (List α)
  | [] => [[]]
  | c :: rest =>
    if c = separator then [] :: split separator rest
    else
      match split separator rest with
      | [] => [[c]]
      | part :: parts => (c :: part) :: parts

/-- The parts with a separator between them. -/
def join (separator : α) : List (List α) → List α
  | [] => []
  | [part] => part
  | part :: parts => part ++ separator :: join separator parts

theorem split_ne_nil (separator : α) (s : List α) : split separator s ≠ [] := by
  cases s with
  | nil => simp [split]
  | cons c rest =>
    unfold split
    split
    · simp
    · split <;> simp

/-- Joining undoes splitting. -/
theorem join_split (separator : α) (s : List α) : join separator (split separator s) = s := by
  induction s with
  | nil => rfl
  | cons c rest ih =>
    unfold split
    split
    -- a separator: an empty part comes first
    · rename_i hc
      cases hs : split separator rest with
      | nil => exact absurd hs (split_ne_nil separator rest)
      | cons part parts => rw [hs] at ih; simp [join, ih, hc]
    -- another character goes to the front of the first part
    · cases hs : split separator rest with
      | nil => exact absurd hs (split_ne_nil separator rest)
      | cons part parts =>
        rw [hs] at ih
        cases parts with
        | nil => simpa [join] using ih
        | cons q qs => simpa [join] using ih

/-- No part holds the separator. -/
theorem not_mem_of_mem_split {separator : α} {s part : List α} (h : part ∈ split separator s) :
    separator ∉ part := by
  induction s generalizing part with
  | nil => simp_all [split]
  | cons c rest ih =>
    unfold split at h
    split at h
    -- the empty part, or a part of the rest
    · rcases List.mem_cons.1 h with rfl | h
      · simp
      · exact ih h
    -- the longer first part, or a part of the rest
    · rename_i hc
      cases hs : split separator rest with
      | nil => exact absurd hs (split_ne_nil separator rest)
      | cons p ps =>
        rw [hs] at h ih
        rcases List.mem_cons.1 h with rfl | h
        · simpa [Ne.symm hc] using ih List.mem_cons_self
        · exact ih (List.mem_cons_of_mem _ h)

end FrameChunks.Text
