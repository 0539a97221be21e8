/-!
# Tables in order of first arrival

A `Keyed κ α` binds each key to one value and lists its keys in the order in which they first
arrived. Writing to a key that is present replaces its value and moves nothing.

## Main definitions

* `Keyed.get?`, `Keyed.insert`, `Keyed.erase`: look-up and writing
* `Keyed.update`: changes the value of a key, starting from a given one
* `Keyed.ofList`: writes the pairs of a list one after the other

## Main results

* `keys_insert_of_mem`, `keys_insert_of_not_mem`: where an insertion puts its key
* `get?_insert`: what a look-up finds after an insertion
-/

namespace FrameChunks

/-- A table that remembers the order in which its keys first arrived. -/
structure Keyed (κ : Type) (α : Type) where
  /-- The bindings, oldest key first. -/
  entries : List (κ × α)
  /-- No key is bound twice. -/
  nodup : (entries.map Prod.fst).Nodup

namespace Keyed

variable {κ α β : Type}

@[ext] theorem ext {t u : Keyed κ α} (h : t.entries = u.entries) : t = u := by
  cases t; cases u; cases h; rfl

/-- The table that binds nothing. -/
def empty : Keyed κ α := ⟨[], List.nodup_nil⟩

instance : Inhabited (Keyed κ α) := ⟨empty⟩

/-- The keys, in order of first arrival. -/
def keys (t : Keyed κ α) : List κ := t.entries.map Prod.fst

/-- The values, in the order of their keys. -/
def values (t : Keyed κ α) : List α := t.entries.map Prod.snd

/-- The number of keys. -/
def size (t : Keyed κ α) : Nat := t.entries.length

/-- Applies `f` to every value; the keys stay as they are. -/
def mapValues (f : α → β) (t : Keyed κ α) : Keyed κ β where
  entries := t.entries.map fun e => (e.1, f e.2)
  nodup := by simpa [Function.comp_def] using t.nodup

@[simp] theorem keys_empty : (empty : Keyed κ α).keys = [] := rfl

@[simp] theorem keys_mapValues (f : α → β) (t : Keyed κ α) : (t.mapValues f).keys = t.keys := by
  simp [keys, mapValues, Function.comp_def]

variable [DecidableEq κ]

/-- The value bound to a key. -/
def get? (t : Keyed κ α) (k : κ) : Option α := (t.entries.find? fun e => e.1 = k).map Prod.snd

/-- Whether a key is bound. -/
def contains (t : Keyed κ α) (k : κ) : Bool := k ∈ t.keys

/-- The bindings with the value of `k` replaced. -/
def replace (k : κ) (v : α) (entries : List (κ × α)) : List (κ × α) :=
  entries.map fun e => if e.1 = k then (k, v) else e

theorem map_fst_replace (k : κ) (v : α) (entries : List (κ × α)) :
    (replace k v entries).map Prod.fst = entries.map Prod.fst := by
  simp only [replace, List.map_map]
  apply List.map_congr_left
  intro e _
  simp only [Function.comp_apply]
  split <;> simp_all

/-- Binds `k` to `v`: in place if `k` is bound already, at the end otherwise. -/
def insert (t : Keyed κ α) (k : κ) (v : α) : Keyed κ α :=
  if h : k ∈ t.keys then
    ⟨replace k v t.entries, by rw [map_fst_replace]; exact t.nodup⟩
  else
    ⟨t.entries ++ [(k, v)], by
      have hk : k ∉ t.entries.map Prod.fst := h
      rw [List.map_append, List.nodup_append]
      refine ⟨t.nodup, by simp, ?_⟩
      intro a ha b hb hab
      simp only [List.map_cons, List.map_nil, List.mem_singleton] at hb
      exact hk (hb ▸ hab ▸ ha)⟩

/-- Changes the value of `k` by `f`, starting from `start` if `k` is not bound. -/
def update (t : Keyed κ α) (k : κ) (start : α) (f : α → α) : Keyed κ α :=
  t.insert k (f ((t.get? k).getD start))

/-- The table that results from writing the pairs one after the other. -/
def ofList (pairs : List (κ × α)) : Keyed κ α :=
  pairs.foldl (fun t e => t.insert e.1 e.2) empty

/-- The table without the key `k`. -/
def erase (t : Keyed κ α) (k : κ) : Keyed κ α where
  entries := t.entries.filter fun e => e.1 ≠ k
  nodup := t.nodup.sublist ((List.filter_sublist).map Prod.fst)

theorem entries_insert_of_mem {t : Keyed κ α} {k : κ} (h : k ∈ t.keys) (v : α) :
    (t.insert k v).entries = replace k v t.entries := by
  simp [insert, h]

theorem entries_insert_of_not_mem {t : Keyed κ α} {k : κ} (h : k ∉ t.keys) (v : α) :
    (t.insert k v).entries = t.entries ++ [(k, v)] := by
  simp [insert, h]

/-- Writing to a key that is bound moves nothing. -/
theorem keys_insert_of_mem {t : Keyed κ α} {k : κ} (h : k ∈ t.keys) (v : α) :
    (t.insert k v).keys = t.keys := by
  rw [keys, entries_insert_of_mem h, map_fst_replace, keys]

/-- A new key goes to the end. -/
theorem keys_insert_of_not_mem {t : Keyed κ α} {k : κ} (h : k ∉ t.keys) (v : α) :
    (t.insert k v).keys = t.keys ++ [k] := by
  rw [keys, entries_insert_of_not_mem h, List.map_append]
  rfl

theorem get?_eq_none_iff {t : Keyed κ α} {k : κ} : t.get? k = none ↔ k ∉ t.keys := by
  simp only [get?, keys, Option.map_eq_none_iff, List.find?_eq_none, List.mem_map, decide_eq_true_eq,
    not_exists, not_and]

theorem find?_replace (k j : κ) (v : α) (entries : List (κ × α)) :
    ((replace k v entries).find? fun e => e.1 = j) =
      (entries.find? fun e => e.1 = j).map fun e => if e.1 = k then (k, v) else e := by
  induction entries with
  | nil => rfl
  | cons e rest ih =>
    have ih' : (rest.map fun e => if e.1 = k then (k, v) else e).find? (fun e => e.1 = j) =
        (rest.find? fun e => e.1 = j).map fun e => if e.1 = k then (k, v) else e := ih
    by_cases hk : e.1 = k
    · by_cases hj : k = j
      · simp [replace, hk, hj]
      · simp only [replace, List.map_cons, if_pos hk]
        rw [List.find?_cons_of_neg (by simpa using hj),
          List.find?_cons_of_neg (by simpa [hk] using hj)]
        exact ih'
    · by_cases hj : e.1 = j
      · simp only [replace, List.map_cons, if_neg hk]
        rw [List.find?_cons_of_pos (by simpa using hj), List.find?_cons_of_pos (by simpa using hj),
          Option.map_some, if_neg hk]
      · simp only [replace, List.map_cons, if_neg hk]
        rw [List.find?_cons_of_neg (by simpa using hj), List.find?_cons_of_neg (by simpa using hj)]
        exact ih'

/-- After an insertion the key holds the value written, and every other key what it held. -/
theorem get?_insert (t : Keyed κ α) (k j : κ) (v : α) :
    (t.insert k v).get? j = if j = k then some v else t.get? j := by
  by_cases h : k ∈ t.keys
  · rw [get?, entries_insert_of_mem h, find?_replace]
    by_cases hj : j = k
    · subst hj
      have hs : t.get? j ≠ none := fun hn => get?_eq_none_iff.1 hn h
      rw [get?, Ne, Option.map_eq_none_iff] at hs
      cases hf : t.entries.find? (fun e => e.1 = j) with
      | none => exact absurd hf hs
      | some e =>
        have he : e.1 = j := by simpa using List.find?_some hf
        simp [he]
    · rw [if_neg hj, get?]
      cases hf : t.entries.find? (fun e => e.1 = j) with
      | none => rfl
      | some e =>
        have he : e.1 = j := by simpa using List.find?_some hf
        have hk : ¬ e.1 = k := fun hk => hj (he ▸ hk)
        simp [hk]
  · rw [get?, entries_insert_of_not_mem h, List.find?_append]
    by_cases hj : j = k
    · subst hj
      have hn : t.entries.find? (fun e => e.1 = j) = none := by
        simpa [get?] using get?_eq_none_iff.2 h
      simp [hn]
    · rw [if_neg hj, get?]
      have hs : ([(k, v)] : List (κ × α)).find? (fun e => decide (e.1 = j)) = none := by
        rw [List.find?_cons_of_neg (by simpa using fun hk : k = j => hj hk.symm), List.find?_nil]
      rw [hs, Option.or_none]

/-- An update changes the value of its key only. -/
theorem get?_update (t : Keyed κ α) (k j : κ) (start : α) (f : α → α) :
    (t.update k start f).get? j =
      if j = k then some (f ((t.get? k).getD start)) else t.get? j := by
  rw [update, get?_insert]

end Keyed

end FrameChunks
