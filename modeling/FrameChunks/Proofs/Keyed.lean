import FrameChunks.Keyed
import Mathlib.Data.List.Nodup

/-!
# Tables made of lists

When the pairs of a list are written one after the other, the last pair of every key stays.

## Main definitions

* `lastBy`: the members of a list whose key no later member has

## Main results

* `Keyed.get?_ofList`: what a look-up finds in a table that was made of a list
* `Keyed.mem_entries_ofList`: the pairs of such a table
* `Keyed.keys_update`, `Keyed.entries_update_id`: the keys and the pairs after an update
* `lastBy_map`, `lastBy_append`, `lastBy_eq_self`, `lastBy_comp`: how the last members are found
-/

namespace FrameChunks

section LastBy

variable {α β κ ν : Type} [DecidableEq κ]

/-- The members of a list whose key no later member has. -/
def lastBy (key : α → κ) : List α → List α
  | [] => []
  | a :: rest => if key a ∈ rest.map key then lastBy key rest else a :: lastBy key rest

variable {key : α → κ} {l : List α}

theorem lastBy_subset (key : α → κ) (l : List α) : lastBy key l ⊆ l := by
  induction l with
  | nil => exact List.Subset.refl _
  | cons a rest ih =>
    rw [lastBy]
    split
    · exact List.Subset.trans ih (List.subset_cons_self a rest)
    · exact List.cons_subset_cons a ih

theorem lastBy_ne_nil (h : l ≠ []) : lastBy key l ≠ [] := by
  induction l with
  | nil => exact absurd rfl h
  | cons a rest ih =>
    rw [lastBy]
    split
    · next hm =>
      refine ih ?_
      rintro rfl
      exact List.not_mem_nil hm
    · exact List.cons_ne_nil _ _

theorem lastBy_map (f : β → α) (l : List β) :
    lastBy key (l.map f) = (lastBy (key ∘ f) l).map f := by
  induction l with
  | nil => rfl
  | cons b rest ih =>
    have hm : key (f b) ∈ (rest.map f).map key ↔ (key ∘ f) b ∈ rest.map (key ∘ f) := by
      rw [List.map_map]
      rfl
    simp only [List.map_cons, lastBy, hm, ih]
    split <;> rfl

/-- Keys that are told apart in one way may be told apart in another. -/
theorem lastBy_comp [DecidableEq ν] {f : κ → ν} (hf : ∀ k k', f k = f k' → k = k') (l : List α) :
    lastBy (f ∘ key) l = lastBy key l := by
  have hm (a : α) (rest : List α) : f (key a) ∈ rest.map (f ∘ key) ↔ key a ∈ rest.map key := by
    simp only [List.mem_map, Function.comp_apply]
    exact ⟨fun ⟨b, hb, h⟩ => ⟨b, hb, hf _ _ h⟩, fun ⟨b, hb, h⟩ => ⟨b, hb, by rw [h]⟩⟩
  induction l with
  | nil => rfl
  | cons a rest ih => simp only [lastBy, Function.comp_apply, hm, ih]

/-- Lists without a common key do not hide each other's members. -/
theorem lastBy_append {l l' : List α} (h : ∀ a ∈ l, ∀ b ∈ l', key a ≠ key b) :
    lastBy key (l ++ l') = lastBy key l ++ lastBy key l' := by
  induction l with
  | nil => rfl
  | cons a rest ih =>
    have hn : key a ∉ l'.map key := by
      rw [List.mem_map]
      rintro ⟨b, hb, he⟩
      exact h a List.mem_cons_self b hb he.symm
    simp only [List.cons_append, lastBy, List.map_append, List.mem_append, or_iff_left hn,
      ih fun a' ha' => h a' (List.mem_cons_of_mem a ha')]
    split <;> rfl

/-- Nothing is hidden if the keys are distinct. -/
theorem lastBy_eq_self (h : (l.map key).Nodup) : lastBy key l = l := by
  induction l with
  | nil => rfl
  | cons a rest ih =>
    obtain ⟨ha, hr⟩ := List.nodup_cons.mp h
    rw [lastBy, if_neg ha, ih hr]

theorem find?_reverse_eq_none_iff {k : κ} :
    l.reverse.find? (fun b => key b = k) = none ↔ k ∉ l.map key := by
  simp only [List.find?_eq_none, List.mem_reverse, decide_eq_true_eq, List.mem_map, not_exists,
    not_and]

/-- The last members are those that are found first from behind. -/
theorem mem_lastBy_iff {a : α} :
    a ∈ lastBy key l ↔ l.reverse.find? (fun b => key b = key a) = some a := by
  induction l with
  | nil => exact ⟨nofun, nofun⟩
  | cons b rest ih =>
    rw [List.reverse_cons, List.find?_append, lastBy]
    by_cases hk : key b = key a
    · have hb : [b].find? (fun b => key b = key a) = some b :=
        List.find?_cons_of_pos (by simpa using hk)
      rw [hb, hk]
      split
      · next hm =>
        -- A later member has the key, and it is found before `b`.
        obtain ⟨c, hc⟩ := Option.ne_none_iff_exists'.mp
          (mt find?_reverse_eq_none_iff.mp (not_not.mpr hm))
        rw [ih, hc]
        rfl
      · next hm =>
        have hn := find?_reverse_eq_none_iff.mpr hm
        rw [List.mem_cons, ih, hn, Option.none_or, Option.some.injEq, or_iff_left (by nofun),
          eq_comm]
    · -- A member of another key neither is the one that is found nor hides it.
      have hb : [b].find? (fun b => key b = key a) = none := by
        rw [List.find?_cons_of_neg (by simpa using hk), List.find?_nil]
      rw [hb, Option.or_none]
      split
      · exact ih
      · rw [List.mem_cons, ih, or_iff_right]
        rintro rfl
        exact hk rfl

end LastBy

namespace Keyed

variable {κ α : Type} [DecidableEq κ]

/-- A look-up finds the pairs of the table. -/
theorem get?_eq_some_iff {t : Keyed κ α} {k : κ} {v : α} :
    t.get? k = some v ↔ (k, v) ∈ t.entries := by
  rw [get?, Option.map_eq_some_iff]
  constructor
  · rintro ⟨e, he, rfl⟩
    obtain rfl : e.1 = k := by simpa using List.find?_some he
    exact List.mem_of_find?_eq_some he
  · intro h
    obtain ⟨e, he⟩ : ∃ e, t.entries.find? (fun e => e.1 = k) = some e := by
      rw [← Option.isSome_iff_exists, List.find?_isSome]
      exact ⟨_, h, by simp⟩
    have hk : e.1 = k := by simpa using List.find?_some he
    -- No two pairs of a table have one key.
    rw [List.inj_on_of_nodup_map t.nodup (List.mem_of_find?_eq_some he) h hk] at he
    exact ⟨_, he, rfl⟩

theorem contains_iff_exists {t : Keyed κ α} {k : κ} : t.contains k ↔ ∃ v, t.get? k = some v := by
  rw [← Option.ne_none_iff_exists', Ne, get?_eq_none_iff, not_not]
  exact decide_eq_true_iff

theorem mem_values_iff {t : Keyed κ α} {v : α} : v ∈ t.values ↔ ∃ k, t.get? k = some v := by
  simp only [values, List.mem_map, get?_eq_some_iff]
  constructor
  · rintro ⟨e, he, rfl⟩
    exact ⟨e.1, he⟩
  · rintro ⟨k, hk⟩
    exact ⟨_, hk, rfl⟩

/-- The pairs of a table are its keys, each with what a look-up finds. -/
theorem entries_eq_map (t : Keyed κ α) (start : α) :
    t.entries = t.keys.map fun k => (k, (t.get? k).getD start) := by
  have hpair : ∀ e ∈ t.entries, e = (e.1, (t.get? e.1).getD start) := by
    intro e he
    rw [get?_eq_some_iff.mpr he]
    rfl
  rw [keys, List.map_map]
  exact (List.map_id _).symm.trans (List.map_congr_left hpair)

/-- An update of a new key puts it at the end. -/
theorem keys_update (t : Keyed κ α) (k : κ) (start : α) (f : α → α) :
    (t.update k start f).keys = if k ∈ t.keys then t.keys else t.keys ++ [k] := by
  split
  · next h => exact keys_insert_of_mem h _
  · next h => exact keys_insert_of_not_mem h _

/-- An update that changes nothing leaves the table as it is, but for a key that is new. -/
theorem entries_update_id (t : Keyed κ α) (k : κ) (start : α) :
    (t.update k start id).entries =
      if k ∈ t.keys then t.entries else t.entries ++ [(k, start)] := by
  split
  · next h =>
    rw [entries_eq_map _ start, keys_update, if_pos h, entries_eq_map t start]
    apply List.map_congr_left
    intro j _
    rw [get?_update]
    split
    · next hj => rw [hj]; rfl
    · rfl
  · next h =>
    rw [update, entries_insert_of_not_mem h, get?_eq_none_iff.mpr h]
    rfl

theorem entries_foldl_insert {pairs : List (κ × α)} {t : Keyed κ α}
    (h : (t.keys ++ pairs.map Prod.fst).Nodup) :
    (pairs.foldl (fun t e => t.insert e.1 e.2) t).entries = t.entries ++ pairs := by
  induction pairs generalizing t with
  | nil => exact (List.append_nil _).symm
  | cons e rest ih =>
    have hn : e.1 ∉ t.keys := by
      intro hm
      exact (List.nodup_append.mp h).2.2 e.1 hm e.1 List.mem_cons_self rfl
    rw [List.foldl_cons, ih, entries_insert_of_not_mem hn, List.append_assoc]
    · rfl
    · rw [keys_insert_of_not_mem hn, List.append_assoc]
      exact h

/-- A list of different keys is a table as it stands. -/
theorem entries_ofList {pairs : List (κ × α)} (h : (pairs.map Prod.fst).Nodup) :
    (ofList pairs).entries = pairs :=
  entries_foldl_insert (t := .empty) h

/-- What a look-up finds in a table over which a list was written. -/
theorem get?_foldl_insert (pairs : List (κ × α)) (t : Keyed κ α) (k : κ) :
    (pairs.foldl (fun t e => t.insert e.1 e.2) t).get? k =
      ((pairs.reverse.find? fun e => e.1 = k).map Prod.snd).or (t.get? k) := by
  induction pairs generalizing t with
  | nil => rfl
  | cons e rest ih =>
    rw [List.foldl_cons, ih, get?_insert, List.reverse_cons, List.find?_append]
    by_cases hk : e.1 = k
    · rw [if_pos hk.symm, List.find?_cons_of_pos (by simpa using hk)]
      rcases List.find? _ rest.reverse with _ | e' <;> rfl
    · rw [if_neg fun h => hk h.symm, List.find?_cons_of_neg (by simpa using hk), List.find?_nil,
        Option.or_none]

/-- The last pair of a key counts. -/
theorem get?_ofList (pairs : List (κ × α)) (k : κ) :
    (ofList pairs).get? k = (pairs.reverse.find? fun e => e.1 = k).map Prod.snd := by
  rw [ofList, get?_foldl_insert]
  exact Option.or_none

/-- The pairs that stay when a list is written. -/
theorem mem_entries_ofList {pairs : List (κ × α)} {e : κ × α} :
    e ∈ (ofList pairs).entries ↔ e ∈ lastBy Prod.fst pairs := by
  rw [mem_lastBy_iff, ← get?_eq_some_iff, get?_ofList, Option.map_eq_some_iff]
  constructor
  · rintro ⟨e', he, hv⟩
    have hk : e'.1 = e.1 := by simpa using List.find?_some he
    rw [he, Prod.ext hk hv]
  · intro he
    exact ⟨e, he, rfl⟩

end Keyed

end FrameChunks
