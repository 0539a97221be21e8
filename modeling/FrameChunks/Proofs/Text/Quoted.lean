import FrameChunks.Proofs.Text.Hex
import FrameChunks.Text.Quoted

/-!
# Quoted texts can be read back

No two texts are quoted alike: the escapes can be undone one after the other, and the quotes in
front and at the end are those that the text was put between.

## Main definitions

* `Quoted.unescape`: the character at the front of an escaped text, and what stands behind it

## Main results

* `Quoted.unescape_escape`: an escape can be undone, whatever stands behind it
* `quoted_injective`: different texts are quoted differently
-/

namespace FrameChunks.Text

namespace Quoted

/-- The character at the front of an escaped text, and the rest. A backslash that no letter follows
stands for the character behind it. -/
def unescape : List Char → Option (Char × List Char)
  | '\\' :: 'n' :: rest => some ('\n', rest)
  | '\\' :: 'r' :: rest => some ('\r', rest)
  | '\\' :: 't' :: rest => some ('\t', rest)
  | '\\' :: 'x' :: rest => some (Char.ofNat (Hex.value (rest.take 2)), rest.drop 2)
  | '\\' :: 'u' :: rest => some (Char.ofNat (Hex.value (rest.take 4)), rest.drop 4)
  | '\\' :: 'U' :: rest => some (Char.ofNat (Hex.value (rest.take 8)), rest.drop 8)
  | '\\' :: c :: rest => some (c, rest)
  | c :: rest => some (c, rest)
  | [] => none

theorem unescape_cons {c : Char} (h : c ≠ '\\') (rest : List Char) :
    unescape (c :: rest) = some (c, rest) := by
  unfold unescape
  split <;> simp_all

theorem take_drop_padded (width n : Nat) (hw : 0 < width) (h : n < 16 ^ width) (rest : List Char) :
    (Hex.padded width n ++ rest).take width = Hex.padded width n ∧
      (Hex.padded width n ++ rest).drop width = rest := by
  have hl := Hex.length_padded hw h
  exact ⟨List.take_left' hl, List.drop_left' hl⟩

theorem unescape_codePoint (c : Char) (rest : List Char) :
    unescape (codePoint c ++ rest) = some (c, rest) := by
  have hc := Char.ofNat_toNat c
  have hv : c.toNat < 0xD800 ∨ 0xDFFF < c.toNat ∧ c.toNat < 0x110000 := c.valid
  unfold codePoint
  split
  · obtain ⟨ht, hd⟩ := take_drop_padded 2 c.toNat (by decide) (by omega) rest
    simp only [List.cons_append, unescape, ht, hd, Hex.value_padded, hc]
  split
  · obtain ⟨ht, hd⟩ := take_drop_padded 4 c.toNat (by decide) (by omega) rest
    simp only [List.cons_append, unescape, ht, hd, Hex.value_padded, hc]
  · obtain ⟨ht, hd⟩ := take_drop_padded 8 c.toNat (by decide) (by omega) rest
    simp only [List.cons_append, unescape, ht, hd, Hex.value_padded, hc]

/-- An escape can be undone, whatever stands behind it. -/
theorem unescape_escape {q : Char} (hq : q = '\'' ∨ q = '"') (c : Char) (rest : List Char) :
    unescape (escape q c ++ rest) = some (c, rest) := by
  unfold escape
  split
  · next h =>
    rcases h with rfl | rfl
    · rcases hq with rfl | rfl <;> rfl
    · rfl
  · next h =>
    have hb : c ≠ '\\' := fun hc => h (.inr hc)
    split
    · next h => rw [h]; rfl
    split
    · next h => rw [h]; rfl
    split
    · next h => rw [h]; rfl
    split
    · exact unescape_cons hb rest
    · exact unescape_codePoint c rest

theorem escape_append_inj {q c d : Char} (hq : q = '\'' ∨ q = '"') {x y : List Char}
    (h : escape q c ++ x = escape q d ++ y) : c = d ∧ x = y := by
  have he := unescape_escape hq c x
  rw [h, unescape_escape hq d y] at he
  obtain ⟨rfl, rfl⟩ := Prod.mk.inj (Option.some.inj he)
  exact ⟨rfl, rfl⟩

theorem escape_ne_nil {q : Char} (hq : q = '\'' ∨ q = '"') (c : Char) : escape q c ≠ [] := by
  intro h
  have he := unescape_escape hq c []
  rw [h] at he
  nomatch he

theorem body_injective {q : Char} (hq : q = '\'' ∨ q = '"') {s t : List Char}
    (h : body q s = body q t) : s = t := by
  induction s generalizing t with
  | nil =>
    rcases t with _ | ⟨d, t⟩
    · rfl
    · rw [body, body, List.flatMap_cons] at h
      exact absurd (List.append_eq_nil_iff.mp h.symm).1 (escape_ne_nil hq d)
  | cons c s ih =>
    rcases t with _ | ⟨d, t⟩
    · rw [body, body, List.flatMap_cons] at h
      exact absurd (List.append_eq_nil_iff.mp h).1 (escape_ne_nil hq c)
    · rw [body, body, List.flatMap_cons, List.flatMap_cons] at h
      obtain ⟨rfl, hr⟩ := escape_append_inj hq h
      rw [ih hr]

theorem mark_eq (s : List Char) : mark s = '\'' ∨ mark s = '"' := by
  unfold mark
  split
  · exact .inr rfl
  · exact .inl rfl

end Quoted

/-- Different texts are quoted differently. -/
theorem quoted_injective {s t : String} (h : quoted s = quoted t) : s = t := by
  obtain ⟨hm, hb⟩ := List.cons.inj (String.ofList_inj.mp h)
  rw [hm] at hb
  have hl := Quoted.body_injective (Quoted.mark_eq t.toList) (List.append_cancel_right hb)
  exact String.toList_inj.mp hl

end FrameChunks.Text
