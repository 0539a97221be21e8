import FrameChunks.Proofs.Text.JsonQuoted
import FrameChunks.Text.Json

/-!
# Objects of texts in JSON

An object whose values are texts is written on one line, in printable characters of ASCII alone, and
is read back with its fields in their order.

## Main definitions

* `Json.ofTexts`: an object of texts
* `Json.readOn?`: how fields are read on behind one of them

## Main results

* `Json.isPlain_of_mem_ofTexts`: what its text is made of
* `Json.readFields?_field`: one field is read, and what follows it decides how to go on
* `Json.read?_ofTexts`: the object is read back
-/

namespace FrameChunks.Json

open Text
open Text.JsonQuoted (isPlain)

/-- An object whose values are texts. -/
def ofTexts (fields : List (String × String)) : Json := obj (fields.map fun f => (f.1, str f.2))

/-- The text of a field whose value is a text. -/
def textField (f : String × String) : String := jsonQuoted f.1 ++ ": " ++ jsonQuoted f.2

theorem fieldTexts_map_str (fields : List (String × String)) :
    fieldTexts (fields.map fun f => (f.1, str f.2)) = fields.map textField := by
  induction fields with
  | nil => rfl
  | cons f fields ih =>
    rw [List.map_cons, fieldTexts, ih, List.map_cons, textField, text]

theorem toList_text_ofTexts (fields : List (String × String)) : (ofTexts fields).text.toList =
    '\x7b' :: ((", ".intercalate (fields.map textField)).toList ++ ['\x7d']) := by
  rw [ofTexts, text, fieldTexts_map_str]
  simp

/-! ## Writing -/

theorem isPlain_of_mem_textField {f : String × String} {c : Char} (h : c ∈ (textField f).toList) :
    isPlain c = true := by
  simp only [textField, String.toList_append, List.mem_append] at h
  rcases h with (h | h) | h
  · exact isPlain_of_mem_jsonQuoted h
  · have hall : ": ".toList.all isPlain = true := rfl
    exact List.all_eq_true.mp hall c h
  · exact isPlain_of_mem_jsonQuoted h

theorem isPlain_of_mem_textFields {fields : List (String × String)} {c : Char}
    (h : c ∈ (", ".intercalate (fields.map textField)).toList) : isPlain c = true := by
  induction fields with
  | nil => simp at h
  | cons f fields ih =>
    cases fields with
    | nil =>
      simp only [List.map_cons, List.map_nil, String.intercalate_singleton] at h
      exact isPlain_of_mem_textField h
    | cons g fields =>
      simp only [List.map_cons, String.intercalate_cons_cons, String.toList_append,
        List.mem_append] at h ih
      rcases h with (h | h) | h
      · exact isPlain_of_mem_textField h
      · have hall : ", ".toList.all isPlain = true := rfl
        exact List.all_eq_true.mp hall c h
      · exact ih h

/-- An object of texts is written in printable characters of ASCII. -/
theorem isPlain_of_mem_ofTexts {fields : List (String × String)} {c : Char}
    (h : c ∈ (ofTexts fields).text.toList) : isPlain c = true := by
  rw [toList_text_ofTexts, List.mem_cons, List.mem_append, List.mem_singleton] at h
  rcases h with rfl | h | rfl
  · decide
  · exact isPlain_of_mem_textFields h
  · decide

/-! ## Reading -/

theorem readValue?_jsonQuoted (fuel : Nat) (s : String) (rest : List Char) :
    readValue? (fuel + 1) (' ' :: ((jsonQuoted s).toList ++ rest)) = some (str s, rest) := by
  obtain ⟨body, hbody, hread⟩ := readJsonQuoted?_jsonQuoted s rest
  have hskip : skip (' ' :: '"' :: body) = '"' :: body := rfl
  rw [hbody, readValue?.eq_def, hskip]
  simp only [hread, Option.map_some]

/-- How the fields are read on behind one of them. -/
def readOn? (fuel : Nat) (found : List (String × Json)) (s : List Char) :
    Option (Json × List Char) :=
  match skip s with
  | ',' :: rest => readFields? fuel found rest
  | '\x7d' :: rest => some (obj found.reverse, rest)
  | _ => none

/-- A field is read, and what follows it decides how to go on. -/
theorem readFields?_field (fuel : Nat) (found : List (String × Json)) (f : String × String)
    (rest : List Char) :
    readFields? (fuel + 2) found ((textField f).toList ++ rest) =
      readOn? (fuel + 1) ((f.1, str f.2) :: found) rest := by
  obtain ⟨body, hbody, hread⟩ :=
    readJsonQuoted?_jsonQuoted f.1 (':' :: ' ' :: ((jsonQuoted f.2).toList ++ rest))
  have hfield : (textField f).toList ++ rest = '"' :: body := by
    rw [← hbody, textField]
    simp
  have hskip : skip ('"' :: body) = '"' :: body := rfl
  have hcolon : ∀ s, skip (':' :: s) = ':' :: s := fun _ => rfl
  rw [hfield, readFields?.eq_def, hskip]
  simp only [hread, hcolon, readValue?_jsonQuoted]
  rfl

theorem readFields?_blank (fuel : Nat) (found : List (String × Json)) (s : List Char) :
    readFields? fuel found (' ' :: s) = readFields? fuel found s := by
  have hskip : skip (' ' :: s) = skip s := rfl
  rw [readFields?.eq_def, hskip, ← readFields?.eq_def]

/-- Fields with commas between them are read up to the end of the object. -/
theorem readFields?_textFields {fields : List (String × String)} (hne : fields ≠ []) {fuel : Nat}
    (hfuel : fields.length < fuel) (found : List (String × Json)) (rest : List Char) :
    readFields? fuel found ((", ".intercalate (fields.map textField)).toList ++ '\x7d' :: rest) =
      some (obj (found.reverse ++ fields.map fun f => (f.1, str f.2)), rest) := by
  induction fields generalizing fuel found with
  | nil => exact absurd rfl hne
  | cons f fields ih =>
    obtain ⟨fuel, rfl⟩ : ∃ k, fuel = k + 2 := ⟨fuel - 2, by simp at hfuel; omega⟩
    cases fields with
    | nil =>
      simp only [List.map_cons, List.map_nil, String.intercalate_singleton]
      rw [readFields?_field]
      simp [readOn?, skip, isGap]
    | cons g fields =>
      have hlt : (g :: fields).length < fuel + 1 := Nat.lt_of_succ_lt_succ hfuel
      have hcomma : ∀ s, skip (',' :: s) = ',' :: s := fun _ => rfl
      have htail := ih (List.cons_ne_nil g fields) hlt ((f.1, str f.2) :: found)
      simp only [List.map_cons, String.intercalate_cons_cons, String.toList_append,
        List.append_assoc] at htail ⊢
      rw [readFields?_field, readOn?, show ", ".toList = [',', ' '] from rfl, List.cons_append, hcomma]
      simp only [List.singleton_append, readFields?_blank]
      rw [htail]
      simp

theorem exists_textField (f : String × String) : ∃ s, (textField f).toList = '"' :: s := by
  simp [textField, jsonQuoted]

/-- Every field has a text of its own, the first of which begins with a quote. -/
theorem exists_textFields (f : String × String) (fields : List (String × String)) :
    ∃ s, (", ".intercalate ((f :: fields).map textField)).toList = '"' :: s ∧
      fields.length ≤ s.length := by
  induction fields generalizing f with
  | nil =>
    obtain ⟨s, hs⟩ := exists_textField f
    exact ⟨s, by simpa using hs, Nat.zero_le _⟩
  | cons g fields ih =>
    obtain ⟨s, hs⟩ := exists_textField f
    obtain ⟨t, ht, hlength⟩ := ih g
    refine ⟨s ++ (", ".toList ++ '"' :: t), ?_, ?_⟩
    · simp only [List.map_cons] at ht ⊢
      simp [String.intercalate_cons_cons, hs, ht]
    · simp only [List.length_append, List.length_cons]
      omega

theorem readValue?_ofTexts {fields : List (String × String)} {fuel : Nat}
    (hfuel : fields.length < fuel) :
    readValue? (fuel + 1) (ofTexts fields).text.toList = some (ofTexts fields, []) := by
  have hopen : ∀ s, skip ('\x7b' :: s) = '\x7b' :: s := fun _ => rfl
  rw [toList_text_ofTexts, readValue?.eq_def, hopen]
  cases fields with
  | nil => rfl
  | cons f fields =>
    have hread := readFields?_textFields (List.cons_ne_nil f fields) hfuel [] []
    obtain ⟨s, hs, -⟩ := exists_textFields f fields
    have hskip : skip ('"' :: (s ++ ['\x7d'])) = '"' :: (s ++ ['\x7d']) := rfl
    rw [hs] at hread ⊢
    simp only [List.cons_append, hskip] at hread ⊢
    exact hread

/-- An object of texts is read back with its fields in their order. -/
theorem read?_ofTexts (fields : List (String × String)) :
    read? (ofTexts fields).text = some (ofTexts fields) := by
  have hfuel : fields.length < 2 * (ofTexts fields).text.toList.length := by
    rw [toList_text_ofTexts]
    cases fields with
    | nil => simp
    | cons f fields =>
      obtain ⟨s, hs, hlength⟩ := exists_textFields f fields
      rw [hs]
      simp only [List.length_cons, List.length_append]
      omega
  rw [read?]
  simp only [readValue?_ofTexts hfuel]
  rfl

end FrameChunks.Json
