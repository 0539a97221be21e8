import FrameChunks.Proofs.Text.Hex
import FrameChunks.Proofs.Text.Utf8
import FrameChunks.Text.JsonQuoted

/-!
# Texts in JSON, written and read

A text is written in printable characters of ASCII alone, and is read back. A character is read back
as its UTF-16 units, whichever escape it was written with; the units of a text then give its
characters, because the units of a pair are no characters of their own.

## Main results

* `isPlain_of_mem_jsonQuoted`: what a quoted text is made of
* `readUnits?_escape`: a character is read back as its units
* `ofUnits?_units`: the units of a character give the character
* `readJsonQuoted?_jsonQuoted`: a text is read back
-/

namespace FrameChunks.Text

namespace JsonQuoted

/-! ## Writing -/

theorem isPlain_of_mem_alphabet {c : Char} (h : c ∈ Hex.alphabet) : isPlain c = true := by
  have hall : Hex.alphabet.all isPlain = true := rfl
  exact List.all_eq_true.mp hall c h

theorem isPlain_of_mem_escapeUnit {n : Nat} {c : Char} (h : c ∈ escapeUnit n) :
    isPlain c = true := by
  simp only [escapeUnit, List.mem_cons] at h
  rcases h with rfl | rfl | h
  · decide
  · decide
  · exact isPlain_of_mem_alphabet (Hex.mem_alphabet_of_mem_padded h)

theorem isPlain_of_letter? {c l : Char} (h : letter? c = some l) : isPlain l = true := by
  unfold letter? at h
  split at h <;> cases h <;> decide

theorem isPlain_of_mem_escape {c d : Char} (h : d ∈ escape c) : isPlain d = true := by
  unfold escape at h
  split at h
  · next l hl =>
    simp only [List.mem_cons, List.not_mem_nil, or_false] at h
    rcases h with rfl | rfl
    · decide
    · exact isPlain_of_letter? hl
  · split at h
    · next hc => rwa [List.mem_singleton.mp h]
    · obtain ⟨n, -, hn⟩ := List.mem_flatMap.mp h
      exact isPlain_of_mem_escapeUnit hn

/-! ## Reading the units -/

theorem hexDigit?_of_mem_alphabet {c : Char} (h : c ∈ Hex.alphabet) :
    hexDigit? c = some (Hex.digitValue c) := by
  have hall : Hex.alphabet.all (fun c => hexDigit? c = some (Hex.digitValue c)) = true := rfl
  exact of_decide_eq_true (List.all_eq_true.mp hall c h)

/-- The four digits of a unit. -/
theorem exists_padded_eq {n : Nat} (h : n < 0x10000) : ∃ a b c d, Hex.padded 4 n = [a, b, c, d] ∧
    (∀ e ∈ [a, b, c, d], e ∈ Hex.alphabet) ∧
    ((Hex.digitValue a * 16 + Hex.digitValue b) * 16 + Hex.digitValue c) * 16 +
      Hex.digitValue d = n := by
  have hlength : (Hex.padded 4 n).length = 4 := Hex.length_padded (by decide) h
  have hvalue := Hex.value_padded 4 n
  have hmem : ∀ e ∈ Hex.padded 4 n, e ∈ Hex.alphabet := fun _ => Hex.mem_alphabet_of_mem_padded
  match hs : Hex.padded 4 n, hlength with
  | [a, b, c, d], _ =>
    rw [hs] at hvalue hmem
    refine ⟨a, b, c, d, rfl, hmem, ?_⟩
    simp only [Hex.value, List.foldl_cons, List.foldl_nil] at hvalue
    omega

theorem readUnits?_escapeUnit {n : Nat} (h : n < 0x10000) (found : List Nat) (rest : List Char) :
    readUnits? found (escapeUnit n ++ rest) = readUnits? (n :: found) rest := by
  obtain ⟨a, b, c, d, hs, hmem, rfl⟩ := exists_padded_eq h
  simp only [List.forall_mem_cons] at hmem
  obtain ⟨ha, hb, hc, hd, -⟩ := hmem
  rw [escapeUnit, hs]
  simp only [List.cons_append, List.nil_append]
  rw [readUnits?, hexDigit?_of_mem_alphabet ha, hexDigit?_of_mem_alphabet hb,
    hexDigit?_of_mem_alphabet hc, hexDigit?_of_mem_alphabet hd]

theorem lt_of_mem_units {c : Char} {n : Nat} (h : n ∈ units c) : n < 0x10000 := by
  have hvalid := Utf8.valid_toNat c
  unfold units at h
  split at h
  · next hc => rwa [List.mem_singleton.mp h]
  · simp only [List.mem_cons, List.not_mem_nil, or_false] at h
    omega

theorem readUnits?_escapeUnits {us : List Nat} (h : ∀ n ∈ us, n < 0x10000) (found : List Nat)
    (rest : List Char) :
    readUnits? found (us.flatMap escapeUnit ++ rest) = readUnits? (us.reverse ++ found) rest := by
  induction us generalizing found with
  | nil => rfl
  | cons n us ih =>
    obtain ⟨hn, hus⟩ := List.forall_mem_cons.mp h
    rw [List.flatMap_cons, List.append_assoc, readUnits?_escapeUnit hn, ih hus, List.reverse_cons,
      List.append_assoc, List.singleton_append]

theorem readUnits?_letter {c l : Char} (h : letter? c = some l) (found : List Nat)
    (rest : List Char) :
    readUnits? found ('\\' :: l :: rest) = readUnits? ((units c).reverse ++ found) rest := by
  unfold letter? at h
  split at h <;> cases h <;> rfl

/-- A plain character that has no short escape stands for itself. -/
theorem readUnits?_plain {c : Char} (hplain : isPlain c = true) (hletter : letter? c = none)
    (found : List Nat) (rest : List Char) :
    readUnits? found (c :: rest) = readUnits? ((units c).reverse ++ found) rest := by
  have hquote : c ≠ '"' := by
    rintro rfl
    cases hletter
  have hslash : c ≠ '\\' := by
    rintro rfl
    cases hletter
  simp only [isPlain, Bool.and_eq_true, decide_eq_true_eq] at hplain
  have hlow : ¬ (c < ' ' ∨ c = '\\') := by
    rw [not_or, Char.not_lt]
    exact ⟨hplain.1, hslash⟩
  rw [readUnits?.eq_def]
  split
  · next heq => cases heq
  · next heq => exact absurd (List.cons.inj heq).1 hquote
  · next heq => exact absurd (List.cons.inj heq).1 hslash
  · next heq => exact absurd (List.cons.inj heq).1 hslash
  · next heq =>
    obtain ⟨rfl, rfl⟩ := List.cons.inj heq
    exact if_neg hlow

/-- A character is read back as its units, whichever way it was written. -/
theorem readUnits?_escape (c : Char) (found : List Nat) (rest : List Char) :
    readUnits? found (escape c ++ rest) = readUnits? ((units c).reverse ++ found) rest := by
  unfold escape
  split
  · next l hl => exact readUnits?_letter hl found rest
  · next hletter =>
    split
    · next hplain => exact readUnits?_plain hplain hletter found rest
    · exact readUnits?_escapeUnits (fun _ => lt_of_mem_units) found rest

theorem readUnits?_quoted (s : List Char) (found : List Nat) (rest : List Char) :
    readUnits? found (s.flatMap escape ++ '"' :: rest) =
      some (found.reverse ++ s.flatMap units, rest) := by
  induction s generalizing found with
  | nil => simp [readUnits?]
  | cons c s ih =>
    rw [List.flatMap_cons, List.append_assoc, readUnits?_escape, ih]
    simp

/-! ## The characters of the units -/

/-- The units of a character give the character: one unit that is no half of a pair, or a pair. -/
theorem ofUnits?_units (c : Char) (found : List Char) (rest : List Nat) :
    ofUnits? found (units c ++ rest) = ofUnits? (c :: found) rest := by
  have hvalid := Utf8.valid_toNat c
  unfold units
  split
  · next hc =>
    have hwhole : c.toNat < 0xD800 ∨ 0xE000 ≤ c.toNat := by omega
    rw [List.singleton_append, ofUnits?.eq_def]
    simp only [if_pos hwhole, Char.ofNat_toNat]
  · next hc =>
    generalize hk : c.toNat - 0x10000 = k
    have hhigh : ¬ (0xD800 + k / 0x400 < 0xD800 ∨ 0xE000 ≤ 0xD800 + k / 0x400) := by omega
    have hlow : 0xD800 + k / 0x400 < 0xDC00 ∧ 0xDC00 ≤ 0xDC00 + k % 0x400 ∧
        0xDC00 + k % 0x400 < 0xE000 := by omega
    have hsum : 0x10000 + (0xD800 + k / 0x400 - 0xD800) * 0x400 +
        (0xDC00 + k % 0x400 - 0xDC00) = c.toNat := by omega
    rw [List.cons_append, List.singleton_append, ofUnits?.eq_def]
    simp only [if_neg hhigh, if_pos hlow, hsum, Char.ofNat_toNat]

theorem ofUnits?_flatMap_units (s found : List Char) :
    ofUnits? found (s.flatMap units) = some (found.reverse ++ s) := by
  induction s generalizing found with
  | nil => simp [ofUnits?]
  | cons c s ih =>
    rw [List.flatMap_cons, ofUnits?_units, ih]
    simp

end JsonQuoted

open JsonQuoted

/-- A quoted text is made of printable characters of ASCII. -/
theorem isPlain_of_mem_jsonQuoted {s : String} {c : Char} (h : c ∈ (jsonQuoted s).toList) :
    isPlain c = true := by
  simp only [jsonQuoted, String.toList_ofList, List.mem_cons, List.mem_append, List.mem_flatMap,
    List.not_mem_nil, or_false] at h
  rcases h with rfl | ⟨d, -, hd⟩ | rfl
  · decide
  · exact isPlain_of_mem_escape hd
  · decide

/-- A quoted text is read back behind its first quote, whatever follows it. -/
theorem readJsonQuoted?_jsonQuoted (s : String) (rest : List Char) :
    ∃ body, (jsonQuoted s).toList ++ rest = '"' :: body ∧ readJsonQuoted? body = some (s, rest) := by
  refine ⟨s.toList.flatMap escape ++ '"' :: rest, by simp [jsonQuoted], ?_⟩
  have hunits := readUnits?_quoted s.toList [] rest
  have htext := ofUnits?_flatMap_units s.toList []
  simp only [List.reverse_nil, List.nil_append] at hunits htext
  simp [readJsonQuoted?, hunits, htext]

end FrameChunks.Text
