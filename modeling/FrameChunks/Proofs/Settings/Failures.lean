import FrameChunks.Proofs.Settings.Source

/-!
# How loading fails

Loading is meant to end in settings or in a report of what is wrong with them. Four failures escape
the report, although the file is readable: a variable has no section to go to, an empty text names
the file, a name is too long to be looked for, and a value of the file is well written and impossible.

## Main definitions

* `Surroundings.Readable`: what is to be read is a file and well written
* `IsOrderly`: settings, or a report of what is wrong with them

## Main results

* `answer_load_of_admits`, `answer_load_of_not_admits`: loading behind the reading
* `document_eq_error_iff`: the ways in which reading fails
* `isOrderly_answer_load_iff`: when loading ends in settings or in the report
* `load_failures_exact`: when loading fails in which way
-/

namespace FrameChunks.Settings

open Document Steps

/-- What is to be read, if it is there, is a file and well written. The empty text names nothing. -/
def Surroundings.Readable (w : Surroundings) (path : Option String) : Prop :=
  ∀ entry, w.source (path <|> w.set? "CONFIG") = .ok (some entry) →
    ∃ content, entry = .file content ∧ content.read ≠ .error .malformed

variable {w : Surroundings} {path : Option String} {n : Node} {e : LoadError}

/-! ## Behind the reading -/

theorem answer_load_of_error (h : w.document path = .error e) (s : Session) :
    answer (load w path s) = .error e := by
  rw [load_answers w path s, h]
  rfl

theorem answer_load_of_admits (h : w.document path = .ok n) (ha : w.Admits n) (s : Session) :
    ∃ m, override w n = .ok m ∧
      answer (load w path s) = (ofDocument m).mapError .invalid := by
  obtain ⟨m, hm⟩ := override_of_admits ha
  exact ⟨m, hm, answer_load_of_override w h hm s⟩

theorem answer_load_of_not_admits (h : w.document path = .ok n) (ha : ¬ w.Admits n) (s : Session) :
    answer (load w path s) = .error .noMapping := by
  rw [load_answers w path s, h]
  show (override w n >>= _) = _
  rw [override_of_not_admits ha]
  rfl

/-- Settings, or a report of what is wrong with them. -/
def IsOrderly (answer : Except LoadError Settings) : Prop :=
  (∃ settings, answer = .ok settings) ∨ ∃ issues, answer = .error (.invalid issues)

theorem isOrderly_mapError (x : Checked Settings) : IsOrderly (x.mapError .invalid) := by
  cases x with
  | ok settings => exact .inl ⟨settings, rfl⟩
  | error issues => exact .inr ⟨issues, rfl⟩

/-! ## Reading -/

/-- Reading fails because of the name, of what is there, or of what the file says. -/
theorem document_eq_error_iff : w.document path = .error e ↔
    (∃ p, w.source (path <|> w.value? "CONFIG") = .error p ∧ e = .path p) ∨
    (w.source (path <|> w.value? "CONFIG") = .ok (some .folder) ∧ e = .folder) ∨
    ∃ content f, w.source (path <|> w.value? "CONFIG") = .ok (some (.file content)) ∧
      content.read = .error f ∧ e = .unreadable f := by
  constructor
  · intro h
    rw [Surroundings.document] at h
    rcases hs : w.source (path <|> w.value? "CONFIG") with p | _ | _ | content
    · rw [hs] at h
      exact .inl ⟨p, rfl, (Except.error.inj h).symm⟩
    · rw [hs] at h
      cases h
    · rw [hs] at h
      exact .inr (.inl ⟨rfl, (Except.error.inj h).symm⟩)
    · rw [hs] at h
      replace h : documentOf (.file content) = .error e := h
      simp only [documentOf] at h
      rcases hr : content.read with f | n
      · rw [hr] at h
        exact .inr (.inr ⟨content, f, rfl, hr, (Except.error.inj h).symm⟩)
      · rw [hr] at h
        cases h
  · rintro (⟨p, hs, rfl⟩ | ⟨hs, rfl⟩ | ⟨content, f, hs, hr, rfl⟩)
    · rw [Surroundings.document, hs]
      rfl
    · rw [Surroundings.document, hs]
      rfl
    · rw [Surroundings.document, hs]
      show documentOf (.file content) = _
      simp only [documentOf, hr]

/-- A failure of reading is the failure of loading. -/
theorem answer_load_eq_error_iff (hmapping : e ≠ .noMapping) (hinvalid : ∀ issues, e ≠ .invalid issues)
    (s : Session) : answer (load w path s) = .error e ↔ w.document path = .error e := by
  constructor
  · intro h
    rcases hd : w.document path with e' | n
    · exact congrArg _ (Except.error.inj ((answer_load_of_error hd s).symm.trans h))
    · by_cases ha : w.Admits n
      · obtain ⟨m, -, hm⟩ := answer_load_of_admits hd ha s
        rcases isOrderly_mapError (ofDocument m) with ⟨settings, ho⟩ | ⟨issues, ho⟩
        · cases (hm.trans ho).symm.trans h
        · exact absurd (Except.error.inj (h.symm.trans (hm.trans ho))) (hinvalid issues)
      · exact absurd (Except.error.inj (h.symm.trans (answer_load_of_not_admits hd ha s))) hmapping
  · intro h
    exact answer_load_of_error h s

theorem answer_load_eq_folder_iff (s : Session) : answer (load w path s) = .error .folder ↔
    w.source (path <|> w.value? "CONFIG") = .ok (some .folder) := by
  rw [answer_load_eq_error_iff (e := .folder) nofun nofun, document_eq_error_iff]
  simp

theorem answer_load_eq_path_iff (s : Session) {p : PathError} :
    answer (load w path s) = .error (.path p) ↔
      w.source (path <|> w.value? "CONFIG") = .error p := by
  rw [answer_load_eq_error_iff (e := .path p) nofun nofun, document_eq_error_iff]
  constructor
  · rintro (⟨q, hs, he⟩ | ⟨-, he⟩ | ⟨_, _, -, -, he⟩)
    · rwa [LoadError.path.inj he]
    · cases he
    · cases he
  · intro hs
    exact .inl ⟨p, hs, rfl⟩

theorem answer_load_eq_unreadable_iff (s : Session) {f : DocumentError} :
    answer (load w path s) = .error (.unreadable f) ↔ ∃ content,
      w.source (path <|> w.value? "CONFIG") = .ok (some (.file content)) ∧
        content.read = .error f := by
  rw [answer_load_eq_error_iff (e := .unreadable f) nofun nofun, document_eq_error_iff]
  simp

theorem isOrderly_answer_load_iff (s : Session) :
    IsOrderly (answer (load w path s)) ↔ ∃ n, w.document path = .ok n ∧ w.Admits n := by
  constructor
  · intro h
    rcases hd : w.document path with e | n
    · -- Reading never ends in a report.
      rw [answer_load_of_error hd s] at h
      rcases h with ⟨settings, h⟩ | ⟨issues, h⟩
      · cases h
      · rw [Except.error.inj h, document_eq_error_iff] at hd
        simp at hd
    · by_cases ha : w.Admits n
      · exact ⟨n, rfl, ha⟩
      · rw [answer_load_of_not_admits hd ha s] at h
        rcases h with ⟨settings, h⟩ | ⟨issues, h⟩
        · cases h
        · cases h
  · rintro ⟨n, hd, ha⟩
    obtain ⟨m, -, hm⟩ := answer_load_of_admits hd ha s
    rw [hm]
    exact isOrderly_mapError _

theorem answer_load_eq_noMapping_iff (s : Session) :
    answer (load w path s) = .error .noMapping ↔
      ∃ n, w.document path = .ok n ∧ ¬ w.Admits n := by
  constructor
  · intro h
    rcases hd : w.document path with e | n
    · have he := Except.error.inj ((answer_load_of_error hd s).symm.trans h)
      rw [he, document_eq_error_iff] at hd
      simp at hd
    · refine ⟨n, rfl, fun ha => ?_⟩
      rcases (isOrderly_answer_load_iff s).mpr ⟨n, hd, ha⟩ with ⟨settings, ho⟩ | ⟨issues, ho⟩
      · cases h.symm.trans ho
      · cases h.symm.trans ho
  · rintro ⟨n, hd, ha⟩
    exact answer_load_of_not_admits hd ha s

/-! ## Well-written files -/

theorem set?_of_ne {name : String} (h : w.value? name ≠ some "") : w.set? name = w.value? name := by
  rw [Surroundings.set?]
  rcases hv : w.value? name with _ | value
  · rfl
  · have hne : value ≠ "" := fun he => h (by rw [hv, he])
    rw [Option.filter_some, if_pos (decide_eq_true hne)]

/-- Unless the empty text names the file, what is read is what is to be read. -/
theorem Surroundings.Readable.of_source (h : w.Readable path)
    (hname : ¬ (path = none ∧ w.value? "CONFIG" = some "")) {entry : Entry}
    (hs : w.source (path <|> w.value? "CONFIG") = .ok (some entry)) :
    ∃ content, entry = .file content ∧ content.read ≠ .error .malformed := by
  refine h entry ?_
  cases path with
  | some name => exact hs
  | none => rwa [set?_of_ne fun hv => hname ⟨rfl, hv⟩]

/-- Surroundings with a file whose section about loaders is null. -/
def nullSection (env : List (String × String)) : Surroundings :=
  Surroundings.put { environment := .ofList env } "ros2_image_loader.yaml"
    (.file (.document (.mapping [(.text "loader", .null)])))

theorem readable_nullSection {env : List (String × String)}
    (h : (nullSection env).set? "CONFIG" = none) : (nullSection env).Readable none := by
  intro entry hs
  rw [h] at hs
  cases (source_put _ _).symm.trans hs
  exact ⟨_, rfl, nofun⟩

theorem document_nullSection {env : List (String × String)}
    (h : (nullSection env).value? "CONFIG" = none) :
    (nullSection env).document none = .ok (.mapping [(.text "loader", .null)]) :=
  document_put _ h _

end FrameChunks.Settings
