import FrameChunks.Proofs.Settings.Override
import FrameChunks.Proofs.Steps

/-!
# What loading answers

Loading makes notes on its way, but what it answers does not depend on the notes made before: it is
the check of a document, which is found in the surroundings alone.

## Main definitions

* `Answers`: what steps answer from every state
* `Surroundings.source`: what the settings are read from
* `Surroundings.document`: the document that is read

## Main results

* `load_answers`, `answer_load_of_override`: loading checks the document of the surroundings, with
  the variables put in
* `find_emptyText`, `find_put`: what is at the empty text, and where a file was put
* `source_put`, `document_put`: a usual file is read if nothing names another one
-/

namespace FrameChunks

namespace Steps

variable {ε σ α β γ : Type} {m : EStateM ε σ α} {x : Except ε β}

/-- What steps answer, without the state that they leave. -/
def answer : EStateM.Result ε σ α → Except ε α
  | .ok a _ => .ok a
  | .error e _ => .error e

/-- The steps answer the same from every state. -/
def Answers (m : EStateM ε σ α) (x : Except ε α) : Prop := ∀ s, answer (m s) = x

theorem answers_ofExcept (x : Except ε α) : Answers (ofExcept x : EStateM ε σ α) x := by
  intro s
  cases x <;> rfl

/-- In a sequence only a part of what the first step answers may matter. -/
theorem Answers.bind_map {f : α → β} {k : α → EStateM ε σ γ} {y : β → Except ε γ}
    (hm : Answers (f <$> m) x) (hk : ∀ a, Answers (k a) (y (f a))) : Answers (m >>= k) (x >>= y) := by
  intro s
  have h := hm s
  rcases hs : m s with ⟨a, t⟩ | ⟨e, t⟩
  · rw [map_of_ok hs] at h
    rw [bind_of_ok hs, hk a t, ← h]
    rfl
  · rw [map_of_error hs] at h
    rw [bind_of_error hs, ← h]
    rfl

theorem mapError_bind {δ : Type} (f : ε → δ) (x : Except ε α) (k : α → Except ε β) :
    (x >>= k).mapError f = x.mapError f >>= fun a => (k a).mapError f := by
  cases x <;> rfl

theorem Answers.bind {x : Except ε α} {k : α → EStateM ε σ γ} {y : α → Except ε γ}
    (hm : Answers m x) (hk : ∀ a, Answers (k a) (y a)) : Answers (m >>= k) (x >>= y) := by
  refine Answers.bind_map (f := id) ?_ hk
  rw [id_map]
  exact hm

end Steps

namespace Settings

open Document Steps

/-- The first of several files that there is. -/
def Files.first (f : Files) : List String → Except PathError (Option Entry)
  | [] => .ok none
  | name :: more => do
    match ← f.find (.ofText name) with
    | some entry => return some entry
    | none => f.first more

/-- The document of a file. One that says nothing counts as an empty mapping. -/
def documentOf : Entry → Except LoadError Node
  | .folder => .error .folder
  | .file content =>
    match content.read with
    | .error e => .error (.unreadable e)
    | .ok n => .ok (if n.isVoid then .mapping [] else n)

namespace Surroundings

/-- What the settings are read from: what is at the name, or a usual file if there is no name. -/
def source (w : Surroundings) : Option String → Except PathError (Option Entry)
  | some name => w.files.find (.ofText name)
  | none => w.files.first usualFiles

/-- The document that is read. Where there is none, it is an empty mapping. -/
def document (w : Surroundings) (path : Option String) : Except LoadError Node := do
  match ← (w.source (path <|> w.value? "CONFIG")).mapError .path with
  | none => return .mapping []
  | some entry => documentOf entry

end Surroundings

variable (w : Surroundings)

theorem note_answers (level : Log.Level) (text : String) : Answers (note level text) (.ok ()) :=
  fun _ => rfl

theorem find_answers (p : Path) : Answers (find w p) ((w.files.find p).mapError .path) :=
  answers_ofExcept _

theorem findFirst_answers (names : List String) :
    Answers (Option.map Prod.snd <$> findFirst w names) ((w.files.first names).mapError .path) := by
  induction names with
  | nil => exact fun _ => rfl
  | cons name more ih =>
    rw [findFirst, map_bind, Files.first, mapError_bind]
    refine (find_answers w (.ofText name)).bind fun found => ?_
    cases found with
    | some entry => exact fun _ => rfl
    | none => exact ih

theorem findFile_answers (path : Option String) :
    Answers (Option.map Prod.snd <$> findFile w path)
      ((w.source (path <|> w.value? "CONFIG")).mapError .path) := by
  rw [findFile]
  cases path <|> w.value? "CONFIG" with
  | some name =>
    show Answers (Option.map Prod.snd <$> (find w (.ofText name) >>= _)) _
    rw [map_bind, ← bind_pure ((w.source (some name)).mapError LoadError.path)]
    refine (find_answers w (.ofText name)).bind fun found => ?_
    -- That a file is missing is noted, and changes no answer.
    cases found with
    | some _ => exact fun _ => rfl
    | none => exact fun _ => rfl
  | none => exact findFirst_answers w Surroundings.usualFiles

theorem readFile_answers (path : Path) (entry : Entry) :
    Answers (readFile path entry) (documentOf entry) := by
  rw [readFile.eq_def]
  refine (note_answers _ _).bind (y := fun _ => documentOf entry) fun _ => ?_
  cases entry with
  | folder => exact fun _ => rfl
  | file content =>
    intro s
    simp only [documentOf]
    cases content.read with
    | error e => rfl
    | ok n => rfl

/-- Loading checks the document of the surroundings, with the variables put in. -/
theorem load_answers (path : Option String) :
    Answers (load w path)
      (w.document path >>= fun n => override w n >>= fun m => (ofDocument m).mapError .invalid) := by
  have hcheck (n : Node) : Answers
      (ofExcept (override w n) >>= fun m => ofExcept ((ofDocument m).mapError .invalid) :
        Loading Settings)
      (override w n >>= fun m => (ofDocument m).mapError .invalid) :=
    (answers_ofExcept _).bind fun _ => answers_ofExcept _
  rw [load, Surroundings.document, bind_assoc]
  -- Of the file that is found, its path matters to the notes alone.
  refine (findFile_answers w path).bind_map fun found => ?_
  rcases found with _ | ⟨p, entry⟩
  · exact (note_answers _ _).bind fun _ => hcheck (.mapping [])
  · exact (readFile_answers p entry).bind hcheck

/-- Once the variables are put in, the check of the document is the answer. -/
theorem answer_load_of_override {path : Option String} {n m : Node} (h : w.document path = .ok n)
    (hm : override w n = .ok m) (s : Session) :
    answer (load w path s) = (ofDocument m).mapError .invalid := by
  rw [load_answers w path s, h]
  show (override w n >>= _) = _
  rw [hm]
  rfl

/-! ## What a path leads to -/

/-- The empty text leads to a folder. -/
theorem find_emptyText (f : Files) : f.find (.ofText "") = .ok (some .folder) := by
  have hpath : Path.ofText "" = ⟨"", []⟩ := by decide
  have htext : Path.text ⟨"", []⟩ = "." := by decide
  have hsize : ".".utf8ByteSize = 1 := by decide
  rw [Files.find, hpath, htext]
  simp [hsize, Path.mostBytes, Files.follow, Files.entryAt]

/-- What was put under a name of one step is found there. -/
theorem find_put {name : String} (hpath : Path.ofText name = ⟨"", [name]⟩) (hname : name ≠ "")
    (hup : name ≠ Path.up) (hcontains : name.contains '\x00' = false)
    (hsize : name.utf8ByteSize ≤ Path.mostStepBytes) (f : Files) (entry : Entry) :
    (f.put name entry).find (.ofText name) = .ok (some entry) := by
  have htext : (Path.ofText name).text = name := by
    rw [hpath]
    simp [Path.text, hname]
  have hat : (f.put name entry).entryAt (some [name]) = some entry := by
    simp [Files.put, hpath, Path.direct, hup, Files.entryAt, Keyed.get?_insert]
  have hshort : ¬ Path.mostBytes ≤ name.utf8ByteSize :=
    Nat.not_le.mpr (Nat.lt_of_le_of_lt hsize (by decide))
  -- The one step is made in the working directory.
  have hfollow : (f.put name entry).follow (some []) [name] = .ok (some entry) := by
    have hfolder : (f.put name entry).entryAt (some []) = some .folder := rfl
    simp [Files.follow, hfolder, Entry.isFolder, Nat.not_lt.mpr hsize, hup, hat]
  rw [Files.find, htext, hcontains, hpath]
  simp [hshort, hfollow]

/-- Without a name, the first usual file is looked for first. -/
theorem source_put (w : Surroundings) (entry : Entry) :
    (w.put "ros2_image_loader.yaml" entry).source none = .ok (some entry) := by
  have hpath : Path.ofText "ros2_image_loader.yaml" = ⟨"", ["ros2_image_loader.yaml"]⟩ := by decide
  have hfind := find_put hpath (by decide) (by decide) (by simp) (by decide) w.files entry
  show (Files.find _ _ >>= _) = _
  exact congrArg (· >>= _) hfind

theorem document_put (w : Surroundings) (h : w.value? "CONFIG" = none) (entry : Entry) :
    (w.put "ros2_image_loader.yaml" entry).document none = documentOf entry := by
  have hvalue : (w.put "ros2_image_loader.yaml" entry).value? "CONFIG" = none := h
  rw [Surroundings.document, hvalue, show (none <|> none : Option String) = none from rfl, source_put]
  rfl

end Settings

end FrameChunks
