import FrameChunks.Settings.Load
import Mathlib.Logic.Basic

/-!
# Documents with the environment put in

A variable that is set, and not to the empty text, is written into its section of the document. That
can be done if the document is a mapping and the section is missing, a mapping, or bare keys. Writing
to one field leaves all other fields as they are.

## Main definitions

* `headings`: the sections of the settings
* `Node.field?`: the value of a field of a section
* `Node.Open`: a section that can be written to
* `Node.Sectioned`: a mapping whose sections are mappings or missing
* `Surroundings.set?`: the value of a variable that is set
* `Surroundings.Admits`: all variables that are set can be put in
* `Surroundings.text?`: the text that the environment has for a field

## Main results

* `setField_of_open`, `setField_of_not_open`: what writing to one field does
* `override_of_admits`, `override_of_not_admits`: when all variables can be put in
* `override_of_sectioned`: the fields of the document after that
-/

namespace FrameChunks

/-- The sections of the settings. -/
def Settings.headings : List String := ["parser", "loader", "logging"]

namespace Document.Node

open Settings (headings)

/-- The value of a field of a section. -/
def field? (n : Node) (heading key : String) : Option Node := (n.get? heading).bind (·.get? key)

/-- A section that can be written to: it is missing, a mapping, or bare keys. -/
structure Open (n : Node) (heading : String) : Prop where
  isMapping : ∃ entries, n = mapping entries
  isWritable : ∀ part, n.get? heading = some part →
    (∃ fields, part = mapping fields) ∨ ∃ items, part = keys items

/-- A mapping whose sections are mappings or missing. -/
structure Sectioned (n : Node) : Prop where
  isMapping : ∃ entries, n = mapping entries
  sections : ∀ heading ∈ headings, ∀ part, n.get? heading = some part →
    ∃ fields, part = mapping fields

theorem Sectioned.isOpen {n : Node} {heading : String} (h : n.Sectioned)
    (hheading : heading ∈ headings) : n.Open heading :=
  ⟨h.isMapping, fun part hpart => .inl (h.sections heading hheading part hpart)⟩

theorem get?_append (entries : List (Node × Node)) (key other : String) (value : Node) :
    (mapping (entries ++ [(text key, value)])).get? other =
      if other = key then some value else (mapping entries).get? other := by
  split
  · next h =>
    rw [h]
    exact lookup?_append_self entries key value
  · next h => exact lookup?_append_of_ne entries value h

end Document.Node

namespace Settings

open Document

variable {n : Node} {heading key value : String}

/-! ## One field -/

/-- A section with a field set to a text; nothing if it cannot be written to. -/
def written (key value : String) : Option Node → Option Node
  | none => some (.mapping [(.text key, .text value)])
  | some (.mapping fields) => some (.mapping (fields ++ [(.text key, .text value)]))
  | some (.keys items) => some (.keys (items ++ [.text key]))
  | some _ => none

theorem written_writable {old : Option Node} {part : Node} (h : written key value old = some part) :
    (∃ fields, part = .mapping fields) ∨ ∃ items, part = .keys items := by
  unfold written at h
  split at h
  · exact .inl ⟨_, (Option.some.inj h).symm⟩
  · exact .inl ⟨_, (Option.some.inj h).symm⟩
  · exact .inr ⟨_, (Option.some.inj h).symm⟩
  · cases h

/-- A mapping that is written to stays one, and takes the field. -/
theorem written_mapping (key value : String) {old : Option Node}
    (h : ∀ part, old = some part → ∃ fields, part = .mapping fields) :
    ∃ fields, written key value old = some (.mapping fields) ∧ ∀ other,
      (Node.mapping fields).get? other =
        if other = key then some (.text value) else old.bind (·.get? other) := by
  rcases old with _ | part
  · exact ⟨_, rfl, fun other => Node.get?_append [] key other (.text value)⟩
  · obtain ⟨fields, rfl⟩ := h part rfl
    exact ⟨_, rfl, fun other => Node.get?_append fields key other (.text value)⟩

theorem setField_mapping (entries : List (Node × Node)) :
    setField heading key value (.mapping entries) =
      match written key value (Node.lookup? entries heading) with
      | some part => .ok (.mapping (entries ++ [(.text heading, part)]))
      | none => .error .noMapping := by
  rw [setField]
  rcases Node.lookup? entries heading with _ | part
  · rfl
  · cases part <;> rfl

/-- An open section takes the field, and no other section changes. -/
theorem setField_of_open (key value : String) (h : n.Open heading) :
    ∃ m, setField heading key value n = .ok m ∧ (∃ entries, m = .mapping entries) ∧
      ∀ other, m.get? other =
        if other = heading then written key value (n.get? heading) else n.get? other := by
  obtain ⟨⟨entries, rfl⟩, hwritable⟩ := h
  obtain ⟨part, hpart⟩ : ∃ part, written key value (Node.lookup? entries heading) = some part := by
    rcases hs : Node.lookup? entries heading with _ | old
    · exact ⟨_, rfl⟩
    · rcases hwritable old hs with ⟨fields, rfl⟩ | ⟨items, rfl⟩
      · exact ⟨_, rfl⟩
      · exact ⟨_, rfl⟩
  refine ⟨.mapping (entries ++ [(.text heading, part)]), ?_, ⟨_, rfl⟩, ?_⟩
  · rw [setField_mapping, hpart]
  · intro other
    rw [Node.get?_append]
    simp only [Node.get?, hpart]

theorem setField_of_not_open (h : ¬ n.Open heading) :
    setField heading key value n = .error .noMapping := by
  cases n with
  | mapping entries =>
    rw [setField_mapping]
    rcases hs : Node.lookup? entries heading with _ | old
    · exact absurd ⟨⟨entries, rfl⟩, fun part hpart => nomatch hs.symm.trans hpart⟩ h
    · cases old with
      | mapping fields =>
        refine absurd ⟨⟨entries, rfl⟩, fun part hpart => .inl ⟨fields, ?_⟩⟩ h
        exact Option.some.inj (hpart.symm.trans hs)
      | keys items =>
        refine absurd ⟨⟨entries, rfl⟩, fun part hpart => .inr ⟨items, ?_⟩⟩ h
        exact Option.some.inj (hpart.symm.trans hs)
      | _ => rfl
  | _ => rfl

/-! ## All fields -/

/-- The value of a variable that is set, and not to the empty text. -/
def Surroundings.set? (w : Surroundings) (name : String) : Option String :=
  (w.value? name).filter (· ≠ "")

/-- Every variable that is set has an open section. -/
def Surroundings.Admits (w : Surroundings) (n : Node) : Prop :=
  ∀ f ∈ variableFields, (w.set? f.1).isSome → n.Open f.2.1

/-- The document with one variable put in. -/
def putVariable (w : Surroundings) (n : Node) (f : String × String × String) :
    Except LoadError Node :=
  match w.set? f.1 with
  | none => .ok n
  | some value => setField f.2.1 f.2.2 value n

variable {w : Surroundings} {f : String × String × String} {fs : List (String × String × String)}

theorem override_eq (w : Surroundings) (n : Node) :
    override w n = variableFields.foldlM (putVariable w) n := by
  have hput : putVariable w = fun n f =>
      match w.value? f.1 with
      | none => .ok n
      | some value => if value.isEmpty then .ok n else setField f.2.1 f.2.2 value n := by
    funext n f
    rw [putVariable, Surroundings.set?]
    rcases w.value? f.1 with _ | value
    · rfl
    · by_cases h : value = ""
      · simp [h, Option.filter_some]
      · simp [h, Option.filter_some, String.isEmpty_iff]
  rw [hput]
  rfl

/-- Putting a variable in leaves the same sections open. -/
theorem putVariable_of_open (h : (w.set? f.1).isSome → n.Open f.2.1) :
    ∃ m, putVariable w n f = .ok m ∧ ∀ other, m.Open other ↔ n.Open other := by
  rw [putVariable]
  rcases hs : w.set? f.1 with _ | value
  · exact ⟨n, rfl, fun _ => Iff.rfl⟩
  · have hopen := h (by rw [hs]; rfl)
    obtain ⟨m, hm, hmapping, hget⟩ := setField_of_open f.2.2 value hopen
    refine ⟨m, hm, fun other => ?_⟩
    -- The section that was written to is open before and after.
    by_cases ho : other = f.2.1
    · rw [ho]
      refine iff_of_true ⟨hmapping, fun part hpart => ?_⟩ hopen
      rw [hget, if_pos rfl] at hpart
      exact written_writable hpart
    · have hsame : m.get? other = n.get? other := by rw [hget, if_neg ho]
      constructor
      · intro hm
        exact ⟨hopen.isMapping, fun part hpart => hm.isWritable part (hsame.trans hpart)⟩
      · intro hn
        exact ⟨hmapping, fun part hpart => hn.isWritable part (hsame.symm.trans hpart)⟩

theorem putVariable_of_not_open (hs : (w.set? f.1).isSome) (h : ¬ n.Open f.2.1) :
    putVariable w n f = .error .noMapping := by
  obtain ⟨value, hvalue⟩ := Option.isSome_iff_exists.mp hs
  rw [putVariable, hvalue]
  exact setField_of_not_open h

theorem putVariables_of_open (h : ∀ f ∈ fs, (w.set? f.1).isSome → n.Open f.2.1) :
    ∃ m, fs.foldlM (putVariable w) n = .ok m := by
  induction fs generalizing n with
  | nil => exact ⟨n, rfl⟩
  | cons f fs ih =>
    obtain ⟨hf, hfs⟩ := List.forall_mem_cons.mp h
    obtain ⟨m, hm, hopen⟩ := putVariable_of_open hf
    rw [List.foldlM_cons, hm]
    apply ih
    intro g hg hset
    exact (hopen _).mpr (hfs g hg hset)

/-- The first section that is not open ends it. -/
theorem putVariables_of_not_open (h : ¬ ∀ f ∈ fs, (w.set? f.1).isSome → n.Open f.2.1) :
    fs.foldlM (putVariable w) n = .error .noMapping := by
  induction fs generalizing n with
  | nil => exact absurd (fun _ hf => nomatch hf) h
  | cons f fs ih =>
    rw [List.foldlM_cons]
    by_cases hf : (w.set? f.1).isSome → n.Open f.2.1
    · obtain ⟨m, hm, hopen⟩ := putVariable_of_open hf
      rw [hm]
      apply ih
      -- What was put in opens no section, so the one that is not open comes later.
      intro hfs
      refine h (List.forall_mem_cons.mpr ⟨hf, fun g hg hset => ?_⟩)
      exact (hopen _).mp (hfs g hg hset)
    · rw [Classical.not_imp] at hf
      rw [putVariable_of_not_open hf.1 hf.2]
      rfl

theorem override_of_admits (h : w.Admits n) : ∃ m, override w n = .ok m := by
  rw [override_eq]
  exact putVariables_of_open h

theorem override_of_not_admits (h : ¬ w.Admits n) : override w n = .error .noMapping := by
  rw [override_eq]
  exact putVariables_of_not_open h

/-! ## The fields of a document -/

/-- The text that a variable has for a field. -/
def Surroundings.textFor? (w : Surroundings) (f : String × String × String) (heading key : String) :
    Option String :=
  if f.2 = (heading, key) then w.set? f.1 else none

/-- The text that one of several variables has for a field. -/
def Surroundings.textAmong? (w : Surroundings) (fs : List (String × String × String))
    (heading key : String) : Option String :=
  (fs.find? fun f => f.2 = (heading, key)).bind fun f => w.set? f.1

/-- A field has no second variable. -/
theorem textAmong?_cons (w : Surroundings) (h : f.2 ∉ fs.map Prod.snd) (heading key : String) :
    w.textAmong? (f :: fs) heading key =
      (w.textAmong? fs heading key).or (w.textFor? f heading key) := by
  rw [Surroundings.textAmong?, Surroundings.textAmong?, Surroundings.textFor?]
  by_cases hf : f.2 = (heading, key)
  · -- No later variable is for the field, so the order does not matter.
    have hnone : fs.find? (fun g => g.2 = (heading, key)) = none := by
      rw [List.find?_eq_none]
      intro g hg hfield
      exact h (List.mem_map.mpr ⟨g, hg, (of_decide_eq_true hfield).trans hf.symm⟩)
    rw [List.find?_cons_of_pos (by simpa using hf), hnone, if_pos hf]
    rfl
  · rw [List.find?_cons_of_neg (by simpa using hf), if_neg hf, Option.or_none]

theorem putVariable_of_sectioned (h : n.Sectioned)
    (hf : f.2.1 ∈ headings) :
    ∃ m, putVariable w n f = .ok m ∧ m.Sectioned ∧ ∀ heading key,
      m.field? heading key =
        ((w.textFor? f heading key).map Node.text).or (n.field? heading key) := by
  rw [putVariable]
  rcases hs : w.set? f.1 with _ | value
  · refine ⟨n, rfl, h, fun heading key => ?_⟩
    simp [Surroundings.textFor?, hs]
  · obtain ⟨m, hm, hmapping, hget⟩ := setField_of_open f.2.2 value (h.isOpen hf)
    obtain ⟨fields, hfields, hwritten⟩ := written_mapping f.2.2 value (h.sections f.2.1 hf)
    refine ⟨m, hm, ⟨hmapping, ?_⟩, ?_⟩
    · intro heading hheading part hpart
      rw [hget] at hpart
      split at hpart
      · exact ⟨fields, Option.some.inj (hpart.symm.trans hfields)⟩
      · exact h.sections heading hheading part hpart
    · intro heading key
      rw [Node.field?, hget, Surroundings.textFor?]
      -- the field itself, its neighbours in the section, and the other sections
      by_cases hh : heading = f.2.1
      · rw [if_pos hh, hfields, Option.bind_some, hwritten]
        by_cases hk : key = f.2.2
        · rw [if_pos hk, if_pos (Prod.ext hh.symm hk.symm), hs]
          rfl
        · rw [if_neg hk, if_neg fun hp => hk (congrArg Prod.snd hp).symm, ← hh]
          rfl
      · rw [if_neg hh, if_neg fun hp => hh (congrArg Prod.fst hp).symm]
        rfl

theorem putVariables_of_sectioned (h : n.Sectioned)
    (hfs : ∀ f ∈ fs, f.2.1 ∈ headings) (hnodup : (fs.map Prod.snd).Nodup) :
    ∃ m, fs.foldlM (putVariable w) n = .ok m ∧ m.Sectioned ∧ ∀ heading key,
      m.field? heading key =
        ((w.textAmong? fs heading key).map Node.text).or (n.field? heading key) := by
  induction fs generalizing n with
  | nil => exact ⟨n, rfl, h, fun _ _ => rfl⟩
  | cons f fs ih =>
    obtain ⟨hf, hfs⟩ := List.forall_mem_cons.mp hfs
    obtain ⟨hother, hnodup⟩ := List.nodup_cons.mp hnodup
    obtain ⟨m, hm, hsectioned, hfield⟩ := putVariable_of_sectioned (w := w) h hf
    obtain ⟨m', hm', hsectioned', hfield'⟩ := ih hsectioned hfs hnodup
    refine ⟨m', ?_, hsectioned', fun heading key => ?_⟩
    · rw [List.foldlM_cons, hm]
      exact hm'
    · rw [hfield', hfield, textAmong?_cons w hother, Option.map_or, Option.or_assoc]

/-- The text that the environment has for a field. -/
def Surroundings.text? (w : Surroundings) (heading key : String) : Option String :=
  w.textAmong? variableFields heading key

/-- In a mapping whose sections are mappings or missing, the texts of the environment take the place
of the values of their fields, and no other value changes. -/
theorem override_of_sectioned (w : Surroundings) (h : n.Sectioned) :
    ∃ m, override w n = .ok m ∧ m.Sectioned ∧ ∀ heading key,
      m.field? heading key = ((w.text? heading key).map Node.text).or (n.field? heading key) := by
  rw [override_eq]
  exact putVariables_of_sectioned h (by decide) (by decide)

end Settings

end FrameChunks
