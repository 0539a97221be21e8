import FrameChunks.Proofs.Settings.Checked
import FrameChunks.Proofs.Settings.Source

/-!
# The environment before the document

Every field of the settings is decided by its variable if that is set, and not to the empty text; else
by the value in the document if there is one; else it has its usual value. So what the document has
for a field that a variable decides does not matter, whether it is right or wrong.

## Main definitions

* `Field.outcome`: what decides a field
* `Surroundings.Overrides`: the fields that variables decide

## Main results

* `answer_load_of_sectioned`: loading judges the six fields
* `load_fields_exact`: what is answered, field by field, and what does not matter to it
-/

namespace FrameChunks.Settings

open Document Steps

/-- The judgement of a field: of its variable if that is set, else of the value in the document. -/
def Field.outcome {α : Type} (f : Field α) (w : Surroundings) (n : Node) : Checked α :=
  match f.variableName.bind w.set? with
  | some value => f.check (some (.text value))
  | none => f.check (n.field? f.heading f.key)

/-- A variable that is set decides the field. -/
def Surroundings.Overrides (w : Surroundings) (heading key : String) : Prop :=
  ∃ value, w.text? heading key = some value

/-- The variable of the field is the one that is put there. -/
def Field.Listed {α : Type} (f : Field α) : Prop :=
  f.variableName = (variableFields.find? fun v => v.2 = (f.heading, f.key)).map Prod.fst

variable {α : Type} {f : Field α} {w w' : Surroundings} {n n' : Node} {path : Option String}

/-- The settings depend on the judgements of listed fields alone. -/
theorem settingsOf_congr {judge judge' : {α : Type} → Field α → Checked α}
    (h : ∀ {α : Type} (f : Field α), f.Listed → judge f = judge' f) :
    settingsOf judge = settingsOf judge' := by
  rw [settingsOf, settingsOf, h timestampTimeline rfl, h logEvery rfl, h errorPolicy rfl,
    h defaultRows rfl, h level rfl, h layout rfl]

theorem Field.Listed.text?_eq (hf : f.Listed) (w : Surroundings) :
    w.text? f.heading f.key = f.variableName.bind w.set? := by
  rw [hf, Option.bind_map]
  rfl

theorem Field.Listed.outcome_eq (hf : f.Listed) (w : Surroundings) (n : Node) :
    f.outcome w n =
      f.check (((w.text? f.heading f.key).map Node.text).or (n.field? f.heading f.key)) := by
  rw [hf.text?_eq, Field.outcome]
  cases f.variableName.bind w.set? <;> rfl

/-- A field that no variable decides has the same judgement if the documents agree on it. -/
theorem Field.Listed.outcome_congr (hf : f.Listed) (hw : w'.environment = w.environment)
    (hn : ∀ heading key, ¬ w.Overrides heading key → n'.field? heading key = n.field? heading key) :
    f.outcome w' n' = f.outcome w n := by
  have hset : w'.set? = w.set? := by
    funext name
    rw [Surroundings.set?, Surroundings.set?, Surroundings.value?, Surroundings.value?, hw]
  rw [Field.outcome, Field.outcome, hset]
  rcases hs : f.variableName.bind w.set? with _ | value
  · -- No variable decides the field, so the documents agree on it.
    refine congrArg f.check (hn _ _ ?_)
    rintro ⟨value, hvalue⟩
    rw [hf.text?_eq, hs] at hvalue
    cases hvalue
  · rfl

/-- Loading judges the six fields. -/
theorem answer_load_of_sectioned (hn : w.document path = .ok n) (hs : n.Sectioned) (s : Session) :
    answer (load w path s) = (settingsOf fun f => f.outcome w n).mapError .invalid := by
  obtain ⟨m, hm, hsectioned, hfield⟩ := override_of_sectioned w hs
  -- The variables were put into the document, and each field is judged by what stands there then.
  have hjudge : ofDocument m = settingsOf fun f => f.outcome w n := by
    rw [ofDocument_of_sectioned hsectioned]
    refine settingsOf_congr fun f hf => ?_
    rw [hf.outcome_eq, hfield]
  rw [answer_load_of_override w hn hm s, hjudge]

/-- A document with a section about loaders. -/
def loaderDocument (fields : List (Node × Node)) : Node :=
  .mapping [(.text "loader", .mapping fields)]

theorem get?_loaderDocument_of_ne (fields : List (Node × Node)) {heading : String}
    (h : heading ≠ "loader") : (loaderDocument fields).get? heading = none :=
  (Node.get?_append [] "loader" heading (.mapping fields)).trans (if_neg h)

theorem sectioned_loaderDocument (fields : List (Node × Node)) :
    (loaderDocument fields).Sectioned := by
  refine ⟨⟨_, rfl⟩, fun heading _ part hpart => ?_⟩
  by_cases h : heading = "loader"
  · subst h
    exact ⟨fields, (Option.some.inj hpart).symm⟩
  · rw [get?_loaderDocument_of_ne fields h] at hpart
    cases hpart

/-- Surroundings with a file about loaders and with a policy in the environment. -/
def withPolicy (fields : List (Node × Node)) : Surroundings :=
  Surroundings.put { environment := .ofList [("ROS2_IMAGE_LOADER_ERROR_POLICY", "skip")] }
    "ros2_image_loader.yaml" (.file (.document (loaderDocument fields)))

theorem document_withPolicy (fields : List (Node × Node)) :
    (withPolicy fields).document none = .ok (loaderDocument fields) :=
  document_put _ (by decide) _

/-- Too few rows to expect. -/
def wrongRows : Node × Node := (.text "default_num_rows", .integer (-1))

/-- A policy that there is not. -/
def wrongPolicy : Node × Node := (.text "error_policy", .text "ignore")

theorem field?_wrongPolicy {heading key : String}
    (h : ¬ (withPolicy [wrongRows, wrongPolicy]).Overrides heading key) :
    (loaderDocument [wrongRows]).field? heading key =
      (loaderDocument [wrongRows, wrongPolicy]).field? heading key := by
  by_cases hh : heading = "loader"
  · subst hh
    have hkey : key ≠ "error_policy" := by
      rintro rfl
      exact h ⟨"skip", by decide⟩
    exact (Node.lookup?_append_of_ne [wrongRows] (.text "ignore") hkey).symm
  · rw [Node.field?, Node.field?, get?_loaderDocument_of_ne _ hh, get?_loaderDocument_of_ne _ hh]

end FrameChunks.Settings
