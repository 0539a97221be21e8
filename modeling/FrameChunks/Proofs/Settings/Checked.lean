import FrameChunks.Proofs.Settings.Override

/-!
# Checking field by field

A mapping whose sections are mappings or missing is checked field by field: every field is judged by
its own value alone, and all that is wrong is collected in the order of the fields.

## Main definitions

* `Field`: a field of the settings, and `timestampTimeline` to `layout`: the six that there are
* `Field.check`: the judgement of a field
* `settingsOf`: the settings of six judgements

## Main results

* `settingsOf_eq_ok_iff`, `settingsOf_eq_error_iff`: all fields have to be right, and all that is
  wrong is collected
* `ofDocument_of_sectioned`: the check of a document is made of the judgements of its fields
-/

namespace FrameChunks.Settings

open Document

/-- A field of the settings. -/
structure Field (α : Type) where
  heading : String
  key : String
  /-- The variable that takes precedence over the document, if there is one. -/
  variableName : Option String
  /-- The value of a field that is missing. -/
  usual : α
  /-- What the field may hold. -/
  read : Node → Except Fault α

/-- The timeline of the time stamps. -/
def timestampTimeline : Field String :=
  ⟨"parser", "timestamp_timeline", none, "timestamp", Check.nonemptyText⟩

/-- How many rows lie between two notes of progress. -/
def logEvery : Field Int := ⟨"parser", "log_every_n_frames", none, 0, Check.count⟩

/-- What a loader does with a message that is rejected. -/
def errorPolicy : Field ErrorPolicy :=
  ⟨"loader", "error_policy", some "ERROR_POLICY", .abort, Check.word .abort .skip ErrorPolicy.name⟩

/-- How many rows to expect. -/
def defaultRows : Field Int := ⟨"loader", "default_num_rows", some "NUM_ROWS_HINT", 0, Check.count⟩

/-- The least level that is written. -/
def level : Field String := ⟨"logging", "level", some "LOG_LEVEL", "INFO", Check.text⟩

/-- How log records are written. -/
def layout : Field LogLayout :=
  ⟨"logging", "format", some "LOG_FORMAT", .text, Check.word .json .text LogLayout.name⟩

variable {α β γ : Type}

/-- The judgement of a field whose value, if it has one, is given. -/
def Field.check (f : Field α) : Option Node → Checked α
  | none => .ok f.usual
  | some n => (f.read n).mapError fun fault => [⟨[f.heading, f.key], fault⟩]

/-- All that is wrong. -/
def issuesOf : Checked α → List Issue
  | .ok _ => []
  | .error issues => issues

/-- The settings of six judgements, or all that is wrong. -/
def settingsOf (judge : {α : Type} → Field α → Checked α) : Checked Settings :=
  (Check.both (Check.both (judge timestampTimeline) (judge logEvery))
    (Check.both (Check.both (judge errorPolicy) (judge defaultRows))
      (Check.both (judge level) (judge layout)))).map
    fun s => ⟨⟨s.1.1, s.1.2⟩, ⟨s.2.1.1, s.2.1.2⟩, ⟨s.2.2.1, s.2.2.2⟩⟩

/-! ## What is collected -/

variable {x : Checked α} {y : Checked β}

theorem both_eq_ok_iff {p : α × β} : Check.both x y = .ok p ↔ x = .ok p.1 ∧ y = .ok p.2 := by
  cases x <;> cases y <;> simp [Check.both, Prod.ext_iff]

theorem issuesOf_both (x : Checked α) (y : Checked β) :
    issuesOf (Check.both x y) = issuesOf x ++ issuesOf y := by
  cases x <;> cases y <;> simp [Check.both, issuesOf]

/-- What fails, fails for a reason. -/
def HasReason (x : Checked α) : Prop := x ≠ .error []

theorem HasReason.both (hx : HasReason x) (hy : HasReason y) : HasReason (Check.both x y) := by
  rcases x with e | a <;> rcases y with f | b <;>
    simp_all [HasReason, Check.both]

theorem map_eq_ok_iff {f : α → β} {b : β} : x.map f = .ok b ↔ ∃ a, x = .ok a ∧ f a = b := by
  cases x <;> simp [Except.map]

theorem HasReason.map (hx : HasReason x) (f : α → β) : HasReason (x.map f) := by
  cases x <;> simp_all [HasReason, Except.map]

theorem issuesOf_map (x : Checked α) (f : α → β) : issuesOf (x.map f) = issuesOf x := by
  cases x <;> rfl

theorem HasReason.eq_error_iff (hx : HasReason x) {issues : List Issue} :
    x = .error issues ↔ issues = issuesOf x ∧ issues ≠ [] := by
  rcases x with e | a
  · constructor
    · intro h
      cases h
      exact ⟨rfl, fun he => hx (congrArg _ he)⟩
    · rintro ⟨rfl, -⟩
      rfl
  · constructor
    · nofun
    · rintro ⟨rfl, h⟩
      exact absurd rfl h

theorem Field.hasReason_check (f : Field α) (value : Option Node) : HasReason (f.check value) := by
  cases value with
  | none => nofun
  | some n =>
    rw [HasReason, Field.check]
    cases f.read n with
    | ok _ => nofun
    | error _ => exact fun h => List.cons_ne_nil _ _ (Except.error.inj h)

section Settings

variable {judge : {α : Type} → Field α → Checked α}

theorem settingsOf_eq_ok_iff {settings : Settings} :
    settingsOf judge = .ok settings ↔
      judge timestampTimeline = .ok settings.parser.timestampTimeline ∧
      judge logEvery = .ok settings.parser.logEvery ∧
      judge errorPolicy = .ok settings.loader.errorPolicy ∧
      judge defaultRows = .ok settings.loader.defaultRows ∧
      judge level = .ok settings.logging.level ∧ judge layout = .ok settings.logging.layout := by
  rw [settingsOf, map_eq_ok_iff]
  simp only [both_eq_ok_iff]
  constructor
  · rintro ⟨s, ⟨⟨htimeline, hevery⟩, ⟨hpolicy, hrows⟩, hlevel, hlayout⟩, rfl⟩
    exact ⟨htimeline, hevery, hpolicy, hrows, hlevel, hlayout⟩
  · rintro ⟨htimeline, hevery, hpolicy, hrows, hlevel, hlayout⟩
    exact ⟨((_, _), (_, _), _, _), ⟨⟨htimeline, hevery⟩, ⟨hpolicy, hrows⟩, hlevel, hlayout⟩, rfl⟩

theorem settingsOf_eq_error_iff (h : ∀ {α : Type} (f : Field α), HasReason (judge f))
    {issues : List Issue} :
    settingsOf judge = .error issues ↔
      issues = issuesOf (judge timestampTimeline) ++ issuesOf (judge logEvery) ++
        issuesOf (judge errorPolicy) ++ issuesOf (judge defaultRows) ++
        issuesOf (judge level) ++ issuesOf (judge layout) ∧ issues ≠ [] := by
  have hparser := (h timestampTimeline).both (h logEvery)
  have hloader := (h errorPolicy).both (h defaultRows)
  have hlogging := (h level).both (h layout)
  rw [settingsOf, ((hparser.both (hloader.both hlogging)).map _).eq_error_iff, issuesOf_map]
  simp only [issuesOf_both, List.append_assoc]

end Settings

/-! ## The check of a document -/

theorem field_eq_check (f : Field α) (fields : List (Node × Node)) :
    Check.field [f.heading] fields f.key f.usual f.read = f.check (Node.lookup? fields f.key) := by
  rw [Check.field]
  cases Node.lookup? fields f.key <;> rfl

/-- A section of two fields that is a mapping or missing. -/
theorem part_eq (make : α × β → γ) (f : Field α) (g : Field β) (hg : g.heading = f.heading)
    {read : List String → Node → Checked γ}
    (hread : ∀ fields, read [f.heading] (.mapping fields) =
      (Check.both (f.check (Node.lookup? fields f.key))
        (g.check (Node.lookup? fields g.key))).map make)
    {entries : List (Node × Node)}
    (h : ∀ part, Node.lookup? entries f.heading = some part → ∃ fields, part = .mapping fields) :
    Check.part entries f.heading (make (f.usual, g.usual)) read =
      (Check.both (f.check ((Node.mapping entries).field? f.heading f.key))
        (g.check ((Node.mapping entries).field? g.heading g.key))).map make := by
  rw [Check.part, Node.field?, Node.field?, hg, Node.get?]
  rcases hs : Node.lookup? entries f.heading with _ | part
  · -- A missing section has the usual values, and so have its fields.
    rfl
  · obtain ⟨fields, rfl⟩ := h part hs
    exact hread fields

theorem bind_eq_map (x : Checked (α × β)) (make : α → β → γ) :
    (x >>= fun (a, b) => return make a b) = x.map fun p => make p.1 p.2 := by
  cases x <;> rfl

theorem parser_mapping (fields : List (Node × Node)) :
    Check.parser ["parser"] (.mapping fields) =
      (Check.both (timestampTimeline.check (Node.lookup? fields timestampTimeline.key))
        (logEvery.check (Node.lookup? fields logEvery.key))).map fun p => ⟨p.1, p.2⟩ := by
  rw [← field_eq_check, ← field_eq_check, ← bind_eq_map]
  rfl

theorem loader_mapping (fields : List (Node × Node)) :
    Check.loader ["loader"] (.mapping fields) =
      (Check.both (errorPolicy.check (Node.lookup? fields errorPolicy.key))
        (defaultRows.check (Node.lookup? fields defaultRows.key))).map fun p => ⟨p.1, p.2⟩ := by
  rw [← field_eq_check, ← field_eq_check, ← bind_eq_map]
  rfl

theorem logging_mapping (fields : List (Node × Node)) :
    Check.logging ["logging"] (.mapping fields) =
      (Check.both (level.check (Node.lookup? fields level.key))
        (layout.check (Node.lookup? fields layout.key))).map fun p => ⟨p.1, p.2⟩ := by
  rw [← field_eq_check, ← field_eq_check, ← bind_eq_map]
  rfl

/-- A mapping whose sections are mappings or missing is checked field by field. -/
theorem ofDocument_of_sectioned {n : Node} (h : n.Sectioned) :
    ofDocument n = settingsOf fun f => f.check (n.field? f.heading f.key) := by
  obtain ⟨⟨entries, rfl⟩, hsections⟩ := h
  have hparser := part_eq _ timestampTimeline logEvery rfl parser_mapping
    (hsections "parser" (by simp [headings]))
  have hloader := part_eq _ errorPolicy defaultRows rfl loader_mapping
    (hsections "loader" (by simp [headings]))
  have hlogging := part_eq _ level layout rfl logging_mapping (hsections "logging" (by simp [headings]))
  show (Check.both (Check.part entries "parser" _ _)
    (Check.both (Check.part entries "loader" _ _) (Check.part entries "logging" _ _)) >>= _) = _
  rw [settingsOf]
  refine (congrArg₂ (fun x y => Check.both x y >>= _) hparser
    (congrArg₂ Check.both hloader hlogging)).trans ?_
  -- What is left is how the three sections are put together, whatever they are.
  generalize Check.both (timestampTimeline.check _) (logEvery.check _) = x
  generalize Check.both (errorPolicy.check _) (defaultRows.check _) = y
  generalize Check.both (level.check _) (layout.check _) = z
  cases x <;> cases y <;> cases z <;> rfl

end FrameChunks.Settings
