import FrameChunks.Recording
import Mathlib.Data.List.Induction

/-!
# Entity paths are a normal form

The slashes of a text cut it into parts, and the parts that are not empty are its names. A normal
path is a slash followed by names with single slashes between them. Every list of names is that of
exactly one normal path, and this is the path under which a topic of these names is filed.

## Main definitions

* `Topic.names`: the names that a text is made of
* `Topic.IsNormal`: a path without slashes to spare

## Main results

* `Text.split_eq_splitOn`: the parts of a text are those of `List.splitOn`
* `Topic.names_join`: the names of a path that was put together from names
* `Topic.isNormal_iff`: the normal paths are those that are put together from names
* `entityPath_normalForm`: what the path of a topic is
-/

namespace FrameChunks

namespace Text

variable {α : Type}

theorem split_eq_splitOn [DecidableEq α] (separator : α) (s : List α) :
    split separator s = s.splitOn separator := by
  induction s with
  | nil => rfl
  | cons c rest ih =>
    rw [List.splitOn_cons_eq_if_modifyHead, split, ih]
    obtain ⟨part, parts, hparts⟩ := List.exists_cons_of_ne_nil (List.splitOn_ne_nil separator rest)
    simp only [hparts, beq_iff_eq, List.modifyHead_cons]

/-- One separator in front of every part is one in front of the parts joined. -/
theorem flatMap_separator {separator : α} {parts : List (List α)} (h : parts ≠ []) :
    parts.flatMap (separator :: ·) = separator :: join separator parts := by
  induction parts with
  | nil => exact absurd rfl h
  | cons part rest ih =>
    rw [List.flatMap_cons]
    cases rest with
    | nil => exact congrArg (separator :: ·) (List.append_nil part)
    | cons next rest =>
      rw [ih (List.cons_ne_nil _ _)]
      rfl

end Text

namespace Topic

/-- What stands between the slashes of a text, where that is not empty. -/
def names (s : List Char) : List (List Char) := (s.splitOn '/').filter (· ≠ [])

/-- What may stand between two slashes of a normal path. -/
structure IsName (part : List Char) : Prop where
  nonempty : part ≠ []
  slashless : '/' ∉ part

/-- A path that begins with a slash, has no two slashes in a row and does not end in a slash, unless
it is a slash alone. -/
structure IsNormal (path : List Char) : Prop where
  rooted : ['/'] <+: path
  single : ¬ ['/', '/'] <:+: path
  closed : ['/'] <:+ path → path = ['/']

variable {s t path part : List Char} {parts : List (List Char)}

/-! ## Names -/

theorem segments_eq_names (s : List Char) : segments s = names s := by
  rw [segments, names, Text.split_eq_splitOn]
  apply List.filter_congr
  intro part _
  cases part <;> rfl

theorem slash_not_mem_of_mem_splitOn (h : part ∈ s.splitOn '/') : '/' ∉ part :=
  Text.not_mem_of_mem_split (Text.split_eq_splitOn '/' s ▸ h)

theorem isName_of_mem_names (h : part ∈ names s) : IsName part := by
  obtain ⟨hmem, hne⟩ := List.mem_filter.mp h
  exact ⟨of_decide_eq_true hne, slash_not_mem_of_mem_splitOn hmem⟩

/-- A slash in front of every part cuts a text into these parts, behind an empty one. -/
theorem splitOn_flatMap_slash (h : ∀ part ∈ parts, '/' ∉ part) :
    (parts.flatMap ('/' :: ·)).splitOn '/' = [] :: parts := by
  induction parts using List.reverseRecOn with
  | nil => rfl
  | append_singleton parts part ih =>
    obtain ⟨hparts, hpart⟩ := List.forall_mem_append.mp h
    rw [List.flatMap_append, List.flatMap_singleton, List.splitOn_append_cons_self, ih hparts,
      List.splitOn_eq_singleton (hpart part (List.mem_singleton_self part))]
    rfl

theorem join_of_ne_nil (h : parts ≠ []) : join parts = parts.flatMap ('/' :: ·) := by
  cases parts with
  | nil => exact absurd rfl h
  | cons part rest => rfl

/-- A path that is put together from names has these names. -/
theorem names_join (h : ∀ part ∈ parts, IsName part) : names (join parts) = parts := by
  rcases eq_or_ne parts [] with rfl | hne
  · rfl
  · rw [names, join_of_ne_nil hne, splitOn_flatMap_slash fun part hp => (h part hp).slashless,
      List.filter_cons_of_neg (by simp), List.filter_eq_self]
    intro part hp
    exact decide_eq_true (h part hp).nonempty

/-! ## Normal paths -/

/-- An empty part behind a slash is not the first part. -/
theorem nil_mem_of_splitOn (h : (s ++ '/' :: t).splitOn '/' = [] :: parts)
    (ht : [] ∈ t.splitOn '/') : [] ∈ parts := by
  obtain ⟨first, more, hs⟩ := List.exists_cons_of_ne_nil (List.splitOn_ne_nil '/' s)
  rw [List.splitOn_append_cons_self, hs, List.cons_append] at h
  rw [← (List.cons.inj h).2]
  exact List.mem_append_right more ht

theorem isNormal_join (h : ∀ part ∈ parts, IsName part) : IsNormal (join parts) := by
  rcases eq_or_ne parts [] with rfl | hne
  · exact ⟨List.prefix_rfl, by decide, fun _ => rfl⟩
  · rw [join_of_ne_nil hne]
    have hsplit := splitOn_flatMap_slash fun part hp => (h part hp).slashless
    have hnil : [] ∉ parts := fun hmem => (h [] hmem).nonempty rfl
    refine ⟨?_, ?_, ?_⟩
    · rw [Text.flatMap_separator hne]
      exact List.prefix_append _ _
    -- Two slashes in a row have an empty part between them, and a slash at the end has one behind it.
    · rintro ⟨s, t, hst⟩
      rw [← hst, List.append_assoc] at hsplit
      apply hnil
      apply nil_mem_of_splitOn hsplit
      show [] ∈ ([] ++ '/' :: t).splitOn '/'
      rw [List.splitOn_append_cons_self]
      exact List.mem_cons_self
    · rintro ⟨s, hs⟩
      rw [← hs] at hsplit
      exact absurd (nil_mem_of_splitOn hsplit List.mem_cons_self) hnil

/-- A text behind a slash is its parts, each behind a slash. -/
theorem flatMap_splitOn (s : List Char) : (s.splitOn '/').flatMap ('/' :: ·) = '/' :: s := by
  rw [← Text.split_eq_splitOn, Text.flatMap_separator (Text.split_ne_nil '/' s), Text.join_split]

/-- The parts of a normal path behind its first slash are names, unless it is a slash alone. -/
theorem IsNormal.isName_of_mem (h : IsNormal ('/' :: s)) (hs : s ≠ [])
    (hpart : part ∈ s.splitOn '/') : IsName part := by
  refine ⟨?_, slash_not_mem_of_mem_splitOn hpart⟩
  rintro rfl
  obtain ⟨before, after, hsplit⟩ := List.append_of_mem hpart
  have hpath : before.flatMap ('/' :: ·) ++ '/' :: after.flatMap ('/' :: ·) = '/' :: s := by
    rw [← flatMap_splitOn s, hsplit, List.flatMap_append, List.flatMap_cons]
    rfl
  cases after with
  | nil => exact hs (List.cons.inj (h.closed ⟨_, hpath⟩)).2
  | cons next rest =>
    apply h.single
    refine ⟨before.flatMap ('/' :: ·), next ++ rest.flatMap ('/' :: ·), ?_⟩
    rw [← hpath, List.append_assoc]
    rfl

/-- The normal paths are those that are put together from names. -/
theorem isNormal_iff : IsNormal path ↔ ∃ parts, (∀ part ∈ parts, IsName part) ∧ path = join parts := by
  constructor
  · intro h
    obtain ⟨s, rfl⟩ := h.rooted
    by_cases hs : s = []
    · exact ⟨[], nofun, by rw [hs]; rfl⟩
    · refine ⟨s.splitOn '/', fun part hp => h.isName_of_mem hs hp, ?_⟩
      rw [join_of_ne_nil (List.splitOn_ne_nil '/' s), flatMap_splitOn]
      rfl
  · rintro ⟨parts, hparts, rfl⟩
    exact isNormal_join hparts

/-- A normal path is put together from its own names. -/
theorem IsNormal.join_names (h : IsNormal path) : join (names path) = path := by
  obtain ⟨parts, hparts, rfl⟩ := isNormal_iff.mp h
  rw [names_join hparts]

end Topic

/-! ## The path of a topic -/

theorem toList_entityPath (topic : String) :
    (entityPath topic).toList = Topic.join (Topic.names topic.toList) := by
  rw [entityPath, String.toList_ofList, Topic.segments_eq_names]

theorem isNormal_entityPath (topic : String) : Topic.IsNormal (entityPath topic).toList := by
  rw [toList_entityPath]
  exact Topic.isNormal_join fun _ => Topic.isName_of_mem_names

theorem names_entityPath (topic : String) :
    Topic.names (entityPath topic).toList = Topic.names topic.toList := by
  rw [toList_entityPath]
  exact Topic.names_join fun _ => Topic.isName_of_mem_names

/-- There is no other normal path of the same names. -/
theorem eq_entityPath {path topic : String} (hpath : Topic.IsNormal path.toList)
    (hnames : Topic.names path.toList = Topic.names topic.toList) : path = entityPath topic := by
  rw [← String.toList_inj, toList_entityPath, ← hnames, hpath.join_names]

/-- The path of a topic begins with a slash, has no two slashes in a row and ends in a slash only if
it is one. Its names are those of the topic, in the same order. It is its own path, two topics have
one path exactly if they have the same names, and of all normal paths it is the only one of these
names. -/
theorem entityPath_normalForm (topic : String) :
    Topic.IsNormal (entityPath topic).toList ∧
      Topic.names (entityPath topic).toList = Topic.names topic.toList ∧
      entityPath (entityPath topic) = entityPath topic ∧
      (∀ other, entityPath topic = entityPath other ↔
        Topic.names topic.toList = Topic.names other.toList) ∧
      ∀ path : String, path = entityPath topic ↔
        Topic.IsNormal path.toList ∧ Topic.names path.toList = Topic.names topic.toList := by
  refine ⟨isNormal_entityPath topic, names_entityPath topic, ?_, ?_, ?_⟩
  · exact (eq_entityPath (isNormal_entityPath topic) rfl).symm
  · intro other
    constructor
    · intro h
      rw [← names_entityPath topic, h, names_entityPath]
    · intro h
      exact eq_entityPath (isNormal_entityPath topic) ((names_entityPath topic).trans h)
  · intro path
    constructor
    · rintro rfl
      exact ⟨isNormal_entityPath topic, names_entityPath topic⟩
    · rintro ⟨hpath, hnames⟩
      exact eq_entityPath hpath hnames

example : entityPath "camera//image/" = "/camera/image" := by decide

end FrameChunks
