import FrameChunks.Log.Record
import FrameChunks.Proofs.Steps
import FrameChunks.Proofs.Text.Json

/-!
# Records as JSON

A record whose time and message have texts is written as an object of texts. The object stands on one
line, in printable characters of ASCII, and the texts can be read back from it.

## Main definitions

* `Record.patternOf`: the pattern that a time is written by

## Main results

* `Record.exists_time_iff`, `Record.exists_message_iff`: when time and message have texts
* `Record.entry_eq_ok_iff`: when a record has texts, and which
* `json_faithful`: what is written for records, and what is read back
-/

namespace FrameChunks.Log

open Steps Text

theorem Moment.exists_format_iff {m : Moment} {pattern : String} :
    (∃ s, m.format pattern = .ok s) ↔ '\x00' ∉ pattern.toList := by
  rw [format]
  split
  · next h => simp [h]
  · next h => simp [h]

namespace Record

variable {r : Record} {pattern : Option String}

/-- The pattern that a time is written by. -/
def patternOf (pattern : Option String) : String :=
  (pattern.filter (· ≠ "")).getD usualPattern

/-- The usual pattern does not hold the character that ends patterns. -/
theorem mem_patternOf_iff :
    '\x00' ∈ (patternOf pattern).toList ↔ ∃ p ∈ pattern, '\x00' ∈ p.toList := by
  rw [patternOf]
  rcases pattern with _ | p
  · simp [usualPattern]
  · by_cases hp : p = ""
    · simp [hp, Option.filter_some, usualPattern]
    · simp [hp, Option.filter_some]

/-- A time has a text if it lies in the calendar and its pattern is not cut. -/
theorem exists_time_iff : (∃ s, r.time pattern = .ok s) ↔
    (∃ m, Moment.ofSeconds r.created = .ok m) ∧ ¬ ∃ p ∈ pattern, '\x00' ∈ p.toList := by
  have htime : (∃ s, r.time pattern = .ok s) ↔
      ∃ m, Moment.ofSeconds r.created = .ok m ∧ ∃ s, m.format (patternOf pattern) = .ok s := by
    rcases hp : pattern.filter (· ≠ "") with _ | p
    · simp only [time, patternOf, hp, except_bind_eq_ok_iff, mapError_eq_ok_iff, Option.getD_none]
      constructor
      · rintro ⟨_, m, hm, s, hs, -⟩
        exact ⟨m, hm, s, hs⟩
      · rintro ⟨m, hm, s, hs⟩
        exact ⟨_, m, hm, s, hs, rfl⟩
    · simp only [time, patternOf, hp, except_bind_eq_ok_iff, mapError_eq_ok_iff, Option.getD_some]
      constructor
      · rintro ⟨s, m, hm, hs⟩
        exact ⟨m, hm, s, hs⟩
      · rintro ⟨m, hm, s, hs⟩
        exact ⟨s, m, hm, hs⟩
  rw [htime]
  simp only [Moment.exists_format_iff, mem_patternOf_iff]
  exact exists_and_right

/-- A message has a text if it takes no arguments, or they fill its places. -/
theorem exists_message_iff : (∃ s, r.message = .ok s) ↔
    r.arguments = [] ∨ ∃ s, Template.fill r.template r.arguments = .ok s := by
  rw [message]
  split
  · next h => exact iff_of_true ⟨_, rfl⟩ (.inl (List.isEmpty_iff.mp h))
  · next h =>
    rw [List.isEmpty_iff] at h
    simp only [mapError_eq_ok_iff, or_iff_right h]

theorem entry_eq_ok_iff {e : Entry} :
    r.entry pattern = .ok e ↔ r.time pattern = .ok e.time ∧ r.message = .ok e.message ∧
      e.level = r.severity.name ∧ e.logger = r.name ∧ e.error = r.errorText? := by
  rw [entry, except_bind_eq_ok_iff]
  simp only [except_bind_eq_ok_iff]
  constructor
  · rintro ⟨time, htime, message, hmessage, h⟩
    obtain rfl := Except.ok.inj h
    exact ⟨htime, hmessage, rfl, rfl, rfl⟩
  · rintro ⟨htime, hmessage, hlevel, hlogger, herror⟩
    refine ⟨e.time, htime, e.message, hmessage, ?_⟩
    rw [← hlevel, ← hlogger, ← herror]
    rfl

theorem exists_entry_iff : (∃ e, r.entry pattern = .ok e) ↔
    (∃ s, r.time pattern = .ok s) ∧ ∃ s, r.message = .ok s := by
  simp only [entry_eq_ok_iff]
  constructor
  · rintro ⟨e, htime, hmessage, -⟩
    exact ⟨⟨_, htime⟩, ⟨_, hmessage⟩⟩
  · rintro ⟨⟨time, htime⟩, ⟨message, hmessage⟩⟩
    exact ⟨⟨time, _, _, message, _⟩, htime, hmessage, rfl, rfl, rfl⟩

end Record

theorem Entry.json_eq (e : Entry) : e.json = (Json.ofTexts e.fields).text := rfl

/-- Whatever the texts of a record are, they are written in printable characters of ASCII, so that no
line ends among them, and reading gives an object with the same texts. A record has texts if its time
lies in the calendar, its pattern is not cut and its message has its arguments, if it takes any; the
level, the logger and the message are those of the record. -/
theorem json_faithful :
    (∀ e : Entry, (∀ c ∈ e.json.toList, ' ' ≤ c ∧ c ≤ '~') ∧
      Json.read? e.json = some (.obj ([("time", .str e.time), ("level", .str e.level),
        ("logger", .str e.logger), ("message", .str e.message)] ++
          (e.error.map fun error => ("exc_info", .str error)).toList))) ∧
    ∀ (r : Record) (pattern : Option String),
      ((∃ e, r.entry pattern = .ok e) ↔
        ((∃ m, Moment.ofSeconds r.created = .ok m) ∧ ¬ ∃ p ∈ pattern, '\x00' ∈ p.toList) ∧
          (r.arguments = [] ∨ ∃ s, Template.fill r.template r.arguments = .ok s)) ∧
      ∀ e, r.entry pattern = .ok e ↔
        r.time pattern = .ok e.time ∧ r.message = .ok e.message ∧
          e.level = r.severity.name ∧ e.logger = r.name ∧ e.error = r.errorText? := by
  refine ⟨fun e => ⟨?_, ?_⟩, fun r pattern => ⟨?_, fun e => Record.entry_eq_ok_iff⟩⟩
  · intro c hc
    have hplain := Json.isPlain_of_mem_ofTexts hc
    simpa [JsonQuoted.isPlain] using hplain
  · rw [Entry.json_eq, Json.read?_ofTexts, Json.ofTexts, Entry.fields]
    cases e.error with
    | none => rfl
    | some error => rfl
  · rw [Record.exists_entry_iff, Record.exists_time_iff, Record.exists_message_iff]

end FrameChunks.Log
