import FrameChunks.Proofs.Loader.Policies
import FrameChunks.Settings.Check

/-!
# Timelines as long as the rows

A loader puts the times at which messages were recorded and sent on timelines of its own, and the
parser puts the stamps on the timeline of its settings. If these are three timelines, every one of
them has one time for each row. The settings may also name a timeline of the loader: then it gets
two times for each row, and nothing comes of the channel once there is a row.

## Main definitions

* `Reserved`: a timeline of the loader
* `timelinesOf`: the timelines of messages that have rows

## Main results

* `Loader.load_skip_aligned`: the chunks have one time for each row on every timeline, exactly if
  the timeline of the stamps is not one of the loader or there are no rows
-/

namespace FrameChunks

open Image Column

/-- A timeline on which a loader puts times itself. -/
def Reserved (timeline : String) : Prop :=
  timeline = Context.logTime ∨ timeline = Context.publishTime

/-- The timelines of messages that have rows, with one time for each message. There are none without
messages. -/
def timelinesOf (timeline : String) : List Taken → List (String × List Int)
  | [] => []
  | taken =>
    [(timeline, taken.map fun e => e.row.frame.timestamp),
      (Context.logTime, taken.map fun e => e.message.logTime),
      (Context.publishTime, taken.map fun e => e.message.publishTime)]

theorem length_timelinesOf (timeline : String) (taken : List Taken) :
    ∀ e ∈ timelinesOf timeline taken, e.2.length = taken.length := by
  intro e he
  rcases taken with _ | ⟨first, rest⟩
  · nomatch he
  · simp only [timelinesOf, List.mem_cons, List.not_mem_nil, or_false] at he
    rcases he with rfl | rfl | rfl <;> exact List.length_map _

theorem mem_takenOf_iff {messages : List Message} {e : Taken} :
    e ∈ takenOf messages ↔ e.message ∈ messages ∧ e.message.row? = some e.row := by
  rw [takenOf, List.mem_filterMap]
  constructor
  · rintro ⟨m, hm, he⟩
    obtain ⟨r, hr, rfl⟩ := Option.map_eq_some_iff.mp he
    exact ⟨hm, hr⟩
  · rintro ⟨hm, hr⟩
    exact ⟨e.message, hm, by rw [hr]; rfl⟩

/-! ## The times of one message -/

namespace Taken

variable {timeline : String} (e : Taken)

theorem times_stamp (h : ¬ Reserved timeline) :
    timesIn timeline (e.cells timeline) = [e.row.frame.timestamp] := by
  obtain ⟨hlog, hpublish⟩ := not_or.mp h
  rw [cells, timesIn_cons_self, timesIn_cons_of_ne (Ne.symm hlog),
    timesIn_cons_of_ne (Ne.symm hpublish)]
  rfl

theorem times_logTime (h : ¬ Reserved timeline) :
    timesIn Context.logTime (e.cells timeline) = [e.message.logTime] := by
  rw [cells, timesIn_cons_of_ne (not_or.mp h).1, timesIn_cons_self,
    timesIn_cons_of_ne (by decide)]
  rfl

theorem times_publishTime (h : ¬ Reserved timeline) :
    timesIn Context.publishTime (e.cells timeline) = [e.message.publishTime] := by
  rw [cells, timesIn_cons_of_ne (not_or.mp h).2, timesIn_cons_of_ne (by decide),
    timesIn_cons_self]
  rfl

/-- The stamp is not alone on a timeline of the loader. -/
theorem length_times_of_reserved (h : Reserved timeline) :
    (timesIn timeline (e.cells timeline)).length = 2 := by
  rcases h with rfl | rfl
  · rw [cells, timesIn_cons_self, timesIn_cons_self, timesIn_cons_of_ne (by decide)]
    rfl
  · rw [cells, timesIn_cons_self, timesIn_cons_of_ne (by decide), timesIn_cons_self]
    rfl

end Taken

/-! ## The times of all messages -/

section Times

variable {timeline name : String} {taken : List Taken}

theorem timesIn_cellsOf_of_single {f : Taken → Int}
    (h : ∀ e : Taken, timesIn name (e.cells timeline) = [f e]) (taken : List Taken) :
    timesIn name (cellsOf timeline taken) = taken.map f := by
  rw [cellsOf, timesIn_flatMap, List.map_eq_flatMap]
  simp only [h]

theorem length_timesIn_of_reserved (h : Reserved timeline) (taken : List Taken) :
    (timesIn timeline (cellsOf timeline taken)).length = 2 * taken.length := by
  rw [cellsOf, timesIn_flatMap, List.length_flatMap]
  simp [Taken.length_times_of_reserved _ h, Nat.mul_comm]

theorem times_contextOf (path timeline : String) (taken : List Taken) (name : String) :
    (contextOf path timeline taken).times name = timesIn name (cellsOf timeline taken) :=
  Context.times_addCells _ _ _

/-- The first message brings three timelines, and the other messages bring none. -/
theorem keys_contextOf (h : ¬ Reserved timeline) (path : String) (e : Taken) (rest : List Taken) :
    (contextOf path timeline (e :: rest)).cells.keys =
      [timeline, Context.logTime, Context.publishTime] := by
  have hnodup : [timeline, Context.logTime, Context.publishTime].Nodup := by
    refine List.nodup_cons.mpr ⟨?_, by decide⟩
    rw [List.mem_pair]
    exact h
  have hfirst : ((⟨path, .empty⟩ : Context).addCells (e.cells timeline)).cells.keys =
      [timeline, Context.logTime, Context.publishTime] :=
    Context.keys_addCells_of_nodup hnodup
  have hrest : ∀ cell ∈ cellsOf timeline rest,
      cell.1 ∈ ((⟨path, .empty⟩ : Context).addCells (e.cells timeline)).cells.keys := by
    intro cell hc
    obtain ⟨e', -, hc⟩ := List.mem_flatMap.mp hc
    rw [hfirst]
    exact List.mem_map_of_mem hc
  rw [contextOf, cellsOf, List.flatMap_cons, Context.addCells_append, ← cellsOf,
    Context.keys_addCells_of_subset hrest, hfirst]

/-- On a timeline that is not one of the loader, the stamps are alone. -/
theorem entries_contextOf (hfree : ¬ (Reserved timeline ∧ taken ≠ [])) (path : String) :
    (contextOf path timeline taken).cells.entries = timelinesOf timeline taken := by
  rcases taken with _ | ⟨e, rest⟩
  · rfl
  · have h : ¬ Reserved timeline := fun hr => hfree ⟨hr, List.cons_ne_nil e rest⟩
    rw [Context.entries_cells, keys_contextOf h]
    simp only [List.map_cons, List.map_nil, times_contextOf,
      timesIn_cellsOf_of_single fun e => e.times_stamp h,
      timesIn_cellsOf_of_single fun e => e.times_logTime h,
      timesIn_cellsOf_of_single fun e => e.times_publishTime h]
    rfl

/-- A timeline of the loader that also has the stamps is too long. -/
theorem mem_entries_of_reserved (h : Reserved timeline) (path : String) (hne : taken ≠ []) :
    ∃ e ∈ (contextOf path timeline taken).cells.entries,
      e.1 = timeline ∧ e.2.length = 2 * taken.length := by
  have hlength := length_timesIn_of_reserved h taken
  rw [← times_contextOf path] at hlength
  refine ⟨_, Context.mem_entries_of_times_ne_nil ?_, rfl, hlength⟩
  intro hnil
  rw [hnil, List.length_nil] at hlength
  have hpos := List.length_pos_iff.mpr hne
  omega

/-- All times fit if those at which messages were recorded and sent do. -/
theorem fits_contextOf {messages : List Message} (path timeline : String)
    (h : ∀ m ∈ messages, m.Timed) :
    (contextOf path timeline (takenOf messages)).Fits := by
  refine Context.fits_addCells_iff.mpr ⟨List.forall_mem_nil _, ?_⟩
  intro cell hc
  obtain ⟨e, he, hc⟩ := List.mem_flatMap.mp hc
  obtain ⟨hm, hr⟩ := mem_takenOf_iff.mp he
  obtain ⟨payload, -, hd, -⟩ := Message.row?_eq_some_iff.mp hr
  have htimed := h e.message hm
  simp only [Taken.cells, List.mem_cons, List.not_mem_nil, or_false] at hc
  -- A stamp fits because it was decoded; of the other times it is assumed.
  rcases hc with rfl | rfl | rfl
  · exact IntegerType.holds_int64_iff.mpr (Frame.timestamp_bounds_of_decode hd)
  · exact htimed.logTime
  · exact htimed.publishTime

end Times

namespace Loader

variable {l : Loader} {channel : Channel} {plugin : Plugin} {messages : List Message}
  {hint : Option Int} {counted : Bool}

/-- The chunks of a channel whose stamps have a timeline for themselves, or that has no rows: on
every timeline there is one time for each row. -/
theorem load_of_not_reserved (hr : l.registry.get? channel.schema = some plugin)
    (hn : 0 ≤ l.expectedRows hint messages counted) (h : l.Tolerates messages)
    (ht : ∀ m ∈ messages, m.Timed)
    (hfree : ¬ (Reserved plugin.settings.timestampTimeline ∧ takenOf messages ≠ []))
    (s : State) : ∃ images metadata t,
      l.load channel messages hint counted s = .ok [images, metadata] t ∧
      (images.length = (takenOf messages).length ∧
        metadata.length = (takenOf messages).length) ∧
      images.timelines.entries =
        timelinesOf plugin.settings.timestampTimeline (takenOf messages) ∧
      metadata.timelines.entries =
        timelinesOf plugin.settings.timestampTimeline (takenOf messages) := by
  have hfits := fits_contextOf (entityPath channel.topic) plugin.settings.timestampTimeline ht
  have hentries := entries_contextOf hfree (entityPath channel.topic)
  have hlengths := length_timelinesOf plugin.settings.timestampTimeline (takenOf messages)
  rw [← hentries, ← List.length_map Taken.row] at hlengths
  have houtcome := outcome_load hr hn h s
  rw [result, if_pos hfits, if_pos hlengths] at houtcome
  obtain ⟨t, hload⟩ := outcome_fst_eq_ok_iff.mp (congrArg Prod.fst houtcome)
  refine ⟨_, _, t, hload, ⟨?_, ?_⟩, hentries, hentries⟩
  · exact List.length_range'.trans (List.length_map _)
  · exact List.length_range'.trans (List.length_map _)

/-- Nothing comes of a channel with rows whose stamps go to a timeline of the loader. -/
theorem load_of_reserved (hr : l.registry.get? channel.schema = some plugin)
    (hn : 0 ≤ l.expectedRows hint messages counted) (h : l.Tolerates messages)
    (ht : ∀ m ∈ messages, m.Timed)
    (hreserved : Reserved plugin.settings.timestampTimeline) (hne : takenOf messages ≠ [])
    (s : State) : ∃ lengths t, l.load channel messages hint counted s =
        .error (.plugin (.batch (.lengthMismatch (entityPath channel.topic) lengths))) t ∧
      (Chunk.timelineLabel plugin.settings.timestampTimeline, 2 * (takenOf messages).length) ∈
        lengths := by
  have hfits := fits_contextOf (entityPath channel.topic) plugin.settings.timestampTimeline ht
  obtain ⟨e, he, hname, hlength⟩ := mem_entries_of_reserved hreserved (entityPath channel.topic) hne
  have hpos := List.length_pos_iff.mpr hne
  have houtcome := outcome_load hr hn h s
  rw [result, if_pos hfits, if_neg] at houtcome
  · obtain ⟨t, hload⟩ := outcome_fst_eq_error_iff.mp (congrArg Prod.fst houtcome)
    rw [contextOf, Context.entityPath_addCells] at hload
    exact ⟨_, t, hload, Chunk.mem_lengths.mpr (.inl ⟨e, he, by rw [hname], hlength⟩)⟩
  · -- The timeline is twice as long as the rows, and there are rows.
    intro hall
    have hrows := hall e he
    rw [List.length_map] at hrows
    omega

/-- A loader that passes over what is refused gives chunks for every channel that it knows, with one
time for each row on every timeline, unless the stamps go to a timeline of the loader and there are
rows. Then it gives none: that timeline has two times for each row. -/
theorem load_skip_aligned {registry : Registry} {rows : Int}
    (hr : registry.get? channel.schema = some plugin) (hp : ∀ m ∈ messages, m.payload ≠ none)
    (ht : ∀ m ∈ messages, m.Timed)
    (hn : 0 ≤ expectedRows ⟨registry, .skip, rows⟩ hint messages counted) (s : State) :
    let timeline := plugin.settings.timestampTimeline
    let taken := takenOf messages
    let loaded := load ⟨registry, .skip, rows⟩ channel messages hint counted s
    (¬ (Reserved timeline ∧ taken ≠ []) → ∃ images metadata t,
        loaded = .ok [images, metadata] t ∧
        (images.length = taken.length ∧ metadata.length = taken.length) ∧
        images.timelines.entries = timelinesOf timeline taken ∧
        metadata.timelines.entries = timelinesOf timeline taken) ∧
      (Reserved timeline ∧ taken ≠ [] → ∃ lengths t,
        loaded = .error (.plugin (.batch (.lengthMismatch (entityPath channel.topic) lengths))) t ∧
        (Chunk.timelineLabel timeline, 2 * taken.length) ∈ lengths) := by
  have h : Tolerates ⟨registry, .skip, rows⟩ messages := tolerates_of_skip rfl hp
  constructor
  · intro hfree
    exact load_of_not_reserved hr hn h ht hfree s
  · rintro ⟨hreserved, hne⟩
    exact load_of_reserved hr hn h ht hreserved hne s

theorem takenOf_pixelMessages : takenOf pixelMessages =
    [⟨⟨⟨"cam", schemaName⟩, 0, 5, 6, some pixelPayload⟩, pixelFrame, ⟨1, 1, .color .l .u8⟩⟩] := by
  have hempty : Message.row? ⟨⟨"cam", schemaName⟩, 0, 5, 6, some []⟩ = none := by decide
  rw [pixelMessages, takenOf_cons_of_no_row hempty,
    takenOf_cons_of_row (Message.row?_of_pixelPayload rfl)]
  rfl

theorem timed_pixelMessages : ∀ m ∈ pixelMessages, m.Timed := by
  simp only [pixelMessages, List.mem_cons, List.not_mem_nil, or_false]
  rintro m (rfl | rfl) <;> exact ⟨by decide, by decide⟩

/-- The message that has a row has one time on each of three timelines. -/
theorem load_skip_aligned_pixelMessages : ∃ images metadata t,
    load ⟨.standard {}, .skip, 0⟩ ⟨"cam", schemaName⟩ pixelMessages none true ⟨{}, {}⟩ =
        .ok [images, metadata] t ∧
      images.timelines.entries = [("timestamp", [5]), ("log_time", [5]), ("publish_time", [6])] ∧
      metadata.timelines = images.timelines := by
  have hr : (Registry.standard {}).get? (⟨"cam", schemaName⟩ : Channel).schema = some {} := by
    decide
  have hn : 0 ≤ expectedRows ⟨.standard {}, .skip, 0⟩ none pixelMessages true := by decide
  have hfree : ¬ (Reserved "timestamp" ∧ takenOf pixelMessages ≠ []) := by
    rintro ⟨h | h, -⟩ <;> exact absurd h (by decide)
  obtain ⟨images, metadata, t, hload, -, himages, hmetadata⟩ :=
    (load_skip_aligned hr payload_pixelMessages timed_pixelMessages hn ⟨{}, {}⟩).1 hfree
  refine ⟨images, metadata, t, hload, ?_, Keyed.ext (hmetadata.trans himages.symm)⟩
  rw [himages, takenOf_pixelMessages]
  rfl

/-- The settings may name the timeline `log_time`. Then the message that has a row has two times on
it, and there are no chunks. -/
theorem load_logTimeSettings : ∃ settings lengths t,
    Settings.Check.parser [] (.mapping [(.text "timestamp_timeline", .text "log_time")]) =
        .ok settings ∧
      load ⟨.standard settings, .skip, 0⟩ ⟨"cam", schemaName⟩ pixelMessages none true ⟨{}, {}⟩ =
        .error (.plugin (.batch (.lengthMismatch "/cam" lengths))) t := by
  let settings : ParserSettings := { timestampTimeline := "log_time" }
  have hr : (Registry.standard settings).get? (⟨"cam", schemaName⟩ : Channel).schema =
      some { settings } := by
    decide
  have hn : 0 ≤ expectedRows ⟨.standard settings, .skip, 0⟩ none pixelMessages true := by decide
  have hne : takenOf pixelMessages ≠ [] := by
    rw [takenOf_pixelMessages]
    exact List.cons_ne_nil _ _
  obtain ⟨lengths, t, hload, -⟩ := load_of_reserved hr hn
    (tolerates_of_skip rfl payload_pixelMessages) timed_pixelMessages (.inl rfl) hne ⟨{}, {}⟩
  exact ⟨settings, lengths, t, rfl, hload⟩

end Loader

end FrameChunks
