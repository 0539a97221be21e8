import FrameChunks.Proofs.Loader.Endings
import FrameChunks.Proofs.Parser.Reachable

/-!
# Row ids

All chunks of a process have their row ids from one count: those that are built directly, those of
parsers and those of loaders. Whatever is asked of the process, and whether it succeeds or not, the
row ids of the chunks are the natural numbers in their order, without a gap and without an overlap.

A chunk has as many row ids as its timelines and its compared columns have rows. A request that
succeeds takes those of its chunks, and one that fails takes none. What has to be seen for that is
that a parser, once it has built the chunk of its images, builds that of its metadata too:
`Parser.Stores.finalizes`.

## Main definitions

* `Process`, `Request`: what is shared, with the parsers that were made, and what can be asked
* `Process.perform`, `Process.run`: one request, and several
* `Session.Allots`: the row ids of chunks are those by which the count goes on, one for each row

## Main results

* `Process.perform_allots`: one request
* `Process.run_allots`: any requests
* `Process.run_rowIds`: the row ids of a new process
-/

namespace FrameChunks

open Steps

/-! ## Processes -/

/-- What the channels of a process share, and the parsers that were made in it. -/
structure Process where
  session : Session
  parsers : List Parser := []

/-- What can be asked of a process. A parser is named by its place among the parsers, and goes to
work with any context. -/
inductive Request
  /-- Time passes. -/
  | wait (clock : Int)
  /-- A chunk of the given timelines and columns. -/
  | build (id : ChunkId) (entityPath : String) (timelines : Timelines) (components : Components)
  | create (timeline : String) (logEvery capacity : Int) (ids : IdSource)
  | append (place : Nat) (context : Context) (message : Message)
  | finalize (place : Nat) (context : Context)
  /-- A channel for a loader that has counted so far what `metrics` says. -/
  | load (loader : Loader) (metrics : Metrics) (channel : Channel) (messages : List Message)
    (hint : Option Int) (counted : Bool)

namespace Process

/-- A process that has done nothing. -/
def start (counter : ChunkId.Counter) (clock : Int) : Process := { session := { counter, clock } }

/-- A step of one of the parsers. Nothing is done if there is no parser at that place. -/
def onParser (q : Process) (place : Nat) (context : Context) (step : Step (List Chunk)) :
    Except Failure (List Chunk) × Process :=
  match q.parsers[place]? with
  | none => (.ok [], q)
  | some p =>
    match step ⟨p, context, q.session⟩ with
    | .ok chunks t => (.ok chunks, ⟨t.session, q.parsers.set place t.parser⟩)
    | .error e t => (.error e, ⟨t.session, q.parsers.set place t.parser⟩)

/-- What comes of a request, and the process afterwards. -/
def perform (q : Process) : Request → Except Failure (List Chunk) × Process
  | .wait clock => (.ok [], { q with session := { q.session with clock } })
  | .build id entityPath timelines components =>
    match Chunk.build q.session id entityPath timelines components with
    | .ok (chunk, session) => (.ok [chunk], { q with session })
    | .error e => (.error (.plugin (.batch e)), q)
  | .create timeline logEvery capacity ids =>
    match Parser.create timeline logEvery capacity ids with
    | .ok p => (.ok [], { q with parsers := q.parsers ++ [p] })
    | .error e => (.error (.builder e), q)
  | .append place context m => q.onParser place context ((fun _ => []) <$> Parser.append m)
  | .finalize place context => q.onParser place context Parser.finalize
  | .load loader metrics channel messages hint counted =>
    match loader.load channel messages hint counted ⟨metrics, q.session⟩ with
    | .ok chunks t => (.ok chunks, { q with session := t.session })
    | .error e t => (.error e, { q with session := t.session })

/-- The chunks that were built; there are none after a failure. -/
def built : Except Failure (List Chunk) → List Chunk
  | .ok chunks => chunks
  | .error _ => []

/-- The chunks of several requests, and the process afterwards. -/
def run (q : Process) : List Request → List Chunk × Process
  | [] => ([], q)
  | r :: rest =>
    let (chunks, q') := run (q.perform r).2 rest
    (built (q.perform r).1 ++ chunks, q')

end Process

/-! ## Row ids of chunks -/

/-- The count of row ids goes on from `s` to `t` by those of the chunks, and a chunk has as many of
them as its timelines and its compared columns have rows. -/
structure Session.Allots (s : Session) (chunks : List Chunk) (t : Session) : Prop where
  rows : ∀ c ∈ chunks, Chunk.Agree c.timelines c.components c.rowIds.length
  count : ∃ n, t.nextRow = s.nextRow + n ∧ chunks.flatMap Chunk.rowIds = List.range' s.nextRow n

namespace Session

variable {s t u : Session} {chunks more : List Chunk}

theorem allots_nil_iff : s.Allots [] t ↔ t.nextRow = s.nextRow := by
  constructor
  · rintro ⟨-, n, hn, hids⟩
    obtain rfl : n = 0 := by simpa using hids
    exact hn
  · intro h
    exact ⟨List.forall_mem_nil _, 0, h, rfl⟩

theorem Noted.allots (h : s.Noted t) : s.Allots [] t := allots_nil_iff.mpr h.nextRow

theorem Allots.trans (h : s.Allots chunks t) (h' : t.Allots more u) :
    s.Allots (chunks ++ more) u := by
  obtain ⟨hrows, m, hm, hids⟩ := h
  obtain ⟨hrows', n, hn, hids'⟩ := h'
  refine ⟨List.forall_mem_append.mpr ⟨hrows, hrows'⟩, m + n, by rw [hn, hm, Nat.add_assoc], ?_⟩
  rw [List.flatMap_append, hids, hids', hm, List.range'_append_1]

theorem Allots.nextRow (h : s.Allots chunks t) :
    t.nextRow = s.nextRow + (chunks.map Chunk.length).sum := by
  obtain ⟨n, hn, hids⟩ := h.count
  have hlength := congrArg List.length hids
  rw [List.length_flatMap, List.length_range'] at hlength
  rw [hn, ← hlength]
  rfl

theorem Allots.rowIds (h : s.Allots chunks t) :
    chunks.flatMap Chunk.rowIds = List.range' s.nextRow (chunks.map Chunk.length).sum := by
  have hnext := h.nextRow
  obtain ⟨n, hn, hids⟩ := h.count
  obtain rfl : n = (chunks.map Chunk.length).sum := by omega
  exact hids

end Session

theorem Chunk.allots_of_build {s t : Session} {id : ChunkId} {entityPath : String}
    {timelines : Timelines} {components : Components} {chunk : Chunk}
    (h : build s id entityPath timelines components = .ok (chunk, t)) : s.Allots [chunk] t := by
  by_cases ha : ∃ n, Agree timelines components n
  · obtain ⟨n, ha⟩ := ha
    have hbuild := build_of_agree s id entityPath ha
    obtain ⟨rfl, rfl⟩ := Prod.mk.inj (Except.ok.inj (hbuild.symm.trans h))
    refine ⟨?_, n, rfl, List.append_nil _⟩
    rw [List.forall_mem_singleton, List.length_range']
    exact ha
  · nomatch (build_of_not_agree s id entityPath ha).symm.trans h

namespace Parser

variable {p : Parser} {c : Context} {s : Session} {e : Failure} {t : Feed} {chunks : List Chunk}

/-- Both chunks of a parser are built, or none. -/
theorem allots_of_finalize (hp : (∃ rows, p.Stores rows) ∨ p.lifecycle = .finalized)
    (h : finalize ⟨p, c, s⟩ = .ok chunks t) : s.Allots chunks t.session := by
  rcases hp with ⟨rows, hstores⟩ | hf
  · cases hstores.finalizes h with
    | chunks hc hl =>
      have himages : Chunk.Agree c.cells (.ofList (imageColumns rows)) rows.length :=
        agree_imageColumns.mpr ⟨rfl, hl⟩
      have hmetadata : Chunk.Agree c.cells (.ofList (metadataColumns rows)) rows.length :=
        agree_metadataColumns.mpr ⟨rfl, hl⟩
      refine ⟨?_, rows.length + rows.length, Nat.add_assoc .., ?_⟩
      · rw [List.forall_mem_cons, List.forall_mem_singleton, List.length_range',
          List.length_range']
        dsimp only
        exact ⟨himages, hmetadata⟩
      · rw [List.flatMap_cons, List.flatMap_singleton, List.range'_append_1]
  · nomatch (finalize_of_finalized hf c s).symm.trans h

theorem nextRow_of_finalize (hp : (∃ rows, p.Stores rows) ∨ p.lifecycle = .finalized)
    (h : finalize ⟨p, c, s⟩ = .error e t) : t.session.nextRow = s.nextRow := by
  rcases hp with ⟨rows, hstores⟩ | hf
  · cases hstores.finalizes h with
    | mismatch hc hl => rfl
    | overflow hc => rfl
  · obtain ⟨rfl, rfl⟩ := EStateM.Result.error.inj ((finalize_of_finalized hf c s).symm.trans h)
    rfl

end Parser

/-! ## Steps of parsers -/

/-- A step keeps parsers reachable, and takes row ids for the chunks that it returns and for nothing
else. -/
structure Step.Orderly (step : Step (List Chunk)) : Prop where
  ok : ∀ {p c s chunks t}, p.Reachable → step ⟨p, c, s⟩ = .ok chunks t →
    t.parser.Reachable ∧ s.Allots chunks t.session
  error : ∀ {p c s e t}, p.Reachable → step ⟨p, c, s⟩ = .error e t →
    t.parser.Reachable ∧ s.Allots [] t.session

namespace Parser

theorem orderly_finalize : Step.Orderly finalize := by
  constructor
  · intro p c s chunks t hp h
    have hreachable := hp.finalize c s
    rw [finished, h] at hreachable
    exact ⟨hreachable, allots_of_finalize hp.stores_or_finalized h⟩
  · intro p c s e t hp h
    have hreachable := hp.finalize c s
    rw [finished, h] at hreachable
    refine ⟨hreachable, Session.allots_nil_iff.mpr ?_⟩
    exact nextRow_of_finalize hp.stores_or_finalized h

theorem orderly_append (m : Message) : Step.Orderly ((fun _ => []) <$> append m) := by
  constructor
  · intro p c s chunks t hp h
    obtain ⟨⟨⟩, happend, rfl⟩ := map_eq_ok_iff.mp h
    have hreachable := hp.append ⟨c, s, m⟩
    rw [after, happend] at hreachable
    exact ⟨hreachable, (noted_of_append_ok hp happend).allots⟩
  · intro p c s e t hp h
    have happend := map_eq_error_iff.mp h
    have hreachable := hp.append ⟨c, s, m⟩
    rw [after, happend] at hreachable
    exact ⟨hreachable, (noted_of_append_error hp happend).allots⟩

end Parser

/-! ## Loaders -/

namespace Loader

variable {l : Loader} {channel : Channel} {messages : List Message} {hint : Option Int}
  {counted : Bool} {s : State}

/-- The chunks of a channel are those of its parser, and no other step of loading takes a row id. -/
theorem load_cases (l : Loader) (channel : Channel) (messages : List Message) (hint : Option Int)
    (counted : Bool) (s : State) :
    (∃ t, s.session.Noted t.session ∧ l.load channel messages hint counted s = .ok [] t) ∨
    (∃ e t, s.session.Noted t.session ∧ l.load channel messages hint counted s = .error e t) ∨
    ∃ p rows c t, s.session.Noted t.session ∧ p.Stores rows ∧
      l.load channel messages hint counted s = finish p c t := by
  by_cases hr : l.registry.contains channel.schema
  · obtain ⟨plugin, hplugin⟩ := Keyed.contains_iff_exists.mp hr
    rcases Int.lt_or_le (l.expectedRows hint messages counted) 0 with hn | hn
    · obtain ⟨u, hu, h⟩ := load_of_negative hplugin hn s
      exact .inr (.inl ⟨_, _, hu, h⟩)
    by_cases ht : l.Tolerates messages
    · obtain ⟨q, u, h, hq, -, hu⟩ := load_of_tolerates hplugin hn ht s
      exact .inr (.inr ⟨q, _, _, _, hu, hq, h⟩)
    · obtain ⟨before, m, after, rfl, hbefore, hm⟩ := exists_first_of_not_tolerates ht
      obtain ⟨e, u, -, hu, h⟩ := load_of_endedBy hplugin hn hbefore hm s
      exact .inr (.inl ⟨e, _, hu, h⟩)
  · obtain ⟨u, hu, h⟩ := load_of_unregistered hr s
    exact .inl ⟨_, hu, h⟩

theorem allots_of_finish {p : Parser} {rows : List Row} {c : Context} {t : State}
    {chunks : List Chunk} (hp : p.Stores rows) (h : finish p c s = .ok chunks t) :
    s.session.Allots chunks t.session := by
  rcases hf : Parser.finalize ⟨p, c, s.session⟩ with ⟨chunks', f⟩ | ⟨e, f⟩
  · obtain ⟨rfl, rfl⟩ := EStateM.Result.ok.inj ((finish_of_ok hf).symm.trans h)
    exact Parser.allots_of_finalize (.inl ⟨rows, hp⟩) hf
  · nomatch (finish_of_error hf).symm.trans h

theorem nextRow_of_finish {p : Parser} {rows : List Row} {c : Context} {e : Failure} {t : State}
    (hp : p.Stores rows) (h : finish p c s = .error e t) :
    t.session.nextRow = s.session.nextRow := by
  rcases hf : Parser.finalize ⟨p, c, s.session⟩ with ⟨chunks', f⟩ | ⟨e, f⟩
  · nomatch (finish_of_ok hf).symm.trans h
  · obtain ⟨rfl, rfl⟩ := EStateM.Result.error.inj ((finish_of_error hf).symm.trans h)
    exact Parser.nextRow_of_finalize (.inl ⟨rows, hp⟩) hf

theorem allots_of_load {t : State} {chunks : List Chunk}
    (h : l.load channel messages hint counted s = .ok chunks t) :
    s.session.Allots chunks t.session := by
  rcases l.load_cases channel messages hint counted s with
    ⟨u, hu, hok⟩ | ⟨e, u, hu, herror⟩ | ⟨p, rows, c, u, hu, hp, hfinish⟩
  · obtain ⟨rfl, rfl⟩ := EStateM.Result.ok.inj (hok.symm.trans h)
    exact hu.allots
  · nomatch herror.symm.trans h
  · exact hu.allots.trans (allots_of_finish hp (hfinish.symm.trans h))

theorem nextRow_of_load {e : Failure} {t : State}
    (h : l.load channel messages hint counted s = .error e t) :
    t.session.nextRow = s.session.nextRow := by
  rcases l.load_cases channel messages hint counted s with
    ⟨u, hu, hok⟩ | ⟨e', u, hu, herror⟩ | ⟨p, rows, c, u, hu, hp, hfinish⟩
  · nomatch hok.symm.trans h
  · obtain ⟨rfl, rfl⟩ := EStateM.Result.error.inj (herror.symm.trans h)
    exact hu.nextRow
  · exact (nextRow_of_finish hp (hfinish.symm.trans h)).trans (hu.nextRow)

end Loader

/-! ## Requests -/

namespace Process

variable {q : Process}

/-- All parsers came about by creation and by calls. -/
def Valid (q : Process) : Prop := ∀ p ∈ q.parsers, p.Reachable

theorem valid_start (counter : ChunkId.Counter) (clock : Int) : (start counter clock).Valid :=
  List.forall_mem_nil _

theorem Valid.set (hq : q.Valid) {p : Parser} (hp : p.Reachable) (place : Nat) (s : Session) :
    Valid ⟨s, q.parsers.set place p⟩ := by
  intro p' hp'
  rcases List.mem_or_eq_of_mem_set hp' with hmem | rfl
  · exact hq p' hmem
  · exact hp

theorem onParser_allots (hq : q.Valid) {step : Step (List Chunk)} (hstep : step.Orderly)
    (place : Nat) (context : Context) :
    (q.onParser place context step).2.Valid ∧
      q.session.Allots (built (q.onParser place context step).1)
        (q.onParser place context step).2.session := by
  rw [onParser]
  split
  · exact ⟨hq, (Session.Noted.refl _).allots⟩
  · next p hplace =>
    have hp := hq p (List.mem_of_getElem? hplace)
    split
    · next chunks t h =>
      obtain ⟨hreachable, hallots⟩ := hstep.ok hp h
      exact ⟨hq.set hreachable place t.session, hallots⟩
    · next e t h =>
      obtain ⟨hreachable, hallots⟩ := hstep.error hp h
      exact ⟨hq.set hreachable place t.session, hallots⟩

/-- A request takes the next row ids for the chunks that come of it, and none if it fails. -/
theorem perform_allots (hq : q.Valid) (r : Request) : (q.perform r).2.Valid ∧
    q.session.Allots (built (q.perform r).1) (q.perform r).2.session := by
  cases r with
  | wait clock => exact ⟨hq, Session.allots_nil_iff.mpr rfl⟩
  | build id entityPath timelines components =>
    rw [perform]
    split
    · next chunk s h => exact ⟨hq, Chunk.allots_of_build h⟩
    · exact ⟨hq, (Session.Noted.refl _).allots⟩
  | create timeline logEvery capacity ids =>
    rw [perform]
    split
    · next p h =>
      refine ⟨?_, (Session.Noted.refl _).allots⟩
      exact List.forall_mem_append.mpr ⟨hq, List.forall_mem_singleton.mpr (.create h)⟩
    · exact ⟨hq, (Session.Noted.refl _).allots⟩
  | append place context m => exact onParser_allots hq (Parser.orderly_append m) place context
  | finalize place context => exact onParser_allots hq Parser.orderly_finalize place context
  | load loader metrics channel messages hint counted =>
    rw [perform]
    split
    · next chunks t h => exact ⟨hq, Loader.allots_of_load h⟩
    · next e t h => exact ⟨hq, Session.allots_nil_iff.mpr (Loader.nextRow_of_load h)⟩

/-- Any requests take the next row ids for the chunks that come of them, in the order of the
chunks. -/
theorem run_allots (hq : q.Valid) (requests : List Request) : (q.run requests).2.Valid ∧
    q.session.Allots (q.run requests).1 (q.run requests).2.session := by
  -- Induction on the requests: the row ids of the others follow those of the first one.
  induction requests generalizing q with
  | nil => exact ⟨hq, (Session.Noted.refl _).allots⟩
  | cons r rest ih =>
    obtain ⟨hvalid, hallots⟩ := perform_allots hq r
    obtain ⟨hvalid', hallots'⟩ := ih hvalid
    exact ⟨hvalid', hallots.trans hallots'⟩

/-- Every chunk of a process has one row id for each row of its timelines and of its compared
columns. The row ids of all chunks, one chunk after the other, are the natural numbers below the
number of all rows in their order, whatever was asked and whatever failed. After any requests, one
that fails leaves the count of row ids as it is. -/
theorem run_rowIds (counter : ChunkId.Counter) (clock : Int) (requests : List Request) :
    let chunks := ((start counter clock).run requests).1
    let q := ((start counter clock).run requests).2
    (∀ c ∈ chunks, Chunk.Agree c.timelines c.components c.rowIds.length) ∧
      chunks.flatMap Chunk.rowIds = List.range (chunks.map Chunk.length).sum ∧
      (chunks.flatMap Chunk.rowIds).Pairwise (· < ·) ∧
      q.session.nextRow = (chunks.map Chunk.length).sum ∧
      ∀ r e, (q.perform r).1 = .error e → (q.perform r).2.session.nextRow = q.session.nextRow := by
  intro chunks q
  obtain ⟨hvalid, hallots⟩ := run_allots (valid_start counter clock) requests
  have hids : chunks.flatMap Chunk.rowIds = List.range (chunks.map Chunk.length).sum :=
    hallots.rowIds.trans List.range_eq_range'.symm
  refine ⟨hallots.rows, hids, ?_, ?_, ?_⟩
  · rw [hids]
    exact List.pairwise_lt_range
  · exact hallots.nextRow.trans (Nat.zero_add _)
  · intro r e he
    obtain ⟨-, h⟩ := perform_allots hvalid r
    rw [he] at h
    exact Session.allots_nil_iff.mp h

/-- Between the chunks of two rows and of one, timelines of different lengths make no chunk. -/
example : ((start ⟨1⟩ 0).run
    [.build ⟨0, 0⟩ "/cam" (.ofList [("t", [5, 6])]) .empty,
      .build ⟨0, 1⟩ "/cam" (.ofList [("t", [5]), ("u", [])]) .empty,
      .build ⟨0, 2⟩ "/cam" (.ofList [("t", [7])]) .empty]).1.map Chunk.rowIds = [[0, 1], [2]] := by
  decide +kernel

end Process

end FrameChunks
