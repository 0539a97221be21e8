import FrameChunks.Proofs.Parser.Reachable
import Mathlib.Logic.Function.Basic

/-!
# Parsers that work side by side

All parsers of a process take row ids and chunk ids from the same counts, and make their notes in the
same place. Nothing else is shared by two parsers with a context each: whatever is done with the
others, and whatever of it fails, a parser and its context go through the same states as in a process
of their own. Only ids can tell the difference, and row ids only by how many were taken before.

## Main definitions

* `Action`, `Outcome`: what can be done with a parser and its context, and what comes of it
* `Feed.reports`: actions on one parser and one context
* `Host.reports`: actions on any parsers and contexts of one process, in any order
* `Report.Matches`: two reports differ in ids at most, row ids by a constant

## Main results

* `Action.perform_uniform`: what an action does depends on the session in its ids at most
* `Feed.Mirrors.perform`: one action in two processes
* `Host.reports_unaffected`: any actions in two processes
-/

namespace FrameChunks

open Image

/-! ## Actions -/

/-- What can be done with a parser and its context. -/
inductive Action
  | append (m : Message)
  | addMessageTimes (m : Message)
  | addCell (timeline : String) (value : Column.Value)
  | buildTimelines
  | finalize

inductive Outcome
  | done
  | timelines (t : Timelines)
  | chunks (chunks : List Chunk)
  | failed (e : Failure)
  | noTime (e : Column.TimeError)

namespace Action

def perform (f : Feed) : Action → Outcome × Feed
  | append m =>
    match Parser.append m f with
    | .ok _ t => (.done, t)
    | .error e t => (.failed e, t)
  | addMessageTimes m => (.done, { f with context := f.context.addMessageTimes m })
  | addCell timeline value =>
    match f.context.addValue timeline value with
    | (.ok _, context) => (.done, { f with context })
    | (.error e, context) => (.noTime e, { f with context })
  | buildTimelines =>
    match f.context.buildTimelines f.session with
    | .ok (t, session) => (.timelines t, { f with session })
    | .error e => (.failed e, f)
  | finalize =>
    match Parser.finalize f with
    | .ok chunks t => (.chunks chunks, t)
    | .error e t => (.failed e, t)

end Action

/-- An action, and what the clock shows at that moment. -/
structure Move where
  clock : Int
  action : Action

/-- What came of an action, and the parser and the context afterwards. -/
structure Report where
  outcome : Outcome
  parser : Parser
  context : Context

namespace Feed

def perform (f : Feed) (v : Move) : Report × Feed :=
  let (outcome, t) := v.action.perform { f with session := { f.session with clock := v.clock } }
  (⟨outcome, t.parser, t.context⟩, t)

def reports (f : Feed) : List Move → List Report
  | [] => []
  | v :: rest => (f.perform v).1 :: (f.perform v).2.reports rest

def after (f : Feed) (moves : List Move) : Feed := moves.foldl (fun f v => (f.perform v).2) f

end Feed

/-- The parsers and the contexts of a process, and what they share. -/
structure Host (ι κ : Type) where
  session : Session
  parsers : ι → Parser
  contexts : κ → Context

/-- An action on one of the parsers and one of the contexts. -/
structure Event (ι κ : Type) extends Move where
  parser : ι
  context : κ

namespace Host

variable {ι κ : Type} [DecidableEq ι] [DecidableEq κ]

def feed (h : Host ι κ) (i : ι) (j : κ) : Feed := ⟨h.parsers i, h.contexts j, h.session⟩

/-- One action. No other parser and no other context changes. -/
def perform (h : Host ι κ) (e : Event ι κ) : Report × Host ι κ :=
  let (report, t) := (h.feed e.parser e.context).perform e.toMove
  (report,
    ⟨t.session, Function.update h.parsers e.parser t.parser,
      Function.update h.contexts e.context t.context⟩)

/-- What comes of the actions on one parser, among several. -/
def reports (h : Host ι κ) (i : ι) : List (Event ι κ) → List Report
  | [] => []
  | e :: rest =>
    if e.parser = i then (h.perform e).1 :: (h.perform e).2.reports i rest
    else (h.perform e).2.reports i rest

def after (h : Host ι κ) (events : List (Event ι κ)) : Host ι κ :=
  events.foldl (fun h e => (h.perform e).2) h

end Host

/-! ## Chunks that differ in ids -/

/-- The chunks agree but for their ids, and the row ids are `shift` apart. -/
structure Chunk.Shifted (shift : Nat) (a b : Chunk) : Prop where
  rowIds : b.rowIds = a.rowIds.map (shift + ·)
  entityPath : b.entityPath = a.entityPath
  timelines : b.timelines = a.timelines
  components : b.components = a.components

/-- The outcomes agree but for the ids of chunks, and the row ids of all chunks are `shift` apart. -/
inductive Outcome.Shifted (shift : Nat) : Outcome → Outcome → Prop
  | done : Shifted shift .done .done
  | timelines (t : Timelines) : Shifted shift (.timelines t) (.timelines t)
  | failed (e : Failure) : Shifted shift (.failed e) (.failed e)
  | noTime (e : Column.TimeError) : Shifted shift (.noTime e) (.noTime e)
  | chunks {as bs : List Chunk} (h : List.Forall₂ (Chunk.Shifted shift) as bs) :
    Shifted shift (.chunks as) (.chunks bs)

/-- The outcomes agree but for ids, the parsers and the contexts entirely. -/
structure Report.Matches (alone among : Report) : Prop where
  outcome : ∃ shift, Outcome.Shifted shift alone.outcome among.outcome
  parser : among.parser = alone.parser
  context : among.context = alone.context

section Shifts

variable {m n : Nat}

/-- Of two chunks that are shifts of one, the later one is a shift of the earlier one. -/
theorem Chunk.Shifted.sub {t a b : Chunk} (h : m ≤ n) (ha : t.Shifted m a) (hb : t.Shifted n b) :
    a.Shifted (n - m) b := by
  refine ⟨?_, hb.entityPath.trans ha.entityPath.symm, hb.timelines.trans ha.timelines.symm,
    hb.components.trans ha.components.symm⟩
  rw [hb.rowIds, ha.rowIds, List.map_map]
  refine List.map_congr_left fun r _ => ?_
  simp only [Function.comp_apply]
  omega

theorem Chunk.Shifted.forall₂_sub {ts as bs : List Chunk} (h : m ≤ n)
    (ha : List.Forall₂ (Chunk.Shifted m) ts as) (hb : List.Forall₂ (Chunk.Shifted n) ts bs) :
    List.Forall₂ (Chunk.Shifted (n - m)) as bs := by
  induction ha generalizing bs with
  | nil =>
    cases hb
    exact .nil
  | cons ha _ ih =>
    cases hb with
    | cons hb hbs => exact .cons (ha.sub h hb) (ih hbs)

theorem Outcome.Shifted.sub {t a b : Outcome} (h : m ≤ n) (ha : t.Shifted m a)
    (hb : t.Shifted n b) : a.Shifted (n - m) b := by
  cases ha with
  | chunks ha =>
    cases hb with
    | chunks hb => exact .chunks (Chunk.Shifted.forall₂_sub h ha hb)
  | _ =>
    cases hb
    constructor

end Shifts

/-! ## What depends on the session -/

namespace Parser

variable {p : Parser}

/-- Whether a message is taken, and what for it is refused, does not depend on the session. -/
theorem append_uniform (hp : p.Reachable) (m : Message) (c : Context) :
    (∃ q d, ∀ s, ∃ t, s.Noted t ∧ append m ⟨p, c, s⟩ = .ok () ⟨q, d, t⟩) ∨
      ∃ e, ∀ s, ∃ t, s.Noted t ∧ append m ⟨p, c, s⟩ = .error e ⟨p, c, t⟩ := by
  rcases hp.stores_or_finalized with ⟨rows, hstores⟩ | hf
  · have hready := hstores.ready
    rcases hr : m.row? with _ | r
    · refine .inr ?_
      rcases hpay : m.payload with _ | payload
      · exact ⟨_, fun s => ⟨s, .refl s, append_of_no_payload hready hpay c s⟩⟩
      · obtain ⟨error, -, hrefusal, -⟩ := append_of_refusal hready hpay hr c {}
        refine ⟨.plugin error, fun s => ?_⟩
        obtain ⟨error', t, hrefusal', ht, h⟩ := append_of_refusal hready hpay hr c s
        rw [hrefusal.unique hrefusal']
        exact ⟨t, ht, h⟩
    · exact .inl ⟨_, _, append_of_row hready hr c⟩
  · exact .inr ⟨_, fun s => ⟨s, .refl s, append_of_finalized hf m c s⟩⟩

/-- Whether there are chunks, and what is in them besides ids, does not depend on the session. -/
theorem finalize_uniform (hp : p.Reachable) (c : Context) :
    (∃ q n images metadata, ∀ s, ∃ id id' t, t.nextRow = s.nextRow + n + n ∧
      finalize ⟨p, c, s⟩ = .ok
        [⟨id, c.entityPath, List.range' s.nextRow n, c.cells, images⟩,
          ⟨id', c.entityPath, List.range' (s.nextRow + n) n, c.cells, metadata⟩] ⟨q, c, t⟩) ∨
      ∃ e q, ∀ s, ∃ t, t.nextRow = s.nextRow ∧ finalize ⟨p, c, s⟩ = .error e ⟨q, c, t⟩ := by
  rcases hp.stores_or_finalized with ⟨rows, hstores⟩ | hf
  · by_cases hc : c.Fits
    · by_cases hl : ∀ e ∈ c.cells.entries, e.2.length = rows.length
      · refine .inl ⟨{ p.emptied with ids := p.ids.rest.rest, metadata := p.metadata.cleared },
          rows.length, .ofList (imageColumns rows), .ofList (metadataColumns rows), fun s => ?_⟩
        obtain ⟨notes, h⟩ := finalize_of_agree hstores hc hl (s := s) (p.ids.draw_eq _ _)
          (p.ids.rest.draw_eq _ _)
        exact ⟨_, _, _, rfl, h⟩
      · refine .inr ⟨.plugin (.batch (.lengthMismatch c.entityPath
          (Chunk.lengths c.cells (.ofList (imageColumns rows))).entries)),
          { p.emptied with ids := p.ids.rest }, fun s => ?_⟩
        obtain ⟨notes, h⟩ := finalize_of_not_agree hstores hc hl (s := s) (p.ids.draw_eq _ _)
        refine ⟨_, ?_, h⟩
        rfl
    · exact .inr ⟨_, _, fun s => ⟨s, rfl, finalize_of_not_fits hstores hc s⟩⟩
  · exact .inr ⟨_, _, fun s => ⟨s, rfl, finalize_of_finalized hf c s⟩⟩

end Parser

namespace Action

/-- What an action does depends on the session in its ids at most. A process in which no row id was
taken shows what that is; in others, the row ids of its chunks begin where those of the session end. -/
theorem perform_uniform {p : Parser} (hp : p.Reachable) (a : Action) (c : Context) :
    ∃ o q d n, ∀ s, ∃ o' t, a.perform ⟨p, c, s⟩ = (o', ⟨q, d, t⟩) ∧
      Outcome.Shifted s.nextRow o o' ∧ t.nextRow = s.nextRow + n := by
  cases a with
  | append m =>
    rcases Parser.append_uniform hp m c with ⟨q, d, h⟩ | ⟨e, h⟩
    · refine ⟨.done, q, d, 0, fun s => ?_⟩
      obtain ⟨t, ht, hok⟩ := h s
      exact ⟨.done, t, by rw [perform, hok], .done, ht.nextRow⟩
    · refine ⟨.failed e, p, c, 0, fun s => ?_⟩
      obtain ⟨t, ht, herror⟩ := h s
      exact ⟨.failed e, t, by rw [perform, herror], .failed e, ht.nextRow⟩
  | addMessageTimes m =>
    exact ⟨.done, p, c.addMessageTimes m, 0, fun s => ⟨.done, s, rfl, .done, rfl⟩⟩
  | addCell timeline value =>
    rcases h : c.addValue timeline value with ⟨_ | _, d⟩
    · exact ⟨.noTime _, p, d, 0, fun s => ⟨_, s, by rw [perform, h], .noTime _, rfl⟩⟩
    · exact ⟨.done, p, d, 0, fun s => ⟨_, s, by rw [perform, h], .done, rfl⟩⟩
  | buildTimelines =>
    by_cases hc : c.Fits
    · refine ⟨.timelines c.cells, p, c, 0, fun s => ?_⟩
      refine ⟨_, s.note .debug .timelines c.summary, ?_, .timelines _, rfl⟩
      rw [perform, Context.buildTimelines, Context.timelines, if_pos hc]
      rfl
    · refine ⟨.failed .overflow, p, c, 0, fun s => ⟨_, s, ?_, .failed _, rfl⟩⟩
      rw [perform, Context.buildTimelines, Context.timelines, if_neg hc]
      rfl
  | finalize =>
    rcases Parser.finalize_uniform hp c with ⟨q, n, images, metadata, h⟩ | ⟨e, q, h⟩
    · -- the chunks in a session without row ids; their own ids are not compared
      refine ⟨.chunks [⟨⟨0, 0⟩, c.entityPath, List.range' 0 n, c.cells, images⟩,
        ⟨⟨0, 0⟩, c.entityPath, List.range' n n, c.cells, metadata⟩], q, c, n + n, fun s => ?_⟩
      obtain ⟨id, id', t, ht, hok⟩ := h s
      refine ⟨_, t, by rw [perform, hok], .chunks (.cons ?_ (.cons ?_ .nil)), ?_⟩
      · refine ⟨?_, rfl, rfl, rfl⟩
        rw [List.map_add_range', Nat.add_zero]
      · refine ⟨?_, rfl, rfl, rfl⟩
        rw [List.map_add_range']
      · rw [ht, Nat.add_assoc]
    · refine ⟨.failed e, q, c, 0, fun s => ?_⟩
      obtain ⟨t, ht, herror⟩ := h s
      exact ⟨.failed e, t, by rw [perform, herror], .failed e, ht⟩

theorem reachable_perform {f : Feed} (hp : f.parser.Reachable) (a : Action) :
    (a.perform f).2.parser.Reachable := by
  obtain ⟨p, c, s⟩ := f
  cases a with
  | append m =>
    have h := hp.append ⟨c, s, m⟩
    rw [Parser.after] at h
    rw [perform]
    rcases happend : Parser.append m ⟨p, c, s⟩ with ⟨_, t⟩ | ⟨e, t⟩ <;> rwa [happend] at h
  | addMessageTimes m => exact hp
  | addCell timeline value =>
    rw [perform]
    split <;> exact hp
  | buildTimelines =>
    rw [perform]
    split <;> exact hp
  | finalize =>
    have h := hp.finalize c s
    rw [Parser.finished] at h
    rw [perform]
    rcases hfinalize : Parser.finalize ⟨p, c, s⟩ with ⟨_, t⟩ | ⟨e, t⟩ <;> rwa [hfinalize] at h

end Action

namespace Feed

/-- The parsers and the contexts agree, and at least as many row ids were taken in `g`. -/
structure Mirrors (f g : Feed) : Prop where
  parser : g.parser = f.parser
  context : g.context = f.context
  nextRow : f.session.nextRow ≤ g.session.nextRow

variable {f g : Feed}

theorem reachable_perform (hp : f.parser.Reachable) (v : Move) :
    (f.perform v).2.parser.Reachable :=
  Action.reachable_perform (f := { f with session := { f.session with clock := v.clock } }) hp v.action

/-- An action has the same effect in both processes but for ids, whenever it is done. -/
theorem Mirrors.perform (h : f.Mirrors g) (hp : f.parser.Reachable) {v w : Move}
    (hvw : v.action = w.action) :
    (f.perform v).1.Matches (g.perform w).1 ∧ (f.perform v).2.Mirrors (g.perform w).2 := by
  obtain ⟨p, c, s⟩ := f
  obtain ⟨q, d, t⟩ := g
  obtain ⟨rfl, rfl, hst⟩ := h
  obtain ⟨o, p', c', n, huniform⟩ := Action.perform_uniform hp v.action d
  obtain ⟨a, s', hs, ha, hs'⟩ := huniform { s with clock := v.clock }
  obtain ⟨b, t', ht, hb, ht'⟩ := huniform { t with clock := w.clock }
  rw [Feed.perform, Feed.perform, ← hvw, hs, ht]
  refine ⟨⟨⟨_, ha.sub hst hb⟩, rfl, rfl⟩, ⟨rfl, rfl, ?_⟩⟩
  show s'.nextRow ≤ t'.nextRow
  rw [hs', ht']
  exact Nat.add_le_add_right hst n

theorem nextRow_le_perform (hp : f.parser.Reachable) (v : Move) :
    f.session.nextRow ≤ (f.perform v).2.session.nextRow := by
  obtain ⟨p, c, s⟩ := f
  obtain ⟨o, p', c', n, huniform⟩ := Action.perform_uniform hp v.action c
  obtain ⟨a, s', hs, -, hs'⟩ := huniform { s with clock := v.clock }
  rw [perform, hs]
  exact hs' ▸ Nat.le_add_right _ n

end Feed

/-! ## Any actions -/

namespace Host

variable {ι κ : Type} [DecidableEq ι] [DecidableEq κ] {h : Host ι κ} {i : ι} {j : κ} {f : Feed}

def Valid (h : Host ι κ) : Prop := ∀ i, (h.parsers i).Reachable

theorem Valid.perform (hv : h.Valid) (e : Event ι κ) : (h.perform e).2.Valid := by
  intro i
  by_cases hi : i = e.parser
  · subst hi
    show (Function.update h.parsers e.parser _ e.parser).Reachable
    rw [Function.update_self]
    exact Feed.reachable_perform (hv e.parser) e.toMove
  · show (Function.update h.parsers e.parser _ i).Reachable
    rw [Function.update_of_ne hi]
    exact hv i

/-- An action on the parser and the context is seen in the process as it is seen there. -/
theorem feed_perform_of_own (e : Event ι κ) :
    (h.perform e).2.feed e.parser e.context = ((h.feed e.parser e.context).perform e.toMove).2 := by
  simp only [perform, feed, Function.update_self]

/-- An action on others takes row ids at most. -/
theorem mirrors_perform_of_other (hv : h.Valid) (hf : f.Mirrors (h.feed i j)) {e : Event ι κ}
    (hi : e.parser ≠ i) (hj : e.context ≠ j) : f.Mirrors ((h.perform e).2.feed i j) := by
  have hnext := Feed.nextRow_le_perform (f := h.feed e.parser e.context) (hv e.parser) e.toMove
  refine ⟨?_, ?_, hf.nextRow.trans hnext⟩
  · show Function.update h.parsers e.parser _ i = _
    rw [Function.update_of_ne hi.symm]
    exact hf.parser
  · show Function.update h.contexts e.context _ j = _
    rw [Function.update_of_ne hj.symm]
    exact hf.context

theorem Valid.reports_match (hv : h.Valid) (hf : f.Mirrors (h.feed i j)) {events : List (Event ι κ)}
    (hown : ∀ e ∈ events, e.parser = i ↔ e.context = j) {moves : List Move}
    (hmoves : moves.map Move.action =
      (events.filter fun e => e.parser = i).map fun e => e.action) :
    List.Forall₂ Report.Matches (f.reports moves) (h.reports i events) ∧
      (f.after moves).Mirrors ((h.after events).feed i j) := by
  -- Induction on the actions of all: those on other parsers leave the two feeds as they are.
  induction events generalizing h f moves with
  | nil =>
    obtain rfl : moves = [] := List.map_eq_nil_iff.mp hmoves
    exact ⟨.nil, hf⟩
  | cons e rest ih =>
    obtain ⟨he, hrest⟩ := List.forall_mem_cons.mp hown
    by_cases hi : e.parser = i
    · have hj := he.mp hi
      subst hi hj
      rw [List.filter_cons_of_pos (by simp)] at hmoves
      obtain ⟨v, moves, rfl, hv', hmoves⟩ := List.map_eq_cons_iff.mp hmoves
      -- both sides do the next action
      have hp : f.parser.Reachable := by
        rw [← hf.parser]
        exact hv e.parser
      obtain ⟨hreport, hnext⟩ := hf.perform hp hv'
      rw [← feed_perform_of_own] at hnext
      obtain ⟨hreports, hafter⟩ := ih (hv.perform e) hnext hrest hmoves
      rw [reports, if_pos rfl]
      exact ⟨.cons hreport hreports, hafter⟩
    · -- the two feeds are not touched, and the report is not among those compared
      have hj : e.context ≠ j := mt he.mpr hi
      rw [List.filter_cons_of_neg (by simpa using hi)] at hmoves
      rw [reports, if_neg hi]
      exact ih (hv.perform e) (mirrors_perform_of_other hv hf hi hj) hrest hmoves

/-- If a parser and a context are used with each other only, then whatever is done in a process with
any others, what comes of the actions on the two is what comes of them when they are done alone, in
the same order, in a process in which nothing was done before: the outcomes agree but for chunk ids
and a shift of row ids, and the parser and the context agree entirely after each of the actions, and
at the end. -/
theorem reports_unaffected (hparsers : ∀ i, (h.parsers i).Reachable) {events : List (Event ι κ)}
    (hown : ∀ e ∈ events, e.parser = i ↔ e.context = j) {moves : List Move}
    (hmoves : moves.map Move.action = (events.filter fun e => e.parser = i).map fun e => e.action)
    (counter : ChunkId.Counter) (clock : Int) :
    let alone : Feed := ⟨h.parsers i, h.contexts j, { counter, clock }⟩
    List.Forall₂ Report.Matches (alone.reports moves) (h.reports i events) ∧
      (h.after events).parsers i = (alone.after moves).parser ∧
      (h.after events).contexts j = (alone.after moves).context := by
  intro alone
  have hstart : alone.Mirrors (h.feed i j) := ⟨rfl, rfl, Nat.zero_le _⟩
  obtain ⟨hreports, hafter⟩ := Valid.reports_match hparsers hstart hown hmoves
  exact ⟨hreports, hafter.parser, hafter.context⟩

def pixelMessage : Message := ⟨⟨"cam", schemaName⟩, 0, 0, 0, some pixelPayload⟩

def pixelMoves : List Move := [⟨7, .append pixelMessage⟩, ⟨9, .finalize⟩]

/-- Two parsers with a context each take a pixel each. The second one is finalized first. -/
def pixelEvents : List (Event Bool Bool) :=
  [⟨⟨0, .append pixelMessage⟩, true, true⟩, ⟨⟨0, .append pixelMessage⟩, false, false⟩,
    ⟨⟨0, .finalize⟩, false, false⟩, ⟨⟨0, .finalize⟩, true, true⟩]

/-- The first one does what it does without the second one, at other times. -/
theorem reports_unaffected_pixelEvents : ∃ p : Parser, p.Reachable ∧
    let h : Host Bool Bool := ⟨{}, fun _ => p, fun _ => ⟨"/cam", .empty⟩⟩
    let alone : Feed := ⟨p, ⟨"/cam", .empty⟩, {}⟩
    (h.reports true pixelEvents).length = 2 ∧
      List.Forall₂ Report.Matches (alone.reports pixelMoves) (h.reports true pixelEvents) ∧
      (h.after pixelEvents).parsers true = (alone.after pixelMoves).parser := by
  obtain ⟨p, hcreate, -⟩ := Parser.exists_create (Int.le_refl 0) "timestamp" 0 .session
  have hp := Parser.Reachable.create hcreate
  have hown : ∀ e ∈ pixelEvents, e.parser = true ↔ e.context = true := by decide
  have hmoves : pixelMoves.map Move.action =
      (pixelEvents.filter fun e => e.parser = true).map fun e => e.action := rfl
  obtain ⟨hreports, hparser, -⟩ := reports_unaffected
    (h := ⟨{}, fun _ => p, fun _ => ⟨"/cam", .empty⟩⟩) (fun _ => hp) hown hmoves ⟨1⟩ 0
  exact ⟨p, hp, rfl, hreports, hparser⟩

end Host

end FrameChunks
