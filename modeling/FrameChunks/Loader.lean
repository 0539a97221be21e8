import FrameChunks.Registry

/-!
# Loaders

A loader turns the messages of a channel into chunks: it makes a parser for the channel, feeds the
messages to it in order, adds the times of every message that the parser takes, and finalizes the
parser. What happens to a message that the parser rejects is the policy of the loader.

## Main definitions

* `Metrics`: what a loader counts
* `Loader`: the registry and the policy
* `Loader.load`: loads a channel
-/

namespace FrameChunks

open Text

/-- What a loader counts, over all channels. -/
structure Metrics where
  channelsLoaded : Nat := 0
  channelsSkipped : Nat := 0
  messagesSeen : Nat := 0
  messagesAppended : Nat := 0
  messagesSkipped : Nat := 0
  chunksEmitted : Nat := 0
  deriving DecidableEq, Repr

/-- The registry and the policy of a loader. -/
structure Loader where
  registry : Registry
  policy : ErrorPolicy
  /-- How many rows to expect of a channel whose number of messages is not known. -/
  defaultRows : Int

/-- Why there is no loader. -/
inductive LoaderError
  /-- There is no policy of this name. -/
  | unknownPolicy (name : String)
  deriving DecidableEq, Repr

/-- The wording of the reason. -/
def LoaderError.message : LoaderError → String
  | unknownPolicy name => "Unknown error policy: " ++ name

namespace Loader

/-- The policy that a value names; only texts are names. -/
def policyOf? : Column.Value → Option ErrorPolicy
  | .text name => ErrorPolicy.ofName? name
  | _ => none

/-- The loader with the policy that a value names. -/
def create (registry : Registry) (policy : Column.Value) (defaultRows : Int) :
    Except LoaderError Loader :=
  match policyOf? policy with
  | some p => .ok ⟨registry, p, defaultRows⟩
  | none => .error (.unknownPolicy policy.display)

/-- The loader with the given settings. -/
def ofSettings (registry : Registry) (settings : LoaderSettings) : Loader :=
  ⟨registry, settings.errorPolicy, settings.defaultRows⟩

/-- What changes while channels are loaded. -/
structure State where
  metrics : Metrics
  session : Session

/-- A step of a loader. It changes the state also when it fails. -/
abbrev Load := EStateM Failure State

/-- Counts. -/
def count (f : Metrics → Metrics) : Load Unit := modify fun s => { s with metrics := f s.metrics }

/-- Makes a note. -/
def note (level : Log.Level) (text : String) : Load Unit :=
  modify fun s => { s with session := s.session.note level .loader text }

/-- Runs a step of a parser, and keeps what it did to the session. -/
def runStep {α : Type} (step : Step α) (parser : Parser) (context : Context) :
    Load (Except Failure α × Parser × Context) := do
  let s ← get
  match step ⟨parser, context, s.session⟩ with
  | .ok a f =>
    set { s with session := f.session }
    return (.ok a, f.parser, f.context)
  | .error e f =>
    set { s with session := f.session }
    return (.error e, f.parser, f.context)

/-- Feeds messages to a parser. -/
def feed (l : Loader) (channel : Channel) (parser : Parser) (context : Context) :
    List Message → Load (Parser × Context)
  | [] => return (parser, context)
  | m :: rest => do
    count fun c => { c with messagesSeen := c.messagesSeen + 1 }
    match ← runStep (Parser.append m) parser context with
    | (.ok (), parser, context) =>
      count fun c => { c with messagesAppended := c.messagesAppended + 1 }
      feed l channel parser (context.addMessageTimes m) rest
    -- a rejected message has no times
    | (.error e, parser, context) =>
      match e.plugin?, l.policy with
      -- the message is not at fault, whatever the policy
      | none, _ => throw e
      | some cause, .abort =>
        note .error s!"Aborting channel {channel.topic} at sequence {m.sequence}: {cause.message}"
        throw e
      | some cause, .skip =>
        count fun c => { c with messagesSkipped := c.messagesSkipped + 1 }
        note .warning s!"Skipping message {m.sequence} on {channel.topic}: {cause.message}"
        feed l channel parser context rest

/-- A parser for a channel. -/
def createParser (l : Loader) (channel : Channel) (rows : Int) : Load Parser := do
  let s ← get
  let (parser, session) := l.registry.createParser s.session channel rows
  set { s with session }
  ofExcept parser

/-- How many rows to expect: what the caller says, else the number of messages if that is known
beforehand. -/
def expectedRows (l : Loader) (hint : Option Int) (messages : List Message) (counted : Bool) : Int :=
  hint.getD (if counted then messages.length else l.defaultRows)

/-- Loads a channel. A channel whose schema is not known has no chunks. -/
def load (l : Loader) (channel : Channel) (messages : List Message) (hint : Option Int)
    (counted : Bool) : Load (List Chunk) := do
  if l.registry.contains channel.schema then
    let parser ← l.createParser channel (l.expectedRows hint messages counted)
    let (parser, context) ← l.feed channel parser { entityPath := entityPath channel.topic } messages
    let (chunks, _, _) ← runStep Parser.finalize parser context
    let chunks ← ofExcept chunks
    -- only a channel that is finalized counts as loaded
    count fun c =>
      { c with
        channelsLoaded := c.channelsLoaded + 1
        chunksEmitted := c.chunksEmitted + chunks.length }
    return chunks
  else
    count fun c => { c with channelsSkipped := c.channelsSkipped + 1 }
    note .info
      s!"No plugin for schema {quoted channel.schema}, skipping channel {channel.topic}"
    return []

end Loader

end FrameChunks
