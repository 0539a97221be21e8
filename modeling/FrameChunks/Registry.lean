import FrameChunks.Parser.Basic
import FrameChunks.Settings.Basic

/-!
# Registries

A registry knows a plugin for every schema that can be loaded. A plugin makes parsers.

## Main definitions

* `Plugin`: what makes the parsers of a schema
* `Registry`: the plugins by schema
* `Registry.register`, `Registry.createParser`
-/

namespace FrameChunks

/-- What makes the parsers of a schema. -/
structure Plugin where
  schema : String := Image.schemaName
  settings : ParserSettings := {}
  deriving DecidableEq, Repr

/-- The plugins by schema. -/
abbrev Registry := Keyed String Plugin

namespace Plugin

/-- A parser for a topic, with `rows` rows to expect. -/
def createParser (p : Plugin) (s : Session) (topic : String) (rows : Int) :
    Except Failure Parser × Session :=
  let s := s.note .debug .imagePlugin s!"Creating image parser for {topic} (hint: {rows} rows)"
  match Parser.create p.settings.timestampTimeline p.settings.logEvery rows .session with
  | .ok parser => (.ok parser, s)
  | .error e => (.error (.builder e), s)

end Plugin

namespace Registry

/-- Adds a plugin; it takes the place of an earlier one for its schema. -/
def register (r : Registry) (s : Session) (p : Plugin) : Registry × Session :=
  let s :=
    if r.contains p.schema then
      s.note .warning .registry s!"Replacing schema plugin for {p.schema}"
    else s
  (r.insert p.schema p, s)

/-- The registry that knows the schema of image messages. -/
def standard (settings : ParserSettings) : Registry :=
  Keyed.empty.insert Image.schemaName ⟨Image.schemaName, settings⟩

/-- The schemas, ordered by code point. -/
def schemaNames (r : Registry) : List String := r.keys.mergeSort fun a b => decide (a ≤ b)

/-- A parser for a channel, with `rows` rows to expect. -/
def createParser (r : Registry) (s : Session) (channel : Channel) (rows : Int) :
    Except Failure Parser × Session :=
  match r.get? channel.schema with
  | none => (.error (.plugin (.unknownSchema channel.schema)), s)
  | some p => p.createParser s channel.topic rows

end Registry

end FrameChunks
