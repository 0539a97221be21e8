import FrameChunks.Chunk.Id
import FrameChunks.Error
import FrameChunks.Log.Note

/-!
# Sessions

What the channels that are loaded in one process share: the row ids and chunk ids given out so far,
the clock, and the notes made.

## Main definitions

* `Session`: the shared state
* `Session.reserveRows`, `Session.freshId`, `Session.note`: the three ways to change it
-/

namespace FrameChunks

/-- What the channels of one process share. -/
structure Session where
  /-- The first row id that is not taken. -/
  nextRow : Nat := 0
  /-- The source of the increments of chunk ids. -/
  counter : ChunkId.Counter := ⟨1⟩
  /-- What the clock shows, in nanoseconds. -/
  clock : Int := 0
  /-- The notes, oldest first. -/
  notes : List Log.Note := []
  deriving DecidableEq, Repr

namespace Session

/-- The next `count` row ids. -/
def reserveRows (s : Session) (count : Nat) : List Nat × Session :=
  (List.range' s.nextRow count, { s with nextRow := s.nextRow + count })

/-- A chunk id that was not given out before. -/
def freshId (s : Session) : ChunkId × Session :=
  let (id, counter) := s.counter.fresh s.clock
  (id, { s with counter })

/-- Makes a note. -/
def note (s : Session) (level : Log.Level) (source : Log.Source) (text : String) : Session :=
  { s with notes := s.notes ++ [⟨level, source, text⟩] }

end Session

end FrameChunks
