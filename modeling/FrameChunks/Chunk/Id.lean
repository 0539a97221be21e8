import FrameChunks.Text.Hex

/-!
# Chunk ids

A chunk id is a time and an increment. Ids are ordered by the time and then by the increment; their
text is the two numbers in hexadecimal, each filled to sixteen digits.

## Main definitions

* `ChunkId`, `ChunkId.text`, `ChunkId.Precedes`
* `ChunkId.Counter`: the source of increments
* `ChunkId.Counter.next`: a fresh id at a given time
* `ChunkId.sort`, `ChunkId.greatest?`: by the order of ids
-/

namespace FrameChunks

/-- The identifier of a chunk. -/
structure ChunkId where
  /-- The time of creation, in nanoseconds. -/
  time : Int
  increment : Int
  deriving DecidableEq, Repr, Inhabited

namespace ChunkId

/-- The two numbers in hexadecimal. -/
def text (id : ChunkId) : String :=
  String.ofList (Text.Hex.padded 16 id.time ++ Text.Hex.padded 16 id.increment)

/-- The earlier id, or of two at the same time the one with the smaller increment. -/
def Precedes (a b : ChunkId) : Prop := a.time < b.time ∨ a.time = b.time ∧ a.increment < b.increment

instance (a b : ChunkId) : Decidable (a.Precedes b) := inferInstanceAs (Decidable (_ ∨ _))

/-- The ids in their order. -/
def sort (ids : List ChunkId) : List ChunkId := ids.mergeSort fun a b => decide (¬ b.Precedes a)

/-- The last id in the order of ids. -/
def greatest? : List ChunkId → Option ChunkId
  | [] => none
  | id :: rest => some (rest.foldl (fun a b => if a.Precedes b then b else a) id)

/-- The source of increments. -/
structure Counter where
  next : Int
  deriving DecidableEq, Repr

/-- The number of increments before they start again. -/
def period : Int := 0x10000000000000000

/-- A fresh id at a given time, and the counter after it. -/
def Counter.fresh (c : Counter) (time : Int) : ChunkId × Counter :=
  (⟨time, c.next % period⟩, ⟨c.next + 1⟩)

/-- Fresh ids at the given times, one after the other. -/
def Counter.freshAll (c : Counter) : List Int → List ChunkId
  | [] => []
  | time :: times => (c.fresh time).1 :: (c.fresh time).2.freshAll times

end ChunkId

end FrameChunks
