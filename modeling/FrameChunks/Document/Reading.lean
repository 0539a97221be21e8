import FrameChunks.Document.Default
import FrameChunks.Document.Merge

/-!
# Reading a document

The scalars of a list or a mapping are given their meanings before any list or mapping in it is
looked at. So of several faults the one that is nearest to the root counts, and of those the first
one.

A node with its own name in it has no end. It is laid out as far as the settings may look, by reading
the tokens several times. What is laid out once more has no faults but those that are found nearer to
the root.

## Main definitions

* `Tree.ofText`: the shape of the one document of a text, laid out
* `Ranked`: a result, or the fault that counts
* `Node.ofTree`: the meaning of a tree
* `Node.ofText`: the document of a text
-/

namespace FrameChunks.Document

/-- Reads a document `n` times more. Within its own node a name stands for what it was before, with
all entries taken over. -/
def Tree.reread (tokens : List Token) (result : Tree × Grammar.Place) :
    Nat → Except DocumentError (Tree × Grammar.Place)
  | 0 => .ok result
  | n + 1 => do reread tokens (← Grammar.read tokens (result.2.names.mapValues merged)) n

/-- The shape of the one document of a text, with all entries taken over. -/
def Tree.ofText (text : String) : Except DocumentError Tree := do
  let tokens := Token.ofText text
  let result ← Grammar.read tokens .empty
  -- From the document one comes to a section and from there to a field. On each of these ways entries
  -- that are taken over lead through such a name once at most, and so do default values.
  let (tree, _) ← reread tokens result (4 * result.2.loops.length)
  return tree.merged

/-- A result, or a fault and its distance from the root. -/
abbrev Ranked (α : Type) := Except (Nat × DocumentError) α

/-- Two results, or the fault that counts. -/
def Ranked.both {α β : Type} : Ranked α → Ranked β → Ranked (α × β)
  | .ok a, .ok b => .ok (a, b)
  | .ok _, .error f => .error f
  | .error e, .ok _ => .error e
  | .error e, .error f => .error (if f.1 < e.1 then f else e)

/-- The types of lists and mappings. -/
inductive Shape
  | list
  | mapping
  /-- A mapping of which only the keys count. -/
  | keys
  /-- A list of mappings with one entry each. -/
  | pairs
  deriving DecidableEq, Repr

/-- The shapes by the ends of their tags. -/
def Shape.tags : List (String × Shape) :=
  [("seq", list), ("map", mapping), ("set", keys), ("omap", pairs), ("pairs", pairs)]

/-- The shape of a tag. -/
def Shape.ofTag? (tag : String) : Option Shape :=
  (tags.find? fun e => Tag.usual ++ e.1 = tag).map Prod.snd

namespace Node

/-- The settings are at most so many steps away from the root. -/
def lookedAt : Nat := 2

/-- A node that is malformed, at a distance from the root. -/
def malformed {α : Type} (rank : Nat) : Ranked α := .error (rank, .malformed)

/-- The key of an entry. A list or a mapping is no key, unless the mapping stands for a scalar, and
the sign for a default value is a text here. -/
def ofKey (rank : Nat) : Tree → Ranked Node
  | .scalar tag style s =>
    if Scalar.kind? tag style s = some .default then .ok (text s)
    else (Scalar.node tag style s).mapError (rank, ·)
  | .mapping tag entries => (Scalar.ofDefault tag entries).mapError (rank, ·)
  | .again around => ofKey rank around
  | _ => malformed rank

mutual

/-- The meaning of a tree whose root is `rank` steps away from that of the document. -/
def ofTree (rank : Nat) : Tree → Ranked Node
  | .scalar tag style s =>
    -- A scalar with the tag of a list is looked at with what is in lists.
    if (tag.bind Shape.ofTag?).isSome then malformed (rank + 1)
    else (Scalar.node tag style s).mapError (rank, ·)
  | .list tag items =>
    match tag.elim (some .list) Shape.ofTag? with
    | none => malformed rank
    | some .list => (ofItems (rank + 1) items).map list
    | some .pairs => (ofPairs (rank + 1) items).map list
    | some _ => malformed (rank + 1)
  | .mapping tag entries =>
    match tag.elim (some .mapping) Shape.ofTag? with
    | none => (Scalar.ofDefault tag entries).mapError (rank, ·)
    | some .mapping => (ofEntries (rank + 1) entries).map mapping
    | some .keys => (ofEntries (rank + 1) entries).map fun es => keys (es.map Prod.fst)
    | some _ => malformed (rank + 1)
  | .unmergeable tag =>
    malformed (if (tag.elim (some .mapping) Shape.ofTag?).isSome then rank + 1 else rank)
  | .again around =>
    .ok (if rank ≤ lookedAt then (ofTree rank around).toOption.getD other else other)

/-- The nodes of the items of a list. -/
def ofItems (rank : Nat) : List Tree → Ranked (List Node)
  | [] => .ok []
  | item :: rest => (Ranked.both (ofTree rank item) (ofItems rank rest)).map fun (n, ns) => n :: ns

/-- The nodes of items that are mappings with one entry each. -/
def ofPairs (rank : Nat) : List Tree → Ranked (List Node)
  | [] => .ok []
  | .mapping _ [(key, value)] :: rest =>
    (Ranked.both (Ranked.both (ofTree rank key) (ofTree rank value)) (ofPairs rank rest)).map
      fun ((k, v), ns) => list [k, v] :: ns
  | .again (.mapping _ [_]) :: rest => (ofPairs rank rest).map fun ns => other :: ns
  | _ :: _ => malformed rank

/-- The nodes of the entries of a mapping. -/
def ofEntries (rank : Nat) : List (Tree × Tree) → Ranked (List (Node × Node))
  | [] => .ok []
  | (key, value) :: rest =>
    (Ranked.both (Ranked.both (ofKey rank key) (ofTree rank value)) (ofEntries rank rest)).map
      fun ((k, v), ns) => (k, v) :: ns

end

/-- The document of a text. -/
def ofText (s : String) : Except DocumentError Node := do
  (ofTree 0 (← Tree.ofText s)).mapError Prod.snd

/-- A section that is the whole document. -/
example : ((ofText "&a \x7bloader: *a, error_policy: skip\x7d").toOption.bind fun n =>
    (n.get? "loader").bind fun l => (l.get? "error_policy").map (isKey "skip")) = some true := by
  decide +kernel

end FrameChunks.Document.Node
