import FrameChunks.Document.Scalar
import FrameChunks.Document.Tree

/-!
# Taking entries from other mappings

The value of the key `<<` is a mapping, or a list of mappings, whose entries are taken over. They
come before the entries of the mapping itself, so that its own ones count; of several mappings the
first one counts most.

A mapping may take entries from one around it that takes entries from it in turn. Then each has the
entries of both. There is one difference here to a reader that takes entries over in place: in such
a circle the inner mapping would not get those that the one around had taken before from a third one.

## Main definitions

* `Tree.merged`: the tree with all entries taken over
-/

namespace FrameChunks.Document.Tree

/-- Whether a key says that entries are to be taken over. -/
def isMerge : Tree → Bool
  | scalar tag style text => Scalar.kind? tag style text = some .merge
  | _ => false

/-- The entries to take from a node; nothing if it is no mapping. -/
def entries? : Tree → Option (List (Tree × Tree))
  | mapping _ entries => some entries
  | again around => around.entries?
  | _ => none

/-- The entries to take from the value of a key. -/
def taken? : Tree → Option (List (Tree × Tree))
  | mapping _ entries => some entries
  | list _ items => (items.mapM entries?).map fun all => all.reverse.flatten
  | again around => around.taken?
  | _ => none

/-- The mapping of the given entries, with those of the marked keys put before the other ones. One
with the tag of a scalar takes nothing over. -/
def ofEntries (tag : Option String) (entries : List (Tree × Tree)) : Tree :=
  if (tag.bind Scalar.Kind.ofTag?).isSome then mapping tag entries
  else
    let (marked, own) := entries.partition fun e => e.1.isMerge
    match marked.mapM fun e => e.2.taken? with
    | some taken => mapping tag (taken.flatten ++ own)
    | none => unmergeable tag

mutual

/-- The tree with all entries taken over. -/
def merged : Tree → Tree
  | scalar tag style text => scalar tag style text
  | list tag items => list tag (mergedItems items)
  | mapping tag entries => ofEntries tag (mergedEntries entries)
  | unmergeable tag => unmergeable tag
  -- what is laid out once more has its entries already
  | again around => again around

/-- The items with all entries taken over. -/
def mergedItems : List Tree → List Tree
  | [] => []
  | item :: rest => item.merged :: mergedItems rest

/-- The entries with all entries within them taken over. -/
def mergedEntries : List (Tree × Tree) → List (Tree × Tree)
  | [] => []
  | (key, value) :: rest => (key.merged, value.merged) :: mergedEntries rest

end

end FrameChunks.Document.Tree
