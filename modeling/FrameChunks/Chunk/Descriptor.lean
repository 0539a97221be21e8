/-!
# Component descriptors

## Main definitions

* `Descriptor`: the name of a component and the archetype that it belongs to
* `Descriptor.qualifiedName`: both in one text
-/

namespace FrameChunks

/-- The name of a component, and the archetype that it belongs to. -/
structure Descriptor where
  component : String
  archetype : Option String := none
  deriving DecidableEq, Repr

namespace Descriptor

/-- The descriptor with another archetype. -/
def withArchetype (d : Descriptor) (archetype : String) : Descriptor :=
  { d with archetype := some archetype }

/-- The archetype, a colon and the component; without archetype the component alone. -/
def qualifiedName (d : Descriptor) : String :=
  match d.archetype with
  | some archetype => archetype ++ ":" ++ d.component
  | none => d.component

end Descriptor

end FrameChunks
