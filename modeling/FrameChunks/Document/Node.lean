import FrameChunks.Number.Binary

/-!
# Typed documents

## Main definitions

* `Node`: a document whose scalars have types
* `Node.get?`: the value of a key
* `Node.isVoid`: whether a document says nothing
-/

namespace FrameChunks.Document

/-- A document whose scalars have types. -/
inductive Node
  | null
  | bool (b : Bool)
  | integer (n : Int)
  /-- A number of the double format. -/
  | float (x : Binary)
  | text (s : String)
  /-- A text with half a surrogate pair in it, which is no text of Unicode. -/
  | illFormed
  /-- A value of another kind, such as a date. -/
  | other
  | list (items : List Node)
  /-- A mapping of which only the keys are left. -/
  | keys (items : List Node)
  /-- A mapping. Of several entries with one key the last one counts. -/
  | mapping (entries : List (Node × Node))

namespace Node

/-- Whether a node is the text of a key. -/
def isKey (key : String) : Node → Bool
  | text s => s = key
  | _ => false

/-- The value of a key among entries. -/
def lookup? (entries : List (Node × Node)) (key : String) : Option Node :=
  (entries.reverse.find? fun e => e.1.isKey key).map Prod.snd

/-- The value of a key of a mapping. -/
def get? (n : Node) (key : String) : Option Node :=
  match n with
  | mapping entries => lookup? entries key
  | _ => none

/-- Whether a document says nothing: it is empty, zero, false or null. -/
def isVoid : Node → Bool
  | null => true
  | bool b => !b
  | integer n => n = 0
  | float x => x.magnitude = 0
  | text s => s.isEmpty
  | illFormed => false
  | other => false
  | list items => items.isEmpty
  | keys items => items.isEmpty
  | mapping entries => entries.isEmpty

theorem lookup?_append_self (entries : List (Node × Node)) (key : String) (value : Node) :
    lookup? (entries ++ [(text key, value)]) key = some value := by
  simp [lookup?, isKey]

theorem lookup?_append_of_ne (entries : List (Node × Node)) {key other : String} (value : Node)
    (h : other ≠ key) : lookup? (entries ++ [(text key, value)]) other = lookup? entries other := by
  simp [lookup?, isKey, Ne.symm h]

end Node

end FrameChunks.Document
