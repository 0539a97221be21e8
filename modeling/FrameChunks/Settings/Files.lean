import FrameChunks.Document.Reading
import FrameChunks.Keyed
import FrameChunks.Text.Split

/-!
# Files and paths

The files and folders below the working directory, and the paths that lead to them. Of the folders
around the working directory it is known only that there are some.

## Main definitions

* `Path`, `Path.ofText`, `Path.text`: a path, and one text for all ways to write it
* `Files`: the files and folders
* `Files.find`: what a path leads to
-/

namespace FrameChunks.Settings

open Document

/-- The content of a file. -/
inductive Content
  | text (text : String)
  /-- A document that needs no reading. -/
  | document (node : Node)

/-- The document of a content. -/
def Content.read : Content → Except DocumentError Node
  | text s => Node.ofText s
  | document node => .ok node

/-- What a path leads to. -/
inductive Entry
  | folder
  | file (content : Content)

/-- Whether something is a folder. -/
def Entry.isFolder : Entry → Bool
  | folder => true
  | file _ => false

/-- A path, step by step. -/
structure Path where
  /-- The slashes at the front: none if the path starts in the working directory. -/
  root : String
  steps : List String
  deriving DecidableEq, Repr

namespace Path

/-- The slashes at the front of a path that mean something: two stay two, more count as one. -/
def rootOf (path : List Char) : String :=
  match (path.takeWhile (· = '/')).length with
  | 0 => ""
  | 2 => "//"
  | _ => "/"

/-- The path of a text. Empty steps and steps to where one is are left out. -/
def ofText (path : String) : Path :=
  let steps := (Text.split '/' path.toList).map String.ofList
  ⟨rootOf path.toList, steps.filter fun step => step ≠ "" ∧ step ≠ "."⟩

/-- The text of a path. The path without steps is a dot. -/
def text (p : Path) : String :=
  let s := p.root ++ "/".intercalate p.steps
  if s.isEmpty then "." else s

/-- The step to the folder that one is in. -/
def up : String := ".."

/-- The steps without those that lead back. -/
def direct (steps : List String) : List String :=
  steps.foldl (fun place step => if step = up then place.dropLast else place ++ [step]) []

/-- Steps have at most so many bytes. -/
def mostStepBytes : Nat := 255

/-- Paths have fewer bytes than this. -/
def mostBytes : Nat := 4096

end Path

/-- A name is too long to be looked for. -/
inductive PathError
  | tooLong
  deriving DecidableEq, Repr

/-- The files and folders below the working directory, by the steps that lead to them. -/
structure Files where
  entries : Keyed (List String) Entry := .empty

namespace Files

/-- Puts an entry at a path. -/
def put (f : Files) (path : String) (entry : Entry) : Files :=
  ⟨f.entries.insert (Path.direct (Path.ofText path).steps) entry⟩

/-- Takes away what is at a path. -/
def remove (f : Files) (path : String) : Files :=
  ⟨f.entries.erase (Path.direct (Path.ofText path).steps)⟩

/-- What there is at a place: below the working directory, or somewhere around it. A place that leads
on to an entry is a folder. -/
def entryAt (f : Files) : Option (List String) → Option Entry
  | none => some .folder
  | some [] => some .folder
  | some place =>
    match f.entries.get? place with
    | some entry => some entry
    | none => if f.entries.keys.any (place.isPrefixOf ·) then some .folder else none

/-- The folder around a place. -/
def around : Option (List String) → Option (List String)
  | none => none
  | some [] => none
  | some place => some place.dropLast

/-- What the steps from a place lead to. Every step is made in a folder. -/
def follow (f : Files) (place : Option (List String)) :
    List String → Except PathError (Option Entry)
  | [] => .ok (f.entryAt place)
  | step :: rest =>
    if !(f.entryAt place).any (·.isFolder) then .ok none
    else if Path.mostStepBytes < step.utf8ByteSize then .error .tooLong
    else if step = Path.up then follow f (around place) rest
    else
      match place with
      -- what else there is around the working directory is not known
      | none => .ok none
      | some place => follow f (some (place ++ [step])) rest

/-- What a path leads to. -/
def find (f : Files) (p : Path) : Except PathError (Option Entry) :=
  let text := p.text
  if text.contains '\x00' then .ok none
  else if Path.mostBytes ≤ text.utf8ByteSize then .error .tooLong
  else f.follow (if p.root.isEmpty then some [] else none) p.steps

end Files

end FrameChunks.Settings
