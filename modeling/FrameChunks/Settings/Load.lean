import FrameChunks.Session
import FrameChunks.Settings.Check
import FrameChunks.Settings.Files

/-!
# Where settings come from

Settings come from a file, if there is one, and from environment variables, which take precedence
over the file. What neither of them sets keeps its usual value.

## Main definitions

* `Surroundings`: the files and the environment variables
* `override`: a document with the environment variables put in
* `load`, `loadOnce`: the settings
-/

namespace FrameChunks.Settings

open Document

/-- The files and the environment variables. -/
structure Surroundings where
  files : Files := {}
  /-- The environment variables. -/
  environment : Keyed String String := .empty

/-- Why there are no settings. -/
inductive LoadError
  /-- The document is not as it should be. -/
  | invalid (issues : List Issue)
  /-- The file cannot be read. -/
  | unreadable (error : DocumentError)
  /-- A variable is to go where there is no mapping. -/
  | noMapping
  /-- The path leads to a folder. -/
  | folder
  /-- The path is too long to be looked for. -/
  | path (error : PathError)
  deriving DecidableEq, Repr

/-- Loading settings makes notes, also if it fails. -/
abbrev Loading := EStateM LoadError Session

namespace Surroundings

/-- The surroundings with an entry at a path. -/
def put (w : Surroundings) (path : String) (entry : Entry) : Surroundings :=
  { w with files := w.files.put path entry }

/-- The surroundings without what is at a path. -/
def remove (w : Surroundings) (path : String) : Surroundings :=
  { w with files := w.files.remove path }

/-- The value of a variable of this library. -/
def value? (w : Surroundings) (name : String) : Option String :=
  w.environment.get? ("ROS2_IMAGE_LOADER_" ++ name)

/-- The files that are looked for if no path is given. -/
def usualFiles : List String := ["ros2_image_loader.yaml", "ros2_image_loader.yml"]

end Surroundings

/-- Makes a note. -/
def note (level : Log.Level) (text : String) : Loading Unit :=
  modify fun s => s.note level .settings text

/-- What a path leads to. -/
def find (w : Surroundings) (p : Path) : Loading (Option Entry) :=
  ofExcept ((w.files.find p).mapError .path)

/-- The first of several files that there is. -/
def findFirst (w : Surroundings) : List String → Loading (Option (Path × Entry))
  | [] => return none
  | name :: more => do
    match ← find w (.ofText name) with
    | some entry => return some (.ofText name, entry)
    | none => findFirst w more

/-- The file to read, if there is one: the given one, that of the environment, or a usual one. -/
def findFile (w : Surroundings) (path : Option String) : Loading (Option (Path × Entry)) := do
  match path <|> w.value? "CONFIG" with
  -- a named file that is missing is not replaced by a usual one
  | some path =>
    let path := Path.ofText path
    match ← find w path with
    | some entry => return some (path, entry)
    | none =>
      note .warning s!"Config file not found: {path.text}"
      return none
  | none => findFirst w Surroundings.usualFiles

/-- The document of a file. One that says nothing counts as an empty mapping. -/
def readFile (path : Path) (entry : Entry) : Loading Node := do
  note .info s!"Loading config from: {path.text}"
  match entry with
  | .folder => throw .folder
  | .file content =>
    match content.read with
    | .error e => throw (.unreadable e)
    | .ok node => return if node.isVoid then .mapping [] else node

/-- The fields that environment variables set: the variable, the section and the key. -/
def variableFields : List (String × String × String) :=
  [("ERROR_POLICY", "loader", "error_policy"),
   ("NUM_ROWS_HINT", "loader", "default_num_rows"),
   ("LOG_LEVEL", "logging", "level"),
   ("LOG_FORMAT", "logging", "format")]

/-- The document with a field of a section set to a text. -/
def setField (heading key value : String) : Node → Except LoadError Node
  | .mapping entries =>
    -- The later entry of two with one key counts, so the new one goes to the end.
    match Node.lookup? entries heading with
    | none => .ok (.mapping (entries ++ [(.text heading, .mapping [(.text key, .text value)])]))
    | some (.mapping fields) =>
      .ok (.mapping (entries ++
        [(.text heading, .mapping (fields ++ [(.text key, .text value)]))]))
    -- bare keys take another one, and are no mapping after it either
    | some (.keys items) =>
      .ok (.mapping (entries ++ [(.text heading, .keys (items ++ [.text key]))]))
    | some _ => .error .noMapping
  | _ => .error .noMapping

/-- The document with the environment variables put in. An empty variable counts as missing. -/
def override (w : Surroundings) (n : Node) : Except LoadError Node :=
  variableFields.foldlM
    (fun n (name, heading, key) =>
      match w.value? name with
      | none => .ok n
      | some value => if value.isEmpty then .ok n else setField heading key value n)
    n

/-- The settings in the given surroundings, from the file of the given path if there is one. -/
def load (w : Surroundings) (path : Option String) : Loading Settings := do
  let node ←
    match ← findFile w path with
    | some (path, entry) => readFile path entry
    | none => do
      note .debug "No config file, using defaults and environment"
      pure (.mapping [])
  let node ← ofExcept (override w node)
  ofExcept ((ofDocument node).mapError .invalid)

/-- The settings that were loaded before, or newly loaded ones, and whether they were loaded
before. -/
def loadOnce (w : Surroundings) (kept : Option Settings) : Loading (Settings × Bool) :=
  match kept with
  | some settings => return (settings, true)
  | none => do return (← load w none, false)

end FrameChunks.Settings
