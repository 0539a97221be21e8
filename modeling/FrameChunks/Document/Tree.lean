import FrameChunks.Document.Lexer
import FrameChunks.Keyed

/-!
# The shape of a document

A document is a scalar, a list or a mapping. What a scalar means is not looked at here.

A name that is recalled stands for its node. Within the node itself, which then has no end, the name
stands for what the node was in a reading before; at first that is an empty list or mapping.

## Main definitions

* `Tree`: the shape
* `Grammar`: reading tokens, from the first one on
* `Grammar.node`: reads a node
* `Grammar.read`: reads the one document of a list of tokens
-/

namespace FrameChunks.Document

/-- The shape of a document. A node may have a tag, by its whole name. -/
inductive Tree
  | scalar (tag : Option String) (style : Style) (text : String)
  | list (tag : Option String) (items : List Tree)
  | mapping (tag : Option String) (entries : List (Tree × Tree))
  /-- A mapping that is to take entries from something that has none. -/
  | unmergeable (tag : Option String)
  /-- A list or a mapping around this place, laid out once more. There is something in it, this place
  at least; an empty one stands where the laying out ends. -/
  | again (around : Tree)

/-- A value that is left out. -/
def Tree.missing : Tree := scalar none .plain ""

namespace Grammar

/-- Where one is in a list of tokens. -/
structure Place where
  tokens : List Token
  /-- What the names stand for within their own nodes. -/
  before : Keyed String Tree := .empty
  /-- The nodes that have names. -/
  names : Keyed String Tree := .empty
  /-- The names that were recalled within their own nodes. -/
  loops : List String := []
  /-- What the handles of tags stand for. -/
  handles : List (String × String) := Tag.handles
  /-- The number of lists and mappings around. -/
  depth : Nat := 0

/-- Reads tokens, from the first one on. -/
abbrev Reader := StateT Place (Except DocumentError)

/-- There is no way to go on. -/
def refuse {α : Type} : Reader α := throw .malformed

/-- The next token. -/
def peek : Reader Token := do
  match (← get).tokens with
  | [] => refuse
  | .fault e :: _ => throw e
  | t :: _ => return t

/-- Goes over a token. -/
def next : Reader Unit := modify fun p => { p with tokens := p.tokens.tail }

/-- What stands before a node: its name and its tag. -/
structure Properties where
  name : Option String := none
  tag : Option Tag := none

/-- Reads a tag, if there is one. -/
def tag? : Reader (Option Tag) := do
  match ← peek with
  | .tag t => do
    next
    return some t
  | _ => return none

/-- Reads a name, if there is one. -/
def name? : Reader (Option String) := do
  match ← peek with
  | .anchor name => do
    next
    return some name
  | _ => return none

/-- Reads the name and the tag of a node, in either order. -/
def properties : Reader Properties := do
  match ← name? with
  | some name => return ⟨some name, ← tag?⟩
  | none =>
    match ← tag? with
    | some tag => return ⟨← name?, some tag⟩
    | none => return {}

/-- The whole name of a tag. A scalar whose tag says nothing is taken as a plain one. -/
def resolve (tag : Option Tag) : Reader (Option String) := do
  match tag with
  | none => return none
  | some tag =>
    match tag.resolve? (← get).handles with
    | some name => return some name
    | none => refuse

/-- The scalar of a tag. -/
def scalarOf (tag : Option String) (style : Style) (text : String) : Tree :=
  if tag = some Tag.unspecific then
    .scalar none (if style = .illFormed then .illFormed else .plain) text
  else .scalar tag style text

/-- The tag of a list or a mapping. -/
def collectionTag (tag : Option String) : Option String := tag.filter (· ≠ Tag.unspecific)

/-- Gives a name to a node. -/
def call (name : Option String) (t : Tree) : Reader Unit :=
  match name with
  | none => return
  | some name => modify fun p => { p with names := p.names.insert name t }

/-- Gives a name to a list or a mapping that is about to be read. -/
def callAround (name : Option String) (empty : Tree) : Reader Unit := do
  match name with
  | none => return
  | some n => call name (.again (((← get).before.get? n).getD empty))

/-- The node of a name. -/
def recalled (name : String) : Reader Tree := do
  match (← get).names.get? name with
  | none => refuse
  | some (.again around) => do
    modify fun p => { p with loops := p.loops.insert name }
    return .again around
  | some t => return t

/-- Two nodes must not have one name. -/
def requireNew (name : Option String) : Reader Unit := do
  match name with
  | some name => if (← get).names.contains name then refuse
  | none => return

/-- Lists and mappings stand within each other in at most so many levels. -/
def mostDepth : Nat := 480

/-- Reads what is in a list or a mapping. -/
def within {α : Type} (read : Reader α) : Reader α := do
  let depth := (← get).depth
  if mostDepth ≤ depth then throw .tooDeep
  modify fun p => { p with depth := depth + 1 }
  let a ← read
  modify fun p => { p with depth := depth }
  return a

/-- Where a node stands. -/
inductive Site
  /-- Within brackets. -/
  | flow
  /-- In lines. -/
  | block
  /-- In lines, as a key or a value: the dashes of a list may stand in the column of the key. -/
  | entry
  deriving DecidableEq, Repr

/-- Whether a token ends an item in lines that is left out. -/
def endsItem (t : Token) : Bool := t = .item || t = .blockEnd

/-- Whether a token ends a key or a value in lines that is left out. -/
def endsEntry (t : Token) : Bool := t = .key || t = .value || t = .blockEnd

/-- Whether a token ends a value within brackets that is left out; `close` closes the brackets. -/
def endsFlow (close t : Token) : Bool := t = .comma || t = close

mutual

/-- Reads a node. -/
def node (fuel : Nat) (site : Site) : Reader Tree :=
  match fuel with
  | 0 => refuse
  | fuel + 1 => do
    match ← peek with
    | .recall name => do
      next
      recalled name
    | _ => do
      let p ← properties
      let tag ← resolve p.tag
      let t ← peek
      requireNew p.name
      let lines := site ≠ .flow
      -- A list or a mapping has its name already while it is being read.
      let list (read : Reader (List Tree)) : Reader Tree := do
        callAround p.name (.list (collectionTag tag) [])
        return .list (collectionTag tag) (← within read)
      let mapping (read : Reader (List (Tree × Tree))) : Reader Tree := do
        callAround p.name (.mapping (collectionTag tag) [])
        return .mapping (collectionTag tag) (← within read)
      let tree ←
        match t with
        | .item =>
          if site = .entry then list (alignedItems fuel [])
          else if p.name.isSome || p.tag.isSome then pure (scalarOf tag .plain "")
          else refuse
        | .scalar style text => do
          next
          pure (scalarOf tag style text)
        | .bracketOpen => do
          next
          list (flowItems fuel [])
        | .braceOpen => do
          next
          mapping (flowEntries fuel [])
        | t =>
          if lines && t = .listStart then do
            next
            list (blockItems fuel [])
          else if lines && t = .mappingStart then do
            next
            mapping (blockEntries fuel [])
          -- a name or a tag may stand before nothing
          else if p.name.isSome || p.tag.isSome then pure (scalarOf tag .plain "")
          else refuse
      call p.name tree
      return tree

/-- Reads a node, unless it is left out. -/
def nodeUnless (fuel : Nat) (site : Site) (ends : Token → Bool) : Reader Tree :=
  match fuel with
  | 0 => refuse
  | fuel + 1 => do if ends (← peek) then return Tree.missing else node fuel site

/-- Reads the value of an entry, if there is one. -/
def valueUnless (fuel : Nat) (site : Site) (ends : Token → Bool) : Reader Tree :=
  match fuel with
  | 0 => refuse
  | fuel + 1 => do
    match ← peek with
    | .value => do
      next
      nodeUnless fuel site ends
    | _ => return Tree.missing

/-- Reads the items of a list in lines. Those before are `items`, last one first. -/
def blockItems (fuel : Nat) (items : List Tree) : Reader (List Tree) :=
  match fuel with
  | 0 => refuse
  | fuel + 1 => do
    match ← peek with
    | .item => do
      next
      let t ← nodeUnless fuel .block endsItem
      blockItems fuel (t :: items)
    | .blockEnd => do
      next
      return items.reverse
    | _ => refuse

/-- Reads the items of a list whose dashes stand in the column of a key. -/
def alignedItems (fuel : Nat) (items : List Tree) : Reader (List Tree) :=
  match fuel with
  | 0 => refuse
  | fuel + 1 => do
    match ← peek with
    | .item => do
      next
      let t ← nodeUnless fuel .block fun t => endsItem t || endsEntry t
      alignedItems fuel (t :: items)
    | _ => return items.reverse

/-- Reads the entries of a mapping in lines. Those before are `entries`, last one first. -/
def blockEntries (fuel : Nat) (entries : List (Tree × Tree)) : Reader (List (Tree × Tree)) :=
  match fuel with
  | 0 => refuse
  | fuel + 1 => do
    match ← peek with
    | .key => do
      next
      let key ← nodeUnless fuel .entry endsEntry
      let value ← valueUnless fuel .entry endsEntry
      blockEntries fuel ((key, value) :: entries)
    | .blockEnd => do
      next
      return entries.reverse
    | _ => refuse

/-- Reads an entry within brackets behind the beginning of its key. -/
def flowEntry (fuel : Nat) (close : Token) : Reader (Tree × Tree) :=
  match fuel with
  | 0 => refuse
  | fuel + 1 => do
    let key ← nodeUnless fuel .flow fun t => t = .value || endsFlow close t
    return (key, ← valueUnless fuel .flow (endsFlow close))

/-- Reads the items of a list in brackets. -/
def flowItems (fuel : Nat) (items : List Tree) : Reader (List Tree) :=
  match fuel with
  | 0 => refuse
  | fuel + 1 => do
    match ← peek with
    | .bracketClose => do
      next
      return items.reverse
    | t => do
      if !items.isEmpty then
        if t = .comma then next else refuse
      match ← peek with
      -- an entry in a list is a mapping of its own
      | .key => do
        next
        let entry ← flowEntry fuel .bracketClose
        flowItems fuel (.mapping none [entry] :: items)
      | .bracketClose => do
        next
        return items.reverse
      | _ => do
        let t ← node fuel .flow
        flowItems fuel (t :: items)

/-- Reads the entries of a mapping in braces. -/
def flowEntries (fuel : Nat) (entries : List (Tree × Tree)) : Reader (List (Tree × Tree)) :=
  match fuel with
  | 0 => refuse
  | fuel + 1 => do
    match ← peek with
    | .braceClose => do
      next
      return entries.reverse
    | t => do
      if !entries.isEmpty then
        if t = .comma then next else refuse
      match ← peek with
      | .key => do
        next
        let entry ← flowEntry fuel .braceClose
        flowEntries fuel (entry :: entries)
      | .braceClose => do
        next
        return entries.reverse
      -- a key without a colon
      | _ => do
        let key ← node fuel .flow
        flowEntries fuel ((key, Tree.missing) :: entries)

end

/-- Reads directives. A version is given at most once and must be a first one; a handle gets at most
one meaning. -/
def directives (fuel : Nat) (versioned : Bool) (handles : List (String × String)) :
    Reader (List (String × String)) :=
  match fuel with
  | 0 => refuse
  | fuel + 1 => do
    match ← peek with
    | .directive d => do
      next
      match d with
      | .version major =>
        if versioned || major ≠ 1 then refuse else directives fuel true handles
      | .handle handle meaning =>
        if handles.any (·.1 = handle) then refuse
        else directives fuel versioned ((handle, meaning) :: handles)
      | .reserved => directives fuel versioned handles
    | _ => return handles

/-- Reads the beginning of a document that is marked. -/
def heading (fuel : Nat) : Reader Unit := do
  let handles ← directives fuel false []
  match ← peek with
  | .documentStart => do
    next
    modify fun p => { p with handles := handles ++ Tag.handles }
  | _ => refuse

/-- Goes over the marks behind a document. -/
def marks (fuel : Nat) : Reader Unit :=
  match fuel with
  | 0 => refuse
  | fuel + 1 => do
    match ← peek with
    | .documentEnd => do
      next
      marks fuel
    | _ => return

/-- Reads the only document there is. -/
def document (fuel : Nat) : Reader Tree := do
  match ← peek with
  | .finish => return Tree.missing
  | t => do
    let marked :=
      match t with
      | .directive _ | .documentStart => true
      | _ => false
    if marked then heading fuel
    let tree ←
      match ← peek with
      | .directive _ | .documentStart | .documentEnd | .finish =>
        -- only behind a mark may there be nothing
        if marked then pure Tree.missing else refuse
      | _ => node fuel .block
    marks fuel
    match ← peek with
    | .finish => return tree
    -- a second document, or none
    | _ => do
      heading fuel
      refuse

/-- Reads the one document of a list of tokens, and the place behind it. -/
def read (tokens : List Token) (before : Keyed String Tree) : Except DocumentError (Tree × Place) :=
  -- at most four calls are made before the next token is gone over
  (document (4 * tokens.length + 8)).run { tokens, before }

end Grammar

end FrameChunks.Document
