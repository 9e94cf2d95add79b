import DumpTransfer.Yaml.Token

/-! The content of a YAML document: scalars, sequences and mappings. An alias refers by a number
to a node that has been given a name, which may be one that it is a part of.
-/

namespace DumpTransfer.Yaml

/-- A part of a document. -/
inductive Node where
  | scalar (style : ScalarStyle) (tag : Option Text) (text : Text)
  | sequence (items : List Node)
  | mapping (entries : List (Node × Node))
  /-- The node with a number. -/
  | alias (number : Nat)

/-- A document: what it holds, and the nodes that have numbers, the latest first. -/
structure Document where
  root : Node
  numbered : List (Nat × Node) := []

/-- What a node is, or what it stands for. -/
def Document.resolve (document : Document) (node : Node) : Option Node :=
  match node with
  | .alias number => document.numbered.lookup number
  | _ => some node

namespace Node

/-- The scalar that stands where nothing is written. -/
def empty : Node :=
  .scalar .plain none []

/-- What is left of the tokens of a document, the numbers of the names so far and the nodes with
numbers, both the latest first, and what the handles stand for that are declared.
-/
structure Remainder where
  tokens : List Token
  names : List (Text × Nat) := []
  numbered : List (Nat × Node) := []
  handles : List (Text × Text) := []

/-- A reading of a part of the tokens, which may fail. -/
abbrev Reading := StateT Remainder Option

/-- The next token, which stays in place. -/
def peek : Reading (Option Token) := do
  return (← get).tokens.head?

/-- Passes over a token. -/
def skip : Reading Unit :=
  modify fun state => { state with tokens := state.tokens.tail }

/-- Passes over a token, which must come next. -/
def expect (token : Token) : Reading Unit := do
  if (← peek) = some token then skip else failure

/-- Whether one of several tokens, or the end, comes next. -/
def isNext (tokens : List Token) : Reading Bool := do
  return (← peek).all tokens.contains

/-- The state after a name has been given, and the place of the node that it is given to. The
number of a name is how many names there have been. So a name that is given again may share its
number with the next new one.
-/
def Remainder.withName (state : Remainder) (name : Text) : Nat × Remainder :=
  let number := state.names.length
  let names := (name, number) :: state.names.filter (·.1 ≠ name)
  (state.numbered.length, { state with names, numbered := (number, empty) :: state.numbered })

/-- The state after a node has been read for a place. -/
def Remainder.withNode (state : Remainder) (place : Nat) (node : Node) : Remainder :=
  let index := state.numbered.length - 1 - place
  { state with numbered := state.numbered.modify index fun (number, _) => (number, node) }

/-- Reads a node that may be given a name. The name is known inside it. -/
def readNamed (anchor : Option Text) (content : Reading Node) : Reading Node :=
  match anchor with
  | none => content
  | some name => do
      let place ← modifyGet (·.withName name)
      let node ← content
      modify (·.withNode place node)
      return node

/-- A tag in full. -/
def resolvedTag (tag : Tag) : Reading Text := do
  match tag.inFull? (← get).handles with
  | some name => return name
  | none => failure

/-- What may stand before a node. -/
structure Properties where
  anchor : Option Text := none
  tag : Option Text := none

/-- The anchor and the tag before a node, in either order. -/
def properties : Reading Properties := do
  match ← peek with
  | some (.anchor anchor) =>
      skip
      match ← peek with
      | some (.tag tag) =>
          skip
          return ⟨some anchor, some (← resolvedTag tag)⟩
      | _ => return ⟨some anchor, none⟩
  | some (.tag tag) =>
      skip
      let tag ← resolvedTag tag
      match ← peek with
      | some (.anchor anchor) =>
          skip
          return ⟨some anchor, some tag⟩
      | _ => return ⟨none, some tag⟩
  | _ => return {}

/-- Where a node stands, which decides how it may be written. -/
inductive Position where
  /-- Between brackets. -/
  | flow
  | block
  /-- After a key or a colon, where a sequence need not be indented. -/
  | member
  deriving DecidableEq, Repr

/-- The signs after which nothing is written in a mapping without brackets. -/
def memberEnds : List Token :=
  [.key, .value, .blockEnd]

/-- The signs after which nothing is written in a mapping between brackets. -/
def pairEnds : List Token :=
  [.separator, .flowMappingEnd]

/-- The signs after which nothing is written in a pair inside a sequence between brackets. -/
def itemEnds : List Token :=
  [.separator, .flowSequenceEnd]

mutual

/-- A node. -/
def read (position : Position) : Nat → Reading Node
  | 0 => failure
  | steps + 1 => do
      match ← peek with
      | some (.recall name) =>
          skip
          match (← get).names.lookup name with
          | some number => return .alias number
          | none => failure
      | _ =>
          let properties ← properties
          readNamed properties.anchor (readContent position properties steps)

/-- A node after what may stand before it. -/
def readContent (position : Position) (properties : Properties) : Nat → Reading Node
  | 0 => failure
  | steps + 1 => do
      match ← peek, position with
      | some .entry, .member => return .sequence (← readOpenItems steps)
      | some (.scalar style text), _ =>
          skip
          return .scalar style properties.tag text
      | some .flowSequence, _ =>
          skip
          return .sequence (← readFlowItems true steps)
      | some .flowMapping, _ =>
          skip
          return .mapping (← readFlowPairs true steps)
      | some .blockSequence, .block | some .blockSequence, .member =>
          skip
          return .sequence (← readItems steps)
      | some .blockMapping, .block | some .blockMapping, .member =>
          skip
          return .mapping (← readPairs steps)
      | _, _ =>
          if properties.anchor.isSome || properties.tag.isSome then
            return .scalar .plain properties.tag []
          else failure

/-- A node, or nothing before one of several tokens. -/
def readUnless (ends : List Token) (position : Position) : Nat → Reading Node
  | 0 => failure
  | steps + 1 => do
      if ← isNext ends then return empty else read position steps

/-- The items of a sequence without brackets. -/
def readItems : Nat → Reading (List Node)
  | 0 => failure
  | steps + 1 => do
      match ← peek with
      | some .entry =>
          skip
          let item ← readUnless [.entry, .blockEnd] .block steps
          return item :: (← readItems steps)
      | _ =>
          expect .blockEnd
          return []

/-- The items of a sequence that is not indented. -/
def readOpenItems : Nat → Reading (List Node)
  | 0 => failure
  | steps + 1 => do
      match ← peek with
      | some .entry =>
          skip
          let item ← readUnless (.entry :: memberEnds) .block steps
          return item :: (← readOpenItems steps)
      | _ => return []

/-- The entries of a mapping without brackets. -/
def readPairs : Nat → Reading (List (Node × Node))
  | 0 => failure
  | steps + 1 => do
      match ← peek with
      | some .key =>
          skip
          let key ← readUnless memberEnds .member steps
          let value ← readValue memberEnds .member steps
          return (key, value) :: (← readPairs steps)
      | _ =>
          expect .blockEnd
          return []

/-- The value after a key, or nothing if there is no colon. -/
def readValue (ends : List Token) (position : Position) : Nat → Reading Node
  | 0 => failure
  | steps + 1 => do
      match ← peek with
      | some .value =>
          skip
          readUnless ends position steps
      | _ => return empty

/-- The key of a pair inside a sequence between brackets. One that is not written takes the place
of the sign that comes next.
-/
def readPairKey : Nat → Reading Node
  | 0 => failure
  | steps + 1 => do
      if ← isNext (.value :: itemEnds) then
        skip
        return empty
      else read .flow steps

/-- The items of a sequence between brackets; one of them may be a pair. -/
def readFlowItems (isFirst : Bool) : Nat → Reading (List Node)
  | 0 => failure
  | steps + 1 => do
      match ← peek with
      | some .flowSequenceEnd =>
          skip
          return []
      | _ =>
          if !isFirst then expect .separator
          match ← peek with
          | some .flowSequenceEnd =>
              skip
              return []
          | some .key =>
              skip
              let key ← readPairKey steps
              let value ← readValue itemEnds .flow steps
              return .mapping [(key, value)] :: (← readFlowItems false steps)
          | _ =>
              let item ← read .flow steps
              return item :: (← readFlowItems false steps)

/-- The entries of a mapping between brackets; a key may stand alone. -/
def readFlowPairs (isFirst : Bool) : Nat → Reading (List (Node × Node))
  | 0 => failure
  | steps + 1 => do
      match ← peek with
      | some .flowMappingEnd =>
          skip
          return []
      | _ =>
          if !isFirst then expect .separator
          match ← peek with
          | some .flowMappingEnd =>
              skip
              return []
          | some .key =>
              skip
              let key ← readUnless (.value :: pairEnds) .flow steps
              let value ← readValue pairEnds .flow steps
              return (key, value) :: (← readFlowPairs false steps)
          | _ =>
              let key ← read .flow steps
              return (key, empty) :: (← readFlowPairs false steps)

end

/-- The declarations before a document: one version at most, and handles that differ. -/
def readDeclarations (hasVersion : Bool) : Nat → Reading Unit
  | 0 => failure
  | steps + 1 => do
      match ← peek with
      | some (.declaration (.version major minor)) =>
          if hasVersion || major ≠ 1 || (minor ≠ 1 && minor ≠ 2) then failure
          skip
          readDeclarations true steps
      | some (.declaration (.handle handle beginning)) =>
          if ((← get).handles.lookup handle).isSome then failure
          skip
          modify fun state => { state with handles := (handle, beginning) :: state.handles }
          readDeclarations hasVersion steps
      | _ => return ()

/-- The signs with which a document begins that is set off. -/
def beginsDocument : Token → Bool
  | .declaration _ | .documentStart => true
  | _ => false

/-- Passes over the marks after a document. -/
def skipEnds : Nat → Reading Unit
  | 0 => failure
  | steps + 1 => do
      if (← peek) = some .documentEnd then
        skip
        skipEnds steps

/-- A document that is set off by signs. -/
def readExplicit (steps : Nat) : Reading Node := do
  readDeclarations false steps
  expect .documentStart
  let next ← peek
  if next.all beginsDocument || next = some .documentEnd then return empty else read .block steps

/-- The only document of a stream, if there is any. -/
def readStream (steps : Nat) : Reading (Option Node) := do
  match ← peek with
  | none => return none
  | some token =>
      let node ← if beginsDocument token then readExplicit steps else read .block steps
      skipEnds steps
      if (← peek).isSome then failure else return some node

end Node

/-- The document that a text holds, or that it holds none. A text that holds several is refused. -/
def Document.ofText? (text : Text) : Option (Option Document) := do
  let tokens ← Token.ofText? text
  let (root, state) ← (Node.readStream (4 * tokens.length + 10)).run { tokens }
  return root.map fun root => { root, numbered := state.numbered }

end DumpTransfer.Yaml
