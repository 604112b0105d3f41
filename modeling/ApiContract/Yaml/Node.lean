import ApiContract.Yaml.Token

/-!
YAML nodes, read from the tokens of a text that holds one document. An alias stands for the node that
was last given its number when the whole document is read. The number of an anchor counts the names
before it, so an anchor that takes over a name shares its number with the next new name.
-/

namespace ApiContract.Yaml

inductive Node where
  | scalar (tag : Option Tag) (plain : Bool) (text : String)
  | sequence (tag : Option Tag) (items : List Node)
  | mapping (tag : Option Tag) (entries : List (Node × Node))
  | alias (number : Nat)
deriving Repr, Inhabited

namespace Node

def emptyScalar : Node := .scalar none true ""

mutual

/-- How many parts a node has; a collection counts its two ends. -/
def size : Node → Nat
  | .sequence _ items => sizeItems items + 2
  | .mapping _ entries => sizeEntries entries + 2
  | _ => 1

def sizeItems : List Node → Nat
  | [] => 0
  | item :: rest => size item + sizeItems rest

def sizeEntries : List (Node × Node) → Nat
  | [] => 0
  | (key, value) :: rest => size key + size value + sizeEntries rest

end

end Node

/-- The anchors of a document. Each has a place in the order in which they begin; numbers map to
places, the last one first, and places to nodes. -/
structure Anchors where
  names : List (String × Nat) := []
  places : List (Nat × Nat) := []
  nodes : List (Nat × Node) := []

namespace Anchors

/-- The number that a name stands for here. -/
def number? (anchors : Anchors) (name : String) : Option Nat :=
  (anchors.names.find? (·.1 == name)).map (·.2)

/-- Opens an anchor at the next place. -/
def begin (anchors : Anchors) (name : String) : Nat × Anchors :=
  let place := anchors.places.length
  let number := anchors.names.length
  let others := anchors.names.filter (·.1 != name)
  (place, { anchors with
    names := (name, number) :: others, places := (number, place) :: anchors.places })

def keep (anchors : Anchors) (place : Nat) (node : Node) : Anchors :=
  { anchors with nodes := (place, node) :: anchors.nodes }

/-- The node of a number. -/
def find? (anchors : Anchors) (number : Nat) : Option Node := do
  let entry ← anchors.places.find? (·.1 == number)
  (anchors.nodes.find? (·.1 == entry.2)).map (·.2)

end Anchors

structure Document where
  root : Node
  anchors : Anchors

/-- What is left to read, and the handles and anchors that are known so far. -/
structure Reading where
  tokens : List Token
  handles : List (String × Tag) := []
  anchors : Anchors := {}

namespace Reading

def peek (reading : Reading) : Option Token := reading.tokens.head?

def skip (reading : Reading) : Reading := { reading with tokens := reading.tokens.drop 1 }

/-- Skips a token that must come next. -/
def expect (reading : Reading) (token : Token) : Option Reading :=
  if reading.peek = some token then some reading.skip else none

def defaultHandles : List (String × Tag) := [("!", .ofText "!"), ("!!", .core "")]

/-- The whole tag that a handle and a suffix spell. -/
def tag? (reading : Reading) (handle : String) (suffix : Tag) : Option Tag :=
  if handle = "" then some suffix
  else ((reading.handles ++ defaultHandles).find? (·.1 == handle)).map (·.2.append suffix)

structure Properties where
  anchor : Option String := none
  tag : Option Tag := none

/-- An anchor and a tag before a node, in either order. -/
def properties (reading : Reading) : Option (Properties × Reading) :=
  match reading.tokens with
  | .anchor name :: .tag handle suffix :: rest => do
      let tag ← reading.tag? handle suffix
      return (⟨some name, some tag⟩, { reading with tokens := rest })
  | .tag handle suffix :: .anchor name :: rest => do
      let tag ← reading.tag? handle suffix
      return (⟨some name, some tag⟩, { reading with tokens := rest })
  | .anchor name :: rest => some (⟨some name, none⟩, { reading with tokens := rest })
  | .tag handle suffix :: rest => do
      let tag ← reading.tag? handle suffix
      return (⟨none, some tag⟩, { reading with tokens := rest })
  | _ => some ({}, reading)

def beginAnchor (reading : Reading) : Option String → Option Nat × Reading
  | none => (none, reading)
  | some name =>
      let (place, anchors) := reading.anchors.begin name
      (some place, { reading with anchors })

def keepAnchored (reading : Reading) (place : Option Nat) (node : Node) : Reading :=
  match place with
  | none => reading
  | some place => { reading with anchors := reading.anchors.keep place node }

mutual

/-- A node; in block context it may be a block collection, and after a key its entries may stand
without indentation. -/
def node (block indentless : Bool) : Nat → Reading → Option (Node × Reading)
  | 0, _ => none
  | fuel + 1, reading =>
      match reading.peek with
      | some (.alias name) => do
          let number ← reading.anchors.number? name
          return (.alias number, reading.skip)
      | _ => do
          let (props, reading) ← reading.properties
          let (place, reading) := reading.beginAnchor props.anchor
          let (node, reading) ← content block indentless props fuel reading
          return (node, reading.keepAnchored place node)

def content (block indentless : Bool) (props : Properties) : Nat → Reading → Option (Node × Reading)
  | 0, _ => none
  | fuel + 1, reading =>
      match reading.peek with
      | some .blockEntry =>
          if indentless then do
            let (items, reading) ← indentlessItems fuel reading
            return (.sequence props.tag items, reading)
          else bare props reading
      | some (.scalar plain text) => some (.scalar props.tag plain text, reading.skip)
      | some .flowSequence => do
          let (items, reading) ← flowItems true fuel reading.skip
          return (.sequence props.tag items, reading)
      | some .flowMapping => do
          let (entries, reading) ← flowEntries true fuel reading.skip
          return (.mapping props.tag entries, reading)
      | some .blockSequence =>
          if block then do
            let (items, reading) ← blockItems fuel reading.skip
            return (.sequence props.tag items, reading)
          else bare props reading
      | some .blockMapping =>
          if block then do
            let (entries, reading) ← blockEntries fuel reading.skip
            return (.mapping props.tag entries, reading)
          else bare props reading
      | _ => bare props reading

/-- A node with nothing but properties is an empty scalar. -/
def bare (props : Properties) (reading : Reading) : Option (Node × Reading) :=
  if props.anchor.isSome || props.tag.isSome then some (.scalar props.tag true "", reading) else none

def blockItems : Nat → Reading → Option (List Node × Reading)
  | 0, _ => none
  | fuel + 1, reading =>
      match reading.peek with
      | some .blockEnd => some ([], reading.skip)
      | some .blockEntry => do
          let (item, reading) ← itemOrEmpty [.blockEntry, .blockEnd] true false fuel reading.skip
          let (items, reading) ← blockItems fuel reading
          return (item :: items, reading)
      | _ => none

def indentlessItems : Nat → Reading → Option (List Node × Reading)
  | 0, _ => none
  | fuel + 1, reading =>
      match reading.peek with
      | some .blockEntry => do
          let (item, reading) ←
            itemOrEmpty [.blockEntry, .key, .value, .blockEnd] true false fuel reading.skip
          let (items, reading) ← indentlessItems fuel reading
          return (item :: items, reading)
      | _ => some ([], reading)

/-- A node, unless one of the given tokens shows that it is left out. -/
def itemOrEmpty (ends : List Token) (block indentless : Bool) :
    Nat → Reading → Option (Node × Reading)
  | 0, _ => none
  | fuel + 1, reading =>
      match reading.peek with
      | none => node block indentless fuel reading
      | some token =>
          if ends.contains token then some (Node.emptyScalar, reading)
          else node block indentless fuel reading

/-- What follows a key: a value after its mark, or nothing. -/
def valueOrEmpty (ends : List Token) (block : Bool) : Nat → Reading → Option (Node × Reading)
  | 0, _ => none
  | fuel + 1, reading =>
      match reading.peek with
      | some .value => itemOrEmpty ends block block fuel reading.skip
      | _ => some (Node.emptyScalar, reading)

def blockEntries : Nat → Reading → Option (List (Node × Node) × Reading)
  | 0, _ => none
  | fuel + 1, reading =>
      match reading.peek with
      | some .blockEnd => some ([], reading.skip)
      | some .key => do
          let ends := [Token.key, .value, .blockEnd]
          let (key, reading) ← itemOrEmpty ends true true fuel reading.skip
          let (value, reading) ← valueOrEmpty ends true fuel reading
          let (entries, reading) ← blockEntries fuel reading
          return ((key, value) :: entries, reading)
      | _ => none

/-- Items between brackets, separated by commas; a key makes a mapping of one entry. -/
def flowItems (first : Bool) : Nat → Reading → Option (List Node × Reading)
  | 0, _ => none
  | fuel + 1, reading =>
      if reading.peek = some .flowSequenceEnd then some ([], reading.skip)
      else do
        let reading ← if first then some reading else reading.expect .flowEntry
        match reading.peek with
        | some .flowSequenceEnd => return ([], reading.skip)
        | some .key =>
            let (key, reading) ← pairKey fuel reading.skip
            let (value, reading) ← valueOrEmpty [.flowEntry, .flowSequenceEnd] false fuel reading
            let (items, reading) ← flowItems false fuel reading
            return (.mapping none [(key, value)] :: items, reading)
        | _ =>
            let (item, reading) ← node false false fuel reading
            let (items, reading) ← flowItems false fuel reading
            return (item :: items, reading)

/-- The key of a single entry in brackets; where it is left out, the token in its place is passed over. -/
def pairKey : Nat → Reading → Option (Node × Reading)
  | 0, _ => none
  | fuel + 1, reading =>
      match reading.peek with
      | some token =>
          if [Token.value, .flowEntry, .flowSequenceEnd].contains token then
            some (Node.emptyScalar, reading.skip)
          else node false false fuel reading
      | none => none

def flowEntries (first : Bool) : Nat → Reading → Option (List (Node × Node) × Reading)
  | 0, _ => none
  | fuel + 1, reading =>
      if reading.peek = some .flowMappingEnd then some ([], reading.skip)
      else do
        let reading ← if first then some reading else reading.expect .flowEntry
        match reading.peek with
        | some .flowMappingEnd => return ([], reading.skip)
        | some .key =>
            let (key, reading) ←
              itemOrEmpty [.value, .flowEntry, .flowMappingEnd] false false fuel reading.skip
            let (value, reading) ← valueOrEmpty [.flowEntry, .flowMappingEnd] false fuel reading
            let (entries, reading) ← flowEntries false fuel reading
            return ((key, value) :: entries, reading)
        | _ =>
            let (key, reading) ← node false false fuel reading
            let (entries, reading) ← flowEntries false fuel reading
            return ((key, Node.emptyScalar) :: entries, reading)

end

/-- Directives before a document: at most one version, 1.1 or 1.2, and handles that all differ. -/
def directives (versioned : Bool) : List Token → List (String × Tag) →
    Option (List (String × Tag) × List Token)
  | .version major minor :: rest, handles =>
      if versioned ∨ major ≠ 1 ∨ (minor ≠ 1 ∧ minor ≠ 2) then none else directives true rest handles
  | .tagHandle handle start :: rest, handles =>
      if handles.any (·.1 == handle) then none else directives versioned rest ((handle, start) :: handles)
  | rest, handles => some (handles, rest)

def fuelFor (tokens : List Token) : Nat := 4 * tokens.length + 16

/-- The node after a document mark; there may be none. -/
def documentContent (reading : Reading) : Option (Node × Reading) :=
  match reading.tokens with
  | [] => some (Node.emptyScalar, reading)
  | .version _ _ :: _ => some (Node.emptyScalar, reading)
  | .tagHandle _ _ :: _ => some (Node.emptyScalar, reading)
  | .documentStart :: _ => some (Node.emptyScalar, reading)
  | .documentEnd :: _ => some (Node.emptyScalar, reading)
  | tokens => node true false (fuelFor tokens) reading

def document (tokens : List Token) : Option (Node × Reading) :=
  match tokens with
  | [] => some (Node.emptyScalar, { tokens })
  | .version _ _ :: _ | .tagHandle _ _ :: _ | .documentStart :: _ => do
      let (handles, rest) ← directives false tokens []
      let reading ← Reading.expect { tokens := rest, handles } .documentStart
      reading.documentContent
  | tokens => node true false (fuelFor tokens) { tokens }

end Reading

/-- The only document of a text; none when the text is no YAML or holds more than one. -/
def Document.read? (text : String) : Option Document := do
  let tokens ← tokens? text
  let (root, reading) ← Reading.document tokens
  if reading.tokens.all (· == Token.documentEnd) then return ⟨root, reading.anchors⟩ else none

end ApiContract.Yaml
