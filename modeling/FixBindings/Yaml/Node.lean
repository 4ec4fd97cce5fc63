import FixBindings.Yaml.Tag
import FixBindings.Yaml.Token

/-!
# Nodes of a YAML text

The document of a text as a graph of nodes with their types. An alias is a further way to the node
that its anchor names. An alias inside of that node makes the document one that is no tree. What is left
out, such as a value after a key, is a null.
-/

namespace FixBindings.Yaml

/-- A node. The parts of a collection are given by their numbers. -/
inductive Node where
  | scalar (tag : Tag) (text : List Char)
  | sequence (tag : Tag) (items : List Nat)
  | mapping (tag : Tag) (entries : List (Nat × Nat))
  deriving DecidableEq, Repr

namespace Node

/-- The type of a node. -/
def tag : Node → Tag
  | scalar t _ | sequence t _ | mapping t _ => t

/-- The node with another type. -/
def setTag (t : Tag) : Node → Node
  | scalar _ text => scalar t text
  | sequence _ items => sequence t items
  | mapping _ entries => mapping t entries

@[simp] theorem tag_setTag (t : Tag) (n : Node) : (n.setTag t).tag = t := by cases n <;> rfl

/-- The node that stands where nothing is written. -/
def empty : Node := .scalar .null []

end Node

/-- The nodes of a document by their numbers. The parts of a collection come before it, so that the
last node is the whole. -/
abbrev Graph := Array Node

/-- What is known while the nodes of a document are read. -/
structure Reading where
  /-- The tokens that are left. -/
  tokens : List Token
  /-- The error behind the last token. -/
  fault : Error
  /-- What the handles of tags stand for. -/
  handles : List (List Char × List Char)
  /-- The anchors that have been used. -/
  used : List (List Char)
  /-- The nodes that anchors name. -/
  anchors : List (List Char × Nat)
  /-- The nodes so far. -/
  graph : Graph
  /-- Whether an alias has named a node around it. -/
  looped : Bool

namespace Reading

/-- The next token. -/
def peek (r : Reading) : Except Error Token :=
  match r.tokens with
  | t :: _ => .ok t
  | [] => .error r.fault

/-- What is left behind the next token. -/
def next (r : Reading) : Reading :=
  { r with tokens := r.tokens.drop 1 }

/-- What is left behind the token `t`, which must come next. -/
def expect (r : Reading) (t : Token) : Except Error Reading := do
  if (← r.peek) = t then return r.next else throw .malformed

/-- The number of one more node. -/
def add (r : Reading) (n : Node) : Nat × Reading :=
  (r.graph.size, { r with graph := r.graph.push n })

@[simp] theorem fst_add (r : Reading) (n : Node) : (r.add n).1 = r.graph.size := rfl

@[simp] theorem graph_add (r : Reading) (n : Node) : (r.add n).2.graph = r.graph.push n := rfl

end Reading

/-- The anchor and the tag in front of a node. -/
structure Properties where
  /-- The name of the anchor. -/
  anchor : Option (List Char) := none
  /-- The name of the type, `!` for the type that the form tells. -/
  tag : Option (List Char) := none

/-- The full name of a tag. -/
def tagName (r : Reading) (handle : Option (List Char)) (suffix : List Char) :
    Except Error (List Char) :=
  match handle with
  | none => .ok suffix
  | some h =>
    match r.handles.lookup h with
    | some p => .ok (p ++ suffix)
    | none => .error .malformed

/-- The properties in front of a node: an anchor and a tag, in either order. -/
def properties (r : Reading) : Except Error (Properties × Reading) := do
  match ← r.peek with
  | .anchor a =>
    match ← r.next.peek with
    | .tag h s => return (⟨some a, some (← tagName r h s)⟩, r.next.next)
    | _ => return (⟨some a, none⟩, r.next)
  | .tag h s =>
    match ← r.next.peek with
    | .anchor a => return (⟨some a, some (← tagName r h s)⟩, r.next.next)
    | _ => return (⟨none, some (← tagName r h s)⟩, r.next)
  | _ => return (⟨none, none⟩, r)

namespace Properties

/-- Whether the form of the node tells its type. -/
def isOpen (p : Properties) : Bool :=
  p.tag.isNone || p.tag == some ['!']

/-- The type of a collection, which is `form` when its form tells it. -/
def collectionTag (p : Properties) (form : Tag) : Tag :=
  if p.isOpen then form else Tag.ofName (p.tag.getD [])

/-- The type of a scalar. Without a tag a scalar that is not plain is a text. -/
def scalarTag (p : Properties) (plain : Bool) (text : List Char) : Tag :=
  if p.tag == some ['!'] || (p.tag.isNone && plain) then Tag.ofForm text
  else if p.tag.isNone then .text
  else Tag.ofName (p.tag.getD [])

end Properties

/-- The reading after the anchor of a node has been met; an anchor is used once. -/
def useAnchor (r : Reading) (anchor : Option (List Char)) : Except Error Reading :=
  match anchor with
  | none => .ok r
  | some a => if r.used.contains a then .error .malformed else .ok { r with used := a :: r.used }

/-- The reading with one more node, which its anchor names from here on. -/
def addNode (r : Reading) (anchor : Option (List Char)) (n : Node) : Nat × Reading :=
  let (i, r) := r.add n
  match anchor with
  | none => (i, r)
  | some a => (i, { r with anchors := (a, i) :: r.anchors })

mutual

/-- The node in front. In a block a node may be a block of its own, and as the value of a block
mapping it may be a sequence that is not indented. The first argument bounds the number of steps. -/
def nodeAt (inBlock unindented : Bool) : Nat → Reading → Except Error (Nat × Reading)
  | 0, _ => .error .malformed
  | fuel + 1, r => do
    match ← r.peek with
    | .alias a =>
      match r.anchors.lookup a with
      | some i => return (i, r.next)
      | none =>
        -- an anchor without a node is that of a node around the alias
        if r.used.contains a then return { r.next with looped := true }.add Node.empty
        else throw .malformed
    | _ =>
      let (p, r) ← properties r
      let t ← r.peek
      let r ← useAnchor r p.anchor
      match t with
      | .scalar text plain => return addNode r.next p.anchor (.scalar (p.scalarTag plain text) text)
      | .flowSequenceStart =>
        let (is, r) ← flowItems true fuel r.next
        return addNode r p.anchor (.sequence (p.collectionTag .sequence) is)
      | .flowMappingStart =>
        let (es, r) ← flowEntries true fuel r.next
        return addNode r p.anchor (.mapping (p.collectionTag .mapping) es)
      | t =>
        if unindented && t == .entry then
          let (is, r) ← plainItems fuel r
          return addNode r p.anchor (.sequence (p.collectionTag .sequence) is)
        else if inBlock && t == .blockSequenceStart then
          let (is, r) ← blockItems fuel r.next
          return addNode r p.anchor (.sequence (p.collectionTag .sequence) is)
        else if inBlock && t == .blockMappingStart then
          let (es, r) ← blockEntries fuel r.next
          return addNode r p.anchor (.mapping (p.collectionTag .mapping) es)
        else if p.anchor.isSome || p.tag.isSome then
          return addNode r p.anchor
            (.scalar (if p.isOpen then .null else Tag.ofName (p.tag.getD [])) [])
        else throw .malformed

/-- The node in front, or an empty one before one of the tokens `ts`. -/
def nodeUnless (ts : List Token) (inBlock unindented : Bool) :
    Nat → Reading → Except Error (Nat × Reading)
  | 0, _ => .error .malformed
  | fuel + 1, r => do
    if ts.contains (← r.peek) then return r.add Node.empty
    else nodeAt inBlock unindented fuel r

/-- The value behind a colon, or an empty node where there is none, before one of the tokens
`ts`. -/
def valueUnless (ts : List Token) (inBlock unindented : Bool) :
    Nat → Reading → Except Error (Nat × Reading)
  | 0, _ => .error .malformed
  | fuel + 1, r => do
    if (← r.peek) = .value then nodeUnless ts inBlock unindented fuel r.next
    else return r.add Node.empty

/-- The entries of a block sequence up to its end. -/
def blockItems : Nat → Reading → Except Error (List Nat × Reading)
  | 0, _ => .error .malformed
  | fuel + 1, r => do
    if (← r.peek) = .entry then
      let (i, r) ← nodeUnless [.entry, .blockEnd] true false fuel r.next
      let (is, r) ← blockItems fuel r
      return (i :: is, r)
    else return ([], ← r.expect .blockEnd)

/-- The entries of a sequence that is not indented. -/
def plainItems : Nat → Reading → Except Error (List Nat × Reading)
  | 0, _ => .error .malformed
  | fuel + 1, r => do
    if (← r.peek) = .entry then
      let (i, r) ← nodeUnless [.entry, .key, .value, .blockEnd] true false fuel r.next
      let (is, r) ← plainItems fuel r
      return (i :: is, r)
    else return ([], r)

/-- The entries of a block mapping up to its end. -/
def blockEntries : Nat → Reading → Except Error (List (Nat × Nat) × Reading)
  | 0, _ => .error .malformed
  | fuel + 1, r => do
    if (← r.peek) = .key then
      let (k, r) ← nodeUnless [.key, .value, .blockEnd] true true fuel r.next
      let (v, r) ← valueUnless [.key, .value, .blockEnd] true true fuel r
      let (es, r) ← blockEntries fuel r
      return ((k, v) :: es, r)
    else return ([], ← r.expect .blockEnd)

/-- The items of a flow sequence up to its bracket. An item with a key is a mapping of one entry. -/
def flowItems (first : Bool) : Nat → Reading → Except Error (List Nat × Reading)
  | 0, _ => .error .malformed
  | fuel + 1, r => do
    if (← r.peek) = .flowSequenceEnd then return ([], r.next)
    let r ← if first then pure r else r.expect .separator
    match ← r.peek with
    | .key =>
      let (k, r) ← nodeUnless [.value, .separator, .flowSequenceEnd] false false fuel r.next
      let (v, r) ← valueUnless [.separator, .flowSequenceEnd] false false fuel r
      let (i, r) := r.add (.mapping .mapping [(k, v)])
      let (is, r) ← flowItems false fuel r
      return (i :: is, r)
    | .flowSequenceEnd => return ([], r.next)
    | _ =>
      let (i, r) ← nodeAt false false fuel r
      let (is, r) ← flowItems false fuel r
      return (i :: is, r)

/-- The entries of a flow mapping up to its brace. -/
def flowEntries (first : Bool) : Nat → Reading → Except Error (List (Nat × Nat) × Reading)
  | 0, _ => .error .malformed
  | fuel + 1, r => do
    if (← r.peek) = .flowMappingEnd then return ([], r.next)
    let r ← if first then pure r else r.expect .separator
    match ← r.peek with
    | .key =>
      let (k, r) ← nodeUnless [.value, .separator, .flowMappingEnd] false false fuel r.next
      let (v, r) ← valueUnless [.separator, .flowMappingEnd] false false fuel r
      let (es, r) ← flowEntries false fuel r
      return ((k, v) :: es, r)
    | .flowMappingEnd => return ([], r.next)
    | _ =>
      let (k, r) ← nodeAt false false fuel r
      let (v, r) := r.add Node.empty
      let (es, r) ← flowEntries false fuel r
      return ((k, v) :: es, r)

end

/-! ## Documents -/

/-- The handles that stand for something in every document. -/
def commonHandles : List (List Char × List Char) :=
  [(['!'], ['!']), (['!', '!'], commonTags.toList)]

/-- The handles that the directives in front declare, and what is left behind them. The version of
the notation is named at most once and is 1, and no handle is declared twice. -/
def declaredHandles (fault : Error) (versioned : Bool) (handles : List (List Char × List Char)) :
    List Token → Except Error (List (List Char × List Char) × List Token)
  | .directive (.version major) :: ts =>
    if versioned || major != 1 then .error .malformed
    else declaredHandles fault true handles ts
  | .directive (.tag h uri) :: ts =>
    if (handles.lookup h).isSome then .error .malformed
    else declaredHandles fault versioned ((h, uri) :: handles) ts
  | .directive .other :: ts => declaredHandles fault versioned handles ts
  | [] => .error fault
  | ts => .ok (handles, ts)

/-- Whether a document ends before a token. -/
def endsDocument : Token → Bool
  | .directive _ | .documentStart | .documentEnd | .textEnd => true
  | _ => false

/-- Check that no further document comes. -/
def expectEnd (fault : Error) (ts : List Token) : Except Error Unit :=
  match ts.dropWhile (· == .documentEnd) with
  | [] => .error fault
  | .textEnd :: _ => .ok ()
  | ts => do
    let _ ← declaredHandles fault false [] ts
    throw .malformed

/-- The graph of the document whose tokens come, behind which no further document may come. No node of
the graph is part of itself. -/
def documentGraph (fault : Error) (handles : List (List Char × List Char)) (ts : List Token) :
    Except Error Graph := do
  let (_, r) ← nodeAt true false (4 * ts.length + 4) ⟨ts, fault, handles, [], [], #[], false⟩
  expectEnd fault r.tokens
  if r.looped then throw .looped else return r.graph

/-- The document of a text, if it has one. -/
def Graph.read? (text : List Char) : Except Error (Option Graph) := do
  let scan := tokensOf text
  let fault := scan.fault.getD .malformed
  match scan.tokens with
  | [] => throw fault
  | .textEnd :: _ => return none
  | .directive _ :: _ | .documentStart :: _ =>
    let (handles, ts) ← declaredHandles fault false [] scan.tokens
    match ts with
    | .documentStart :: ts =>
      match ts with
      | [] => throw fault
      | t :: _ =>
        if endsDocument t then
          expectEnd fault ts
          return some #[Node.empty]
        else return some (← documentGraph fault (handles ++ commonHandles) ts)
    | _ => throw .malformed
  | _ => return some (← documentGraph fault commonHandles scan.tokens)

end FixBindings.Yaml
