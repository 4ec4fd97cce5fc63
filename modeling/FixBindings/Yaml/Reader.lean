import FixBindings.Yaml.Node
import FixBindings.Yaml.ScalarValue

/-!
# Reading YAML

The value of a YAML text. The nodes of a document are given their values breadth first: the parts of
the whole, then the parts of its parts, and so on, each node once. So of several errors the one
nearest to the whole counts, and among equally near ones the first in the text.
-/

namespace FixBindings.Yaml

open Document

/-! ## Nodes in their document -/

namespace Graph

/-- The node of a number. -/
def node (g : Graph) (i : Nat) : Node :=
  g.getD i Node.empty

/-- The main value of a mapping: the value of its first key of the type for it. -/
def mainValue? (g : Graph) (entries : List (Nat × Nat)) : Option Nat :=
  (entries.find? fun e ↦ (g.node e.1).tag = .main).map (·.2)

/-- The text that a node stands for where a scalar has to be: that of a scalar, or of the main value
of a mapping. The first argument bounds the depth. -/
def text? (g : Graph) : Nat → Nat → Option (List Char)
  | 0, _ => none
  | fuel + 1, i =>
    match g.node i with
    | .scalar _ text => some text
    | .sequence _ _ => none
    | .mapping _ entries => (g.mainValue? entries).bind (text? g fuel)

/-- The graph with the key of a main value as a text. -/
def asText (g : Graph) (i : Nat) : Graph :=
  g.setIfInBounds i ((g.node i).setTag .text)

/-- The entries of a mapping: nothing for another node. -/
def entries? (g : Graph) (i : Nat) : Option (List (Nat × Nat)) :=
  match g.node i with
  | .mapping _ entries => some entries
  | _ => none

/-! ## Merging -/

/-- The entries that a sequence of mappings gives to the mapping around it; those of an earlier
mapping come later. `settle` makes the merges of a mapping. -/
def mergedItems (settle : Graph → Nat → Except Error Graph) (g : Graph) :
    List Nat → Except Error (List (Nat × Nat) × Graph)
  | [] => .ok ([], g)
  | i :: is => do
    if (g.entries? i).isNone then throw .malformed
    let g ← settle g i
    let entries := (g.entries? i).getD []
    let (others, g) ← mergedItems settle g is
    return (others ++ entries, g)

/-- The entries that the value of a merge key gives: those of a mapping, or of a sequence of
mappings. -/
def mergedEntries (settle : Graph → Nat → Except Error Graph) (g : Graph) (i : Nat) :
    Except Error (List (Nat × Nat) × Graph) :=
  match g.node i with
  | .mapping _ _ => do
    let g ← settle g i
    return ((g.entries? i).getD [], g)
  | .sequence _ items => mergedItems settle g items
  | .scalar _ _ => .error .malformed

/-- The entries that a mapping takes over from others, and its own. A key for the main value is a
text from here on. -/
def partEntries (settle : Graph → Nat → Except Error Graph) (g : Graph) :
    List (Nat × Nat) → Except Error (List (Nat × Nat) × List (Nat × Nat) × Graph)
  | [] => .ok ([], [], g)
  | (k, v) :: es =>
    match (g.node k).tag with
    | .merge => do
      let (new, g) ← mergedEntries settle g v
      let (merged, own, g) ← partEntries settle g es
      return (new ++ merged, own, g)
    | tag => do
      let g := if tag = .main then g.asText k else g
      let (merged, own, g) ← partEntries settle g es
      return (merged, (k, v) :: own, g)

/-- The graph with the merges of a mapping made: what it takes over stands before its own entries.
The first argument bounds the depth. -/
def settle : Nat → Graph → Nat → Except Error Graph
  | 0, _, _ => .error .malformed
  | fuel + 1, g, i =>
    match g.node i with
    | .mapping tag entries => do
      let (merged, own, g) ← partEntries (settle fuel) g entries
      return g.setIfInBounds i (.mapping tag (merged ++ own))
    | _ => .ok g

end Graph

/-! ## Making values -/

/-- A key: a scalar and where it comes from. What is not a number is the same key only as itself. -/
structure Key where
  /-- The scalar. -/
  scalar : Scalar
  /-- The number of its node. All that are written as what is not a number come from one place, which
  is nothing. -/
  source : Option Nat
  deriving DecidableEq, Repr

/-- Whether two keys are one. -/
def Key.isSame (a b : Key) : Bool :=
  a.scalar.sameKey b.scalar || (a.source == b.source && a.scalar == b.scalar)

/-- What is known of the value of a node. -/
inductive Part where
  /-- A scalar. -/
  | scalar (key : Key)
  /-- A collection whose parts are not known yet. -/
  | collection
  /-- A list of nodes. -/
  | list (items : List Nat)
  /-- A mapping from keys to nodes. -/
  | mapping (entries : List (Key × Nat))
  /-- A set of keys. -/
  | set (keys : List Key)
  /-- A list of pairs of nodes. -/
  | pairs (entries : List (Nat × Nat))

/-- A document of whose nodes some have values. -/
structure Making where
  /-- The document, with the merges made so far. -/
  graph : Graph
  /-- The values so far, by the numbers of the nodes. -/
  parts : Array (Option Part)
  /-- The collections in the order in which they have been met. -/
  met : Array Nat

namespace Making

/-- Nothing is known yet. -/
def start (g : Graph) : Making :=
  ⟨g, Array.replicate g.size none, #[]⟩

/-- What is known with the value of one more node. -/
def set (m : Making) (i : Nat) (p : Part) : Making :=
  { m with parts := m.parts.setIfInBounds i (some p) }

/-- The scalar of a node whose type is not that of a collection. -/
def readNode (g : Graph) (i : Nat) : Except Error Scalar :=
  let n := g.node i
  match n.tag, n, g.text? (g.size + 1) i with
  | _, _, none => .error .malformed
  | .timestamp, .mapping _ _, some _ => .error .mappingForTimestamp
  | tag, _, some text => readScalar tag text

/-- The place that the scalar of a node comes from. -/
def sourceOf (g : Graph) (i : Nat) : Option Nat :=
  match g.text? (g.size + 1) i with
  | some text => if isPlainNan text then none else some i
  | none => some i

/-- Meet a node. A collection is only noted, to be looked at later. -/
def meet (m : Making) (i : Nat) : Except Error (Part × Making) :=
  match m.parts.getD i none with
  | some p => .ok (p, m)
  | none =>
    match (m.graph.node i).tag with
    | .sequence | .mapping | .set | .pairs =>
      .ok (.collection, { m.set i .collection with met := m.met.push i })
    | .unknown | .main | .merge => .error .malformed
    | _ => do
      let s ← readNode m.graph i
      let p := Part.scalar ⟨s, sourceOf m.graph i⟩
      return (p, m.set i p)

/-- Meet all items of a list. -/
def meetItems (m : Making) : List Nat → Except Error Making
  | [] => .ok m
  | i :: is => do
    let (_, m) ← m.meet i
    m.meetItems is

/-- Meet the keys and the values of a mapping, each key before its value. Only scalars are keys. -/
def meetEntries (m : Making) : List (Nat × Nat) → Except Error (List (Key × Nat) × Making)
  | [] => .ok ([], m)
  | (k, v) :: es => do
    let (p, m) ← m.meet k
    match p with
    | .scalar key =>
      let (_, m) ← m.meet v
      let (entries, m) ← m.meetEntries es
      return ((key, v) :: entries, m)
    | _ => throw .malformed

/-- Meet the keys and the values of a list of pairs. Each node is a mapping with one entry. -/
def meetPairs (m : Making) : List Nat → Except Error (List (Nat × Nat) × Making)
  | [] => .ok ([], m)
  | i :: is =>
    match m.graph.entries? i with
    | some [(k, v)] => do
      let (_, m) ← m.meet k
      let (_, m) ← m.meet v
      let (entries, m) ← m.meetPairs is
      return ((k, v) :: entries, m)
    | _ => .error .malformed

/-- Look at the entries of a mapping that has been met, with what it takes over from others. The last
value of a key wins and stands at the place of the first. -/
def fillEntries (m : Making) (i : Nat) : Except Error (List (Key × Nat) × Making) := do
  let g ← m.graph.settle (m.graph.size + 1) i
  let (entries, m) ← meetEntries { m with graph := g } ((g.entries? i).getD [])
  return (entries.foldl (fun es e ↦ Entries.setKey Key.isSame e.1 e.2 es) [], m)

/-- Look at the parts of a collection that has been met. -/
def fill (m : Making) (i : Nat) : Except Error Making :=
  match m.graph.node i with
  | .sequence .sequence items => do
    let m ← m.meetItems items
    return m.set i (.list items)
  | .sequence .pairs items => do
    let (entries, m) ← m.meetPairs items
    return m.set i (.pairs entries)
  | .mapping .mapping _ => do
    let (entries, m) ← m.fillEntries i
    return m.set i (.mapping entries)
  | .mapping .set _ => do
    let (entries, m) ← m.fillEntries i
    return m.set i (.set (entries.map (·.1)))
  | _ => .error .malformed

/-- Look at the collections from the one at `place` on, in the order in which they are met. The first
argument bounds their number. -/
def fillFrom : Nat → Nat → Making → Except Error Making
  | 0, _, _ => .error .malformed
  | fuel + 1, place, m =>
    match m.met[place]? with
    | none => .ok m
    | some i => do fillFrom fuel (place + 1) (← m.fill i)

/-- A set of keys. -/
def setOf (keys : List Scalar) : Foreign :=
  { text :=
      if keys.isEmpty then "set()"
      else "\x7b" ++ ", ".intercalate (keys.map Scalar.inspect) ++ "\x7d"
    isTruthy := !keys.isEmpty
    isPrintable := keys.all Scalar.isPrintable }

/-- A pair of values. -/
def pairOf (k v : Value) : Foreign :=
  { text := "(" ++ k.inspect ++ ", " ++ v.inspect ++ ")"
    isTruthy := true
    isPrintable := k.isPrintable && v.isPrintable }

/-- The value of a node, where the values of the nodes before it are known. -/
def valueOf (values : Array Value) : Option Part → Value
  | some (.scalar key) => .scalar key.scalar
  | some (.list items) => .list (items.map fun i ↦ values.getD i .null)
  | some (.mapping entries) =>
    .mapping (entries.map fun e ↦ (e.1.scalar, values.getD e.2 .null))
  | some (.set keys) => .scalar (.other (setOf (keys.map Key.scalar)))
  | some (.pairs entries) =>
    .list (entries.map fun e ↦
      .scalar (.other (pairOf (values.getD e.1 .null) (values.getD e.2 .null))))
  | some .collection | none => .null

/-- The values of all nodes. -/
def values (m : Making) : Array Value :=
  m.parts.foldl (fun vs p ↦ vs.push (valueOf vs p)) #[]

end Making

/-- The value of a document. -/
def Graph.value (g : Graph) : Except Error Value := do
  let root := g.size - 1
  let (_, m) ← (Making.start g).meet root
  let m ← m.fillFrom (g.size + 1) 0
  return m.values.getD root .null

/-- The value of a text; a text without a document is null. -/
def read (text : List Char) : Except Error Value := do
  match ← Graph.read? text with
  | none => return .null
  | some g => g.value

end FixBindings.Yaml
