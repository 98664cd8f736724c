/-
# Reading YAML

The data in a YAML text. A list becomes a list and a mapping a dictionary,
whose keys must have no parts. What is merged into a mapping comes before its
own entries, so that these prevail.

Data is made from the root on: a list or mapping is there as soon as a node
that it is a part of is gone through, and is gone through itself after all that
were there before. So of several faults the one nearest to the root is met
first. A node that is a part of several others is made once.

Key definitions: `Yaml.Graph.flatten`, `Yaml.Part`, `Yaml.Works`,
`Yaml.Works.begin`, `Yaml.Works.complete`, `Yaml.Works.data`, `Yaml.parse`.
-/
import Turnstile.Yaml.Node
import Turnstile.Yaml.Scalar

namespace Turnstile.Yaml

namespace Graph

/-- The entries of a mapping. -/
def entriesAt? (g : Graph) (place : Nat) : Option (List (Nat × Nat)) :=
  match (g.nodeAt place).content with
  | .mapping entries => some entries
  | _ => none

/-- The graph with other entries in a mapping. -/
def setEntries (place : Nat) (entries : List (Nat × Nat)) (g : Graph) : Graph :=
  g.put place { g.nodeAt place with content := .mapping entries }

/-- The number of entries of all mappings. -/
def entryCount (g : Graph) : Nat :=
  g.foldl (fun n x =>
    match x.content with
    | .mapping entries => n + entries.length
    | _ => n) 0

/-- The graph in which the key of a standard value is a text. -/
def nameKey (g : Graph) (entry : Nat × Nat) : Graph :=
  let x := g.nodeAt entry.1
  if x.tag = .standard then g.put entry.1 { x with tag := .text } else g

/-- The text that stands for a node where a scalar is wanted: its own, or that of
the standard value of a mapping. -/
def textAt (g : Graph) : Nat → Nat → Except Fault Points
  | 0, _ => .error .endless
  | fuel + 1, place =>
    match (g.nodeAt place).content with
    | .scalar said => .ok said
    | .list _ => .error .malformed
    | .mapping entries =>
      match entries.find? fun e => (g.nodeAt e.1).tag = .standard with
      | some (_, v) => textAt g fuel v
      | none => .error .malformed

mutual

/-- Merges into a mapping what its entries from an index on say, after what has
been gathered before. A mapping that is merged is merged into first. -/
def flattenFrom (place index : Nat) (gathered : List (Nat × Nat)) :
    Nat → Graph → Except Fault Graph
  | 0, _ => .error .endless
  | fuel + 1, g =>
    let entries := (g.entriesAt? place).getD []
    let before := (entries.drop index).takeWhile fun e => (g.nodeAt e.1).tag ≠ .merge
    let g := before.foldl nameKey g
    let next := index + before.length
    match entries.drop next with
    | [] => .ok (if gathered.isEmpty then g else g.setEntries place (gathered ++ entries))
    | (_, v) :: rest => do
      let g := g.setEntries place (entries.take next ++ rest)
      let (more, g) ← mergedFrom v fuel g
      flattenFrom place next (gathered ++ more) fuel g

/-- The entries that a mapping, or a list of mappings of which the first prevail,
gives to be merged. -/
def mergedFrom (place : Nat) : Nat → Graph → Except Fault (List (Nat × Nat) × Graph)
  | 0, _ => .error .endless
  | fuel + 1, g =>
    match (g.nodeAt place).content with
    | .mapping _ => do
      let g ← flattenFrom place 0 [] fuel g
      return ((g.entriesAt? place).getD [], g)
    | .list items =>
      items.foldlM (fun (later, g) item => do
        let _ ← orMalformed (g.entriesAt? item)
        let g ← flattenFrom item 0 [] fuel g
        return ((g.entriesAt? item).getD [] ++ later, g)) ([], g)
    | .scalar _ => .error .malformed

end

/-- The graph with all that is merged into a mapping in it. Each step takes an
entry away for good, so the number of entries bounds the depth. -/
def flatten (place : Nat) (g : Graph) : Except Fault Graph :=
  flattenFrom place 0 [] (2 * g.entryCount + 2) g

end Graph

/-- What a node has become: data without parts, or a collection of the nodes at
some places, which is empty before it is gone through. -/
inductive Part where
  | scalar (d : Data)
  | list (items : List Nat)
  | pairs (entries : List (Nat × Nat))
  | set (members : List Key)
  | dict (entries : List (Key × Nat))

namespace Part

/-- The key that a part is. -/
def key? : Part → Option Key
  | scalar d => d.key?
  | _ => none

/-- The name of a part's type. -/
def typeName : Part → String
  | scalar d => d.typeName
  | list _ | pairs _ => "list"
  | set _ => "set"
  | dict _ => "dict"

end Part

/-- The making of data: the nodes, what has become of them, and the collections
in the order in which they were begun. -/
structure Works where
  nodes : Graph
  made : Array (Option Part)
  begun : Array Nat

namespace Works

/-- Nothing made yet. -/
def start (g : Graph) : Works := ⟨g, Array.replicate g.size none, #[]⟩

/-- What has become of a node. -/
def part? (w : Works) (place : Nat) : Option Part := w.made.getD place none

/-- Makes something of a node. -/
def make (place : Nat) (x : Part) (w : Works) : Works :=
  { w with made := w.made.setIfInBounds place (some x) }

/-- Begins a collection. -/
def await (place : Nat) (x : Part) (w : Works) : Works :=
  { w.make place x with begun := w.begun.push place }

/-- The data of a node that has no parts. -/
def scalarAt (place : Nat) (w : Works) : Except Fault Data := do
  let x := w.nodes.nodeAt place
  if x.tag = .merge ∨ x.tag = .standard ∨ x.tag = .other then .error .malformed
  else
    let said ← w.nodes.textAt (w.nodes.size + 1) place
    match x.tag, x.content with
    | .date, .mapping _ => .error .notText
    | t, _ => scalarData t said

/-- Makes a scalar of a node or begins a collection, unless that was done. -/
def begin (place : Nat) (w : Works) : Except Fault Works :=
  if (w.part? place).isSome then .ok w
  else
    match (w.nodes.nodeAt place).tag with
    | .list => .ok (w.await place (.list []))
    | .pairs => .ok (w.await place (.pairs []))
    | .set => .ok (w.await place (.set []))
    | .mapping => .ok (w.await place (.dict []))
    | _ => do
      let d ← w.scalarAt place
      return w.make place (.scalar d)

/-- Begins the entries of a mapping, and tells their keys. -/
def beginEntries : List (Nat × Nat) → Works → Except Fault (List (Key × Nat) × Works)
  | [], w => .ok ([], w)
  | (k, v) :: rest, w => do
    let w ← w.begin k
    let key ← orMalformed ((w.part? k).bind Part.key?)
    let w ← w.begin v
    let (more, w) ← beginEntries rest w
    return ((key, v) :: more, w)

/-- Begins the entries of mappings with one entry each. -/
def beginPairs : List Nat → Works → Except Fault (List (Nat × Nat) × Works)
  | [], w => .ok ([], w)
  | place :: places, w =>
    match (w.nodes.nodeAt place).content with
    | .mapping [(k, v)] => do
      let w ← w.begin k
      let w ← w.begin v
      let (more, w) ← beginPairs places w
      return ((k, v) :: more, w)
    | _ => .error .malformed

/-- The entries of a mapping after all that is merged into it, begun. -/
def mappingAt (place : Nat) (w : Works) : Except Fault (List (Key × Nat) × Works) := do
  let _ ← orMalformed (w.nodes.entriesAt? place)
  let nodes ← w.nodes.flatten place
  let (entries, w) ← beginEntries ((nodes.entriesAt? place).getD []) { w with nodes }
  return (Entries.ofPairs entries, w)

/-- Goes through a collection that was begun. -/
def complete (place : Nat) (w : Works) : Except Fault Works :=
  let x := w.nodes.nodeAt place
  match x.tag, x.content with
  | .list, .list items => do
    let w ← items.foldlM (fun w item => w.begin item) w
    return w.make place (.list items)
  | .pairs, .list items => do
    let (entries, w) ← beginPairs items w
    return w.make place (.pairs entries)
  | .set, _ => do
    let (entries, w) ← w.mappingAt place
    return w.make place (.set (entries.map Prod.fst))
  | .mapping, _ => do
    let (entries, w) ← w.mappingAt place
    return w.make place (.dict entries)
  | _, _ => .error .malformed

/-- Goes through the collections from an index on, and those that are begun
meanwhile; `fuel` bounds their number. -/
def completeAll (index : Nat) : Nat → Works → Except Fault Works
  | 0, w => .ok w
  | fuel + 1, w =>
    match w.begun[index]? with
    | none => .ok w
    | some place => do
      let w ← w.complete place
      completeAll (index + 1) fuel w

/-- The data of a node inside of others, none of which it may be. -/
def dataWithin (w : Works) (around : List Nat) : Nat → Nat → Option Data
  | 0, _ => none
  | fuel + 1, place =>
    if around.contains place then none
    else
      let within := dataWithin w (place :: around) fuel
      match w.part? place with
      | none => none
      | some (.scalar d) => some d
      | some (.set members) => some (.set members)
      | some (.list items) => (items.mapM within).map .list
      | some (.pairs entries) =>
        (entries.mapM fun (e : Nat × Nat) => do
          let first ← within e.1
          let second ← within e.2
          return Data.pair first second).map .list
      | some (.dict entries) =>
        (entries.mapM fun (e : Key × Nat) => (within e.2).map fun d => (e.1, d)).map .dict

/-- The data of a node, which must be no part of itself. -/
def data (place : Nat) (w : Works) : Except Fault Data :=
  match w.dataWithin [] (w.nodes.size + 1) place with
  | some d => .ok d
  | none => .error (.containsItself (((w.part? place).map Part.typeName).getD ""))

end Works

/-- The data in a YAML text. -/
def parse (s : String) : Except Fault Data := do
  let (g, root) ← Graph.ofTokens (tokens s)
  let w ← (Works.start g).begin root
  let w ← w.completeAll 0 (g.size + 1)
  w.data root

end Turnstile.Yaml
