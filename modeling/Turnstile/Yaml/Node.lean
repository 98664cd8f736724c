/-
# Nodes of a YAML text

A text is a graph of nodes, each a scalar, a list or a mapping with a tag. It
is read off the tokens by descent. A node may be given a name and be referred
to by it later, and is then a part of several others, or of itself; a name is
given only once. A text has one document at most.

Key definitions: `Yaml.Node`, `Yaml.Graph`, `Yaml.Reader`, `Yaml.node`,
`Yaml.Graph.ofTokens`.
-/
import Turnstile.Yaml.Tag
import Turnstile.Yaml.Token

namespace Turnstile.Yaml

/-- What a node is made of; parts are told by their places in the graph. -/
inductive Content where
  | scalar (said : Points)
  | list (items : List Nat)
  | mapping (entries : List (Nat × Nat))
deriving DecidableEq, Repr

/-- A value of a text with its tag. -/
structure Node where
  tag : Tag
  content : Content
deriving DecidableEq, Repr

/-- The node where there is none. -/
def Node.empty : Node := ⟨.null, .scalar []⟩

/-- The nodes of a text by their places. -/
abbrev Graph := Array Node

namespace Graph

/-- The node at a place. -/
def nodeAt (g : Graph) (place : Nat) : Node := g.getD place .empty

/-- The graph with another node at a place. -/
def put (place : Nat) (x : Node) (g : Graph) : Graph := g.setIfInBounds place x

end Graph

/-- The tokens that are left, the nodes so far, the places of the nodes that have
names, and what the handles of tags stand for. -/
structure Reader where
  tokens : List Token
  nodes : Graph
  named : List (String × Nat)
  handles : List (String × String)

namespace Reader

/-- The handles that need no directive. -/
def commonHandles : List (String × String) := [("!", "!"), ("!!", commonTags)]

/-- The next token; a fault is met here. -/
def peek (r : Reader) : Except Fault Token :=
  match r.tokens with
  | [] => .error .malformed
  | .fault f :: _ => .error f
  | t :: _ => .ok t

/-- The tokens without the next one. -/
def drop (r : Reader) : Reader := { r with tokens := r.tokens.tail }

/-- Whether the next token is one of several. -/
def isAt (ts : List Token) (r : Reader) : Except Fault Bool := do
  let t ← r.peek
  return ts.contains t

/-- Adds a node. -/
def add (x : Node) (r : Reader) : Nat × Reader :=
  (r.nodes.size, { r with nodes := r.nodes.push x })

/-- Finds a place for a node that is yet to come and may have a name. -/
def enter (name : Option String) (r : Reader) : Except Fault (Nat × Reader) :=
  let (place, r) := r.add .empty
  match name with
  | none => .ok (place, r)
  | some n =>
    if (Entries.get? n r.named).isSome then .error .malformed
    else .ok (place, { r with named := (n, place) :: r.named })

/-- Puts a node at the place that was found for it. -/
def fill (place : Nat) (x : Node) (r : Reader) : Reader :=
  { r with nodes := r.nodes.put place x }

/-- The place of the node that a name refers to. -/
def refer (name : String) (r : Reader) : Except Fault Nat := orMalformed (Entries.get? name r.named)

/-- The name of a tag, written out. -/
def tagText (t : TagName) (r : Reader) : Except Fault String :=
  match t.handle with
  | none => .ok t.suffix
  | some h =>
    match Entries.get? h r.handles with
    | some meaning => .ok (meaning ++ t.suffix)
    | none => .error .malformed

/-- The name and the tag before a node, in either order. -/
def properties (r : Reader) : Except Fault (Option String × Option TagName × Reader) := do
  match ← r.peek with
  | .anchor n =>
    let r := r.drop
    match ← r.peek with
    | .tag t => return (some n, some t, r.drop)
    | _ => return (some n, none, r)
  | .tag t =>
    let r := r.drop
    match ← r.peek with
    | .anchor n => return (some n, some t, r.drop)
    | _ => return (none, some t, r)
  | _ => return (none, none, r)

end Reader

/-- The tag of a scalar. An exclamation mark alone makes it mean what its
spelling says, quoted or not. -/
def scalarTag (given : Option String) (isPlain : Bool) (said : Points) : Tag :=
  match given with
  | none => if isPlain then .ofPlain said.nearest else .text
  | some name => if name = "!" then .ofPlain said.nearest else .ofName name

/-- The tag of a list or mapping, given the one it has of itself. -/
def collectionTag (given : Option String) (own : Tag) : Tag :=
  match given with
  | none => own
  | some name => if name = "!" then own else .ofName name

mutual

/-- The node that comes next. Where `isBlock` says so it may be a list or mapping
by indentation, and where `isBare` says so a list whose dashes are no deeper
than the key it belongs to. -/
def node (isBlock isBare : Bool) : Nat → Reader → Except Fault (Nat × Reader)
  | 0, _ => .error .malformed
  | fuel + 1, r => do
    match ← r.peek with
    | .reference name =>
      let place ← r.refer name
      return (place, r.drop)
    | _ =>
      let (name, tag, r) ← r.properties
      let tag ← tag.mapM r.tagText
      let _ ← r.peek
      let (place, r) ← r.enter name
      let (x, r) ← content isBlock isBare (name.isSome || tag.isSome) tag fuel r
      return (place, r.fill place x)

/-- The content of a node after its name and tag; there may be none if there is
one of them. -/
def content (isBlock isBare mayMiss : Bool) (tag : Option String) :
    Nat → Reader → Except Fault (Node × Reader)
  | 0, _ => .error .malformed
  | fuel + 1, r => do
    let missing : Except Fault (Node × Reader) :=
      if mayMiss then .ok (⟨scalarTag tag true [], .scalar []⟩, r) else .error .malformed
    match ← r.peek with
    | .scalar isPlain said => return (⟨scalarTag tag isPlain said, .scalar said⟩, r.drop)
    | .openList =>
      let (xs, r) ← flowItems true fuel r.drop
      return (⟨collectionTag tag .list, .list xs⟩, r)
    | .openMapping =>
      let (es, r) ← flowEntries true fuel r.drop
      return (⟨collectionTag tag .mapping, .mapping es⟩, r)
    | .item =>
      if isBare then
        let (xs, r) ← bareItems fuel r
        return (⟨collectionTag tag .list, .list xs⟩, r)
      else missing
    | .listStart =>
      if isBlock then
        let (xs, r) ← blockItems fuel r.drop
        return (⟨collectionTag tag .list, .list xs⟩, r)
      else missing
    | .mappingStart =>
      if isBlock then
        let (es, r) ← blockEntries fuel r.drop
        return (⟨collectionTag tag .mapping, .mapping es⟩, r)
      else missing
    | _ => missing

/-- A node, or the empty one if a token comes that cannot start it. -/
def nodeUnless (stops : List Token) (isBlock isBare : Bool) :
    Nat → Reader → Except Fault (Nat × Reader)
  | 0, _ => .error .malformed
  | fuel + 1, r => do
    if ← r.isAt stops then return r.add .empty else node isBlock isBare fuel r

/-- The value after a key, if there is a colon. -/
def valueUnless (stops : List Token) (isBlock : Bool) :
    Nat → Reader → Except Fault (Nat × Reader)
  | 0, _ => .error .malformed
  | fuel + 1, r => do
    if ← r.isAt [.value] then nodeUnless stops isBlock isBlock fuel r.drop
    else return r.add .empty

/-- The items of a list by indentation. -/
def blockItems : Nat → Reader → Except Fault (List Nat × Reader)
  | 0, _ => .error .malformed
  | fuel + 1, r => do
    match ← r.peek with
    | .item =>
      let (x, r) ← nodeUnless [.item, .blockEnd] true false fuel r.drop
      let (xs, r) ← blockItems fuel r
      return (x :: xs, r)
    | .blockEnd => return ([], r.drop)
    | _ => .error .malformed

/-- The items of a list whose dashes are no deeper than the key it belongs to. -/
def bareItems : Nat → Reader → Except Fault (List Nat × Reader)
  | 0, _ => .error .malformed
  | fuel + 1, r => do
    match ← r.peek with
    | .item =>
      let (x, r) ← nodeUnless [.item, .key, .value, .blockEnd] true false fuel r.drop
      let (xs, r) ← bareItems fuel r
      return (x :: xs, r)
    | _ => return ([], r)

/-- The entries of a mapping by indentation. -/
def blockEntries : Nat → Reader → Except Fault (List (Nat × Nat) × Reader)
  | 0, _ => .error .malformed
  | fuel + 1, r => do
    match ← r.peek with
    | .key =>
      let stops := [Token.key, .value, .blockEnd]
      let (k, r) ← nodeUnless stops true true fuel r.drop
      let (v, r) ← valueUnless stops true fuel r
      let (es, r) ← blockEntries fuel r
      return ((k, v) :: es, r)
    | .blockEnd => return ([], r.drop)
    | _ => .error .malformed

/-- The place of an item in brackets: after what separates it from the one
before. -/
def flowPlace (isFirst : Bool) : Nat → Reader → Except Fault Reader
  | 0, _ => .error .malformed
  | _ + 1, r => do
    if isFirst then return r
    else if ← r.isAt [.separator] then return r.drop
    else .error .malformed

/-- The items of a list in brackets. One that is a key makes a mapping of its
own. -/
def flowItems (isFirst : Bool) : Nat → Reader → Except Fault (List Nat × Reader)
  | 0, _ => .error .malformed
  | fuel + 1, r => do
    if ← r.isAt [.closeList] then return ([], r.drop)
    else
      let r ← flowPlace isFirst fuel r
      match ← r.peek with
      | .closeList => return ([], r.drop)
      | .key =>
        let stops := [Token.separator, .closeList]
        let (k, r) ← nodeUnless (.value :: stops) false false fuel r.drop
        let (v, r) ← valueUnless stops false fuel r
        let (x, r) := r.add ⟨.mapping, .mapping [(k, v)]⟩
        let (xs, r) ← flowItems false fuel r
        return (x :: xs, r)
      | _ =>
        let (x, r) ← node false false fuel r
        let (xs, r) ← flowItems false fuel r
        return (x :: xs, r)

/-- The entries of a mapping in braces. An item that is no key has no value. -/
def flowEntries (isFirst : Bool) : Nat → Reader → Except Fault (List (Nat × Nat) × Reader)
  | 0, _ => .error .malformed
  | fuel + 1, r => do
    if ← r.isAt [.closeMapping] then return ([], r.drop)
    else
      let r ← flowPlace isFirst fuel r
      match ← r.peek with
      | .closeMapping => return ([], r.drop)
      | .key =>
        let stops := [Token.separator, .closeMapping]
        let (k, r) ← nodeUnless (.value :: stops) false false fuel r.drop
        let (v, r) ← valueUnless stops false fuel r
        let (es, r) ← flowEntries false fuel r
        return ((k, v) :: es, r)
      | _ =>
        let (k, r) ← node false false fuel r
        let (v, r) := r.add .empty
        let (es, r) ← flowEntries false fuel r
        return ((k, v) :: es, r)

end

/-! ### Documents -/

/-- Reads the directives before a document. A version is stated once and starts
with 1, and a handle is given once. -/
def directives (seenVersion : Bool) (handles : List (String × String)) :
    List Token → Except Fault (List (String × String) × List Token)
  | .directive (.version major) :: ts =>
    if seenVersion || major != 1 then .error .malformed else directives true handles ts
  | .directive (.handle name meaning) :: ts =>
    if (Entries.get? name handles).isSome then .error .malformed
    else directives seenVersion ((name, meaning) :: handles) ts
  | .directive .other :: ts => directives seenVersion handles ts
  | ts => .ok (handles ++ Reader.commonHandles, ts)

/-- The document that a text has, without what marks its start. -/
def document (fuel : Nat) (r : Reader) : Except Fault (Nat × Reader) := do
  match ← r.peek with
  | .directive _ | .documentStart =>
    let (handles, ts) ← directives false [] r.tokens
    let r : Reader := ⟨ts, #[], [], handles⟩
    if ← r.isAt [.documentStart] then
      let r := r.drop
      match ← r.peek with
      | .directive _ | .documentStart | .documentEnd | .streamEnd => return r.add .empty
      | _ => node true false fuel r
    else .error .malformed
  | _ => node true false fuel r

/-- Whether nothing comes after a document but marks of its end. Directives of a
second document are read before it is refused. -/
def endsAfter : List Token → Except Fault Unit
  | .documentEnd :: ts => endsAfter ts
  | .streamEnd :: _ => .ok ()
  | ts => do
    match ← directives false [] ts with
    | (_, .fault f :: _) => .error f
    | _ => .error .malformed

/-- The nodes of a text, and the place of its document; the empty one if it has
none. -/
def Graph.ofTokens (ts : List Token) : Except Fault (Graph × Nat) := do
  let r : Reader := ⟨ts, #[], [], Reader.commonHandles⟩
  if ← r.isAt [.streamEnd] then return (#[.empty], 0)
  else
    let (place, r) ← document (4 * ts.length + 4) r
    endsAfter r.tokens
    return (r.nodes, place)

end Turnstile.Yaml
