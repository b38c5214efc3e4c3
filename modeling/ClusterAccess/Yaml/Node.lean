import ClusterAccess.Yaml.Tag
import ClusterAccess.Yaml.Scan

/-!
# Nodes

The tree of a document: scalars, sequences and mappings, each with its type. An alias stands for the node
that its anchor names; only an alias inside that very node stays an alias in the tree, and then every
collection around it is a knot, with a number to know it by. A text holds at most one document.
-/
namespace ClusterAccess.Yaml

inductive Node where
  | scalar (tag : Tag) (text : String)
  | sequence (tag : Tag) (items : List Node)
  | mapping (tag : Tag) (entries : List (Node × Node))
  | alias (name : String)
  | knot (number : Nat) (n : Node)
  deriving Repr

instance : Inhabited Node := ⟨.scalar .null ""⟩

/-- The node of a place where nothing is written. -/
def Node.absent : Node := .scalar .null ""

namespace Node

/-- An alias of a node around this one may be in it. -/
def isOpen : Node → Bool
  | .alias _ | .knot _ _ => true
  | .scalar _ _ | .sequence _ _ | .mapping _ _ => false

/-- A collection that has been read, as a knot if there is need. -/
def tied (number : Nat) (n : Node) : Node :=
  let isKnot := match n with
    | .sequence _ items => items.any isOpen
    | .mapping _ entries => entries.any fun (k, v) => k.isOpen || v.isOpen
    | _ => false
  if isKnot then .knot number n else n

end Node

/-- Tokens ahead, and the anchors met so far. An anchor whose node is still being read has none. -/
structure Reader where
  tokens : List Token
  anchors : List (String × Option Node)

namespace Reader

/-- The next token. -/
def look (r : Reader) : Except Fault Token :=
  match r.tokens with
  | [] => malformed
  | .fault f :: _ => .error f
  | t :: _ => .ok t

def pop (r : Reader) : Reader := { r with tokens := r.tokens.tail }

def follows (r : Reader) (ts : List Token) : Except Fault Bool := r.look.map ts.contains

/-- The anchors, with the node of one of them read. -/
def define (r : Reader) (name? : Option String) (n : Node) : Reader :=
  match name? with
  | none => r
  | some name => { r with
      anchors := r.anchors.map fun (a, m) => if a == name then (a, some n) else (a, m) }

end Reader

/-- Where a node may stand: whether blocks are allowed, and whether entries may follow without a block of
their own. -/
inductive Position where
  | block
  | blockOrEntries
  | flow
  deriving DecidableEq

/-- The expansions of tag handles. -/
abbrev Handles := List (String × String)

def defaultHandles : Handles := [("!", "!"), ("!!", standardPrefix)]

/-- What comes before a node's content. -/
structure Properties where
  anchor : Option String
  tag : Option TagName

def anchor? (r : Reader) : Except Fault (Option String × Reader) := do
  match ← r.look with
  | .anchor name => return (some name, r.pop)
  | _ => return (none, r)

def tag? (r : Reader) : Except Fault (Option TagName × Reader) := do
  match ← r.look with
  | .tag name => return (some name, r.pop)
  | _ => return (none, r)

/-- An anchor and a tag in either order, both optional. -/
def properties (r : Reader) : Except Fault (Properties × Reader) := do
  let (tag, r) ← tag? r
  let (anchor, r) ← anchor? r
  let (tag, r) ← if tag.isNone && anchor.isSome then tag? r else pure (tag, r)
  return (⟨anchor, tag⟩, r)

/-- The tag that a name stands for; none when the type is left to the content. -/
def explicitTag (handles : Handles) : Option TagName → Except Fault (Option String)
  | none => .ok none
  | some ⟨none, suffix⟩ => .ok (if suffix == "!" then none else some suffix)
  | some ⟨some handle, suffix⟩ =>
    match handles.find? (·.1 == handle) with
    | none => malformed
    | some (_, expansion) => .ok (some (expansion ++ suffix))

/-- The type of a scalar. -/
def scalarTag (tag : Option String) (bySpelling : Bool) (text : String) : Tag :=
  match tag with
  | some name => Tag.ofName name
  | none => if bySpelling then Spelling.tag text else .text

def collectionTag (tag : Option String) (usual : Tag) : Tag := (tag.map Tag.ofName).getD usual

/-- A new anchor. An anchor may be set once only. -/
def openAnchor (name? : Option String) (r : Reader) : Except Fault Reader :=
  match name? with
  | none => .ok r
  | some name =>
    if r.anchors.any (·.1 == name) then malformed
    else .ok { r with anchors := (name, none) :: r.anchors }

def aliased (name : String) (r : Reader) : Except Fault Node :=
  match r.anchors.find? (·.1 == name) with
  | none => malformed
  | some (_, none) => .ok (.alias name)
  | some (_, some n) => .ok n

mutual

/-- The node at the next token. -/
def readNode (handles : Handles) (position : Position) :
    (fuel : Nat) → Reader → Except Fault (Node × Reader)
  | 0, _ => malformed
  | fuel + 1, r => do
    if let .alias name := ← r.look then
      return (← aliased name r, r.pop)
    let (p, r) ← properties r
    let tag ← explicitTag handles p.tag
    let r ← openAnchor p.anchor r
    let number := r.tokens.length
    let isBlock := position != .flow
    let (n, r) ← (do
      match ← r.look with
      | .scalar text plain =>
        return (.scalar (scalarTag tag (plain || p.tag.isSome) text) text, r.pop)
      | .flowSequenceStart =>
        let (items, r) ← readFlowItems handles true fuel r.pop
        return (.sequence (collectionTag tag .sequence) items, r)
      | .flowMappingStart =>
        let (entries, r) ← readFlowEntries handles true fuel r.pop
        return (.mapping (collectionTag tag .mapping) entries, r)
      | .blockEntry =>
        if position = .blockOrEntries then
          let (items, r) ← readEntries handles fuel r
          return (.sequence (collectionTag tag .sequence) items, r)
        else readNothing p tag r
      | .blockSequenceStart =>
        if isBlock then
          let (items, r) ← readBlockItems handles fuel r.pop
          return (.sequence (collectionTag tag .sequence) items, r)
        else readNothing p tag r
      | .blockMappingStart =>
        if isBlock then
          let (entries, r) ← readBlockEntries handles fuel r.pop
          return (.mapping (collectionTag tag .mapping) entries, r)
        else readNothing p tag r
      | _ => readNothing p tag r : Except Fault (Node × Reader))
    let n := n.tied number
    return (n, r.define p.anchor n)

/-- A node without content must have an anchor or a tag. -/
def readNothing (p : Properties) (tag : Option String) (r : Reader) : Except Fault (Node × Reader) :=
  if p.anchor.isNone && p.tag.isNone then malformed else .ok (.scalar (scalarTag tag true "") "", r)

/-- A node, or nothing when one of the given tokens comes. -/
def readOptional (handles : Handles) (position : Position) (ends : List Token) :
    (fuel : Nat) → Reader → Except Fault (Node × Reader)
  | 0, _ => malformed
  | fuel + 1, r => do
    if ← r.follows ends then return (.absent, r) else readNode handles position fuel r

/-- The items of a block sequence, to its end. -/
def readBlockItems (handles : Handles) : (fuel : Nat) → Reader → Except Fault (List Node × Reader)
  | 0, _ => malformed
  | fuel + 1, r => do
    match ← r.look with
    | .blockEntry =>
      let (n, r) ← readOptional handles .block [.blockEntry, .blockEnd] fuel r.pop
      let (rest, r) ← readBlockItems handles fuel r
      return (n :: rest, r)
    | .blockEnd => return ([], r.pop)
    | _ => malformed

/-- The items of a sequence that is not indented under its key. -/
def readEntries (handles : Handles) : (fuel : Nat) → Reader → Except Fault (List Node × Reader)
  | 0, _ => malformed
  | fuel + 1, r => do
    match ← r.look with
    | .blockEntry =>
      let (n, r) ← readOptional handles .block [.blockEntry, .key, .value, .blockEnd] fuel r.pop
      let (rest, r) ← readEntries handles fuel r
      return (n :: rest, r)
    | _ => return ([], r)

/-- The entries of a block mapping, to its end. -/
def readBlockEntries (handles : Handles) :
    (fuel : Nat) → Reader → Except Fault (List (Node × Node) × Reader)
  | 0, _ => malformed
  | fuel + 1, r => do
    match ← r.look with
    | .key =>
      let ends : List Token := [.key, .value, .blockEnd]
      let (k, r) ← readOptional handles .blockOrEntries ends fuel r.pop
      let (v, r) ← if ← r.follows [.value] then readOptional handles .blockOrEntries ends fuel r.pop
        else pure (.absent, r)
      let (rest, r) ← readBlockEntries handles fuel r
      return ((k, v) :: rest, r)
    | .blockEnd => return ([], r.pop)
    | _ => malformed

/-- A comma between two parts of a flow collection, none before the first. -/
def readComma (first : Bool) (r : Reader) : Except Fault Reader := do
  if first then return r
  match ← r.look with
  | .flowEntry => return r.pop
  | _ => malformed

/-- The value after a key in a flow collection. -/
def readFlowValue (handles : Handles) (ends : List Token) :
    (fuel : Nat) → Reader → Except Fault (Node × Reader)
  | 0, _ => malformed
  | fuel + 1, r => do
    if ← r.follows [.value] then readOptional handles .flow ends fuel r.pop else return (.absent, r)

/-- The items of a flow sequence. An item with a key is a mapping of one entry. -/
def readFlowItems (handles : Handles) (first : Bool) :
    (fuel : Nat) → Reader → Except Fault (List Node × Reader)
  | 0, _ => malformed
  | fuel + 1, r => do
    let close : Token := .flowSequenceEnd
    if ← r.follows [close] then return ([], r.pop)
    let r ← readComma first r
    match ← r.look with
    | .flowSequenceEnd => return ([], r.pop)
    | .key =>
      let number := r.tokens.length
      let (k, r) ← readOptional handles .flow [.value, .flowEntry, close] fuel r.pop
      let (v, r) ← readFlowValue handles [.flowEntry, close] fuel r
      let (rest, r) ← readFlowItems handles false fuel r
      return (Node.tied number (.mapping .mapping [(k, v)]) :: rest, r)
    | _ =>
      let (n, r) ← readNode handles .flow fuel r
      let (rest, r) ← readFlowItems handles false fuel r
      return (n :: rest, r)

/-- The entries of a flow mapping. -/
def readFlowEntries (handles : Handles) (first : Bool) :
    (fuel : Nat) → Reader → Except Fault (List (Node × Node) × Reader)
  | 0, _ => malformed
  | fuel + 1, r => do
    let close : Token := .flowMappingEnd
    if ← r.follows [close] then return ([], r.pop)
    let r ← readComma first r
    match ← r.look with
    | .flowMappingEnd => return ([], r.pop)
    | .key =>
      let (k, r) ← readOptional handles .flow [.value, .flowEntry, close] fuel r.pop
      let (v, r) ← readFlowValue handles [.flowEntry, close] fuel r
      let (rest, r) ← readFlowEntries handles false fuel r
      return ((k, v) :: rest, r)
    | _ =>
      let (k, r) ← readNode handles .flow fuel r
      let (rest, r) ← readFlowEntries handles false fuel r
      return ((k, .absent) :: rest, r)

end

/-! ## The document -/

/-- The directives before a document: at most one version, of major number 1, and each handle once. -/
def readDirectives (versioned : Bool) (handles : Handles) :
    List Token → Except Fault (Handles × List Token)
  | .directive (.version major _) :: rest =>
    if versioned || major != 1 then malformed else readDirectives true handles rest
  | .directive (.tag handle expansion) :: rest =>
    if handles.any (·.1 == handle) then malformed
    else readDirectives versioned ((handle, expansion) :: handles) rest
  | .directive .other :: rest => readDirectives versioned handles rest
  | .fault f :: _ => .error f
  | ts => .ok (handles ++ defaultHandles, ts)

/-- Nothing may follow a document but the marks of its end. Directives are read before they are refused. -/
def readEnd : List Token → Except Fault Unit
  | .documentEnd :: rest => readEnd rest
  | .directive _ :: rest => (readEnd rest).bind fun _ => malformed
  | [.streamEnd] => .ok ()
  | .fault f :: _ => .error f
  | _ => malformed

/-- A tree, and the nodes of its anchors. -/
structure Document where
  root : Node
  anchors : List (String × Node)

/-- The tree of a text, none when the text holds no document. A document after directives must be
marked at its start. -/
def readDocument (ts : List Token) : Except Fault (Option Document) := do
  let (handles, rest) ← readDirectives false [] ts
  let (root, r) ←
    match rest with
    | [.streamEnd] => if ts.length = 1 then return none else malformed
    | .documentStart :: rest =>
      readOptional handles .block [.documentStart, .documentEnd, .streamEnd] (4 * ts.length) ⟨rest, []⟩
    | rest =>
      if rest.length = ts.length then readNode handles .block (4 * ts.length) ⟨rest, []⟩ else malformed
  readEnd r.tokens
  return some ⟨root, r.anchors.filterMap fun (name, n?) => n?.map (name, ·)⟩

end ClusterAccess.Yaml
