import ClusterAccess.Text.Utf8
import ClusterAccess.Yaml.Scalar

/-!
# From text to tokens

Tokens are read one after the other. What makes this more than a lexer is the block structure: a deeper
column opens a block and a lesser one closes it, and a scalar turns out to be a key only when a `:`
follows it on its line, no more than 1024 characters on. So for each level of flow collections the place
of the last possible key is kept, and the key token is put there once the `:` is found.
-/
namespace ClusterAccess.Yaml

/-- A place where a key may have begun: before the token of this number. A key that starts a line of its
block must be followed by a `:`. -/
structure PossibleKey where
  flow : Nat
  number : Nat
  required : Bool
  place : Cursor

/-- What has been read: the tokens, latest first, and their number; the depth of flow collections; the
column of the current block, -1 outside every block, and of those around it; whether a key may begin here;
and the keys that may have begun. -/
structure Scanner where
  cursor : Cursor
  tokens : List Token
  count : Nat
  flow : Nat
  indent : Int
  outer : List Int
  keyAllowed : Bool
  keys : List PossibleKey

namespace Scanner

def start (cs : List Char) : Scanner := ⟨Cursor.start cs, [], 0, 0, -1, [], true, []⟩

def push (s : Scanner) (t : Token) : Scanner := { s with tokens := t :: s.tokens, count := s.count + 1 }

/-- The token takes the place of the given number, and those after it move on. -/
def insert (s : Scanner) (number : Nat) (t : Token) : Scanner :=
  let later := s.count - number
  { s with tokens := s.tokens.take later ++ t :: s.tokens.drop later, count := s.count + 1 }

def skip (s : Scanner) (n : Nat) : Scanner := { s with cursor := s.cursor.skip n }

def column (s : Scanner) : Int := s.cursor.column

/-- Keys that can still be completed. Losing a required one is an error. -/
def dropStaleKeys (s : Scanner) : Except Fault Scanner :=
  let isStale (k : PossibleKey) : Bool :=
    k.place.line != s.cursor.line || s.cursor.index - k.place.index > 1024
  if s.keys.any fun k => isStale k && k.required then malformed
  else .ok { s with keys := s.keys.filter (!isStale ·) }

/-- No key of the current flow level can be completed any more. -/
def dropKey (s : Scanner) : Except Fault Scanner :=
  if s.keys.any fun k => k.flow == s.flow && k.required then malformed
  else .ok { s with keys := s.keys.filter (·.flow != s.flow) }

/-- A key may begin at the next token. -/
def noteKey (s : Scanner) : Except Fault Scanner :=
  if s.keyAllowed then do
    let s ← s.dropKey
    let key := ⟨s.flow, s.count, s.flow == 0 && s.indent == s.column, s.cursor⟩
    return { s with keys := key :: s.keys }
  else .ok s

def allowKey (s : Scanner) (allowed : Bool) : Scanner := { s with keyAllowed := allowed }

/-- Closes the blocks that are indented more than `column`. -/
def closeBlocks (s : Scanner) (column : Int) : Scanner :=
  if s.flow != 0 then s
  else
    let closed := (s.indent :: s.outer).takeWhile (column < ·)
    let kept := (s.indent :: s.outer).drop closed.length
    { s with
      tokens := List.replicate closed.length Token.blockEnd ++ s.tokens
      count := s.count + closed.length
      indent := kept.headD (-1)
      outer := kept.tail }

/-- Opens a block at `column` unless one is open there, its first token taking the given number. -/
def openBlock (s : Scanner) (column : Int) (number : Nat) (t : Token) : Scanner :=
  if s.indent < column then
    { s.insert number t with indent := column, outer := s.indent :: s.outer }
  else s

/-- Spaces, comments and line ends before the next token. After a line end outside of flow collections
a key may begin. -/
def skipToToken : (fuel : Nat) → Scanner → Scanner
  | 0, s => s
  | fuel + 1, s =>
    let c := s.cursor.skipSpaces.skipComment
    match c.lineBreak? with
    | none => { s with cursor := c }
    | some (_, c) =>
      skipToToken fuel { s with cursor := c, keyAllowed := s.keyAllowed || s.flow == 0 }

/-! ## Directives, anchors and tags -/

def isNameChar (x : Char) : Bool := x.isAlphanum || x == '-' || x == '_'

def isTagChar (x : Char) : Bool := x.isAlphanum || "-;/?:@&=+$,_.!~*'()[]".toList.contains x

/-- A decimal number in a version. -/
def versionNumber (c : Cursor) : Except Fault (Nat × Cursor) :=
  let (ds, c) := c.span Char.isDigit
  if ds.isEmpty then malformed
  else .ok (ds.foldl (fun n d => n * 10 + (d.toNat - 48)) 0, c)

/-- A tag handle: `!`, or a name between two exclamation marks. -/
def tagHandle (c : Cursor) : Except Fault (String × Cursor) :=
  if c.peek != '!' then malformed
  else
    let c := c.next
    if c.peek == ' ' then .ok ("!", c)
    else
      let (name, c) := c.span isNameChar
      if c.peek == '!' then .ok (String.ofList ('!' :: name ++ ['!']), c.next) else malformed

/-- Octets written as `%` and two digits each, and the cursor after them. -/
def escapedOctets : (fuel : Nat) → Cursor → Except Fault (List UInt8 × Cursor)
  | 0, c => .ok ([], c)
  | fuel + 1, c =>
    if c.peek != '%' then .ok ([], c)
    else match hexNumber 2 c.next with
      | none => malformed
      | some (n, c) => (escapedOctets fuel c).map fun (bs, c) => (UInt8.ofNat n :: bs, c)

/-- The characters of a tag, escaped ones included. -/
def tagChars : (fuel : Nat) → Cursor → Except Fault (List Char × Cursor)
  | 0, c => .ok ([], c)
  | fuel + 1, c =>
    if isTagChar c.peek then (tagChars fuel c.next).map fun (xs, d) => (c.peek :: xs, d)
    else if c.peek == '%' then do
      let (octets, c) ← escapedOctets (c.rest.length + 1) c
      match Utf8.decode octets with
      | .error _ => malformed
      | .ok s => (tagChars fuel c).map fun (xs, c) => (s.toList ++ xs, c)
    else .ok ([], c)

def tagText (c : Cursor) : Except Fault (String × Cursor) := do
  let (xs, c) ← tagChars (c.rest.length + 1) c
  if xs.isEmpty then malformed else .ok (String.ofList xs, c)

/-- A directive, the cursor standing after its `%`. -/
def directive (c : Cursor) : Except Fault (Directive × Cursor) := do
  let (name, c) := c.span isNameChar
  if name.isEmpty || !endsWord c.peek then malformed
  if name == "YAML".toList then
    let (major, c) ← versionNumber c.skipSpaces
    if c.peek != '.' then malformed
    let (minor, c) ← versionNumber c.next
    if !endsWord c.peek then malformed
    return (.version major minor, ← restOfLine c)
  else if name == "TAG".toList then
    let (handle, c) ← tagHandle c.skipSpaces
    if c.peek != ' ' then malformed
    let (expansion, c) ← tagText c.skipSpaces
    if !endsWord c.peek then malformed
    return (.tag handle expansion, ← restOfLine c)
  else
    return (.other, ← restOfLine (c.skipWhile fun x => !endsLine x))

/-- The name after `&` or `*`. -/
def anchorName (c : Cursor) : Except Fault (String × Cursor) :=
  let (name, c) := c.span isNameChar
  if name.isEmpty || !(endsToken c.peek || "?:,]\x7d%@`".toList.contains c.peek) then malformed
  else .ok (String.ofList name, c)

/-- The word ahead holds an exclamation mark. -/
def holdsMark (cs : List Char) : Bool := (cs.takeWhile fun x => !endsWord x).contains '!'

/-- A tag, the cursor standing at its `!`. -/
def tag (c : Cursor) : Except Fault (TagName × Cursor) := do
  let (name, c) ←
    if c.ahead 1 == '<' then do
      let (suffix, c) ← tagText (c.skip 2)
      if c.peek != '>' then malformed
      pure ((⟨none, suffix⟩ : TagName), c.next)
    else if endsToken (c.ahead 1) then pure (⟨none, "!"⟩, c.next)
    else do
      let (handle, c) ← if holdsMark (c.rest.drop 1) then tagHandle c else pure ("!", c.next)
      let (suffix, c) ← tagText c
      pure (⟨some handle, suffix⟩, c)
  if endsWord c.peek then return (name, c) else malformed

/-! ## One token -/

def atStreamEnd (s : Scanner) : Except Fault Scanner :=
  (s.closeBlocks (-1)).dropKey.map fun s => s.push .streamEnd

def atDirective (s : Scanner) : Except Fault Scanner := do
  let s ← (s.closeBlocks (-1)).dropKey
  let (d, c) ← directive s.cursor.next
  return { s.push (.directive d) with cursor := c, keyAllowed := false }

def atMarker (s : Scanner) (t : Token) : Except Fault Scanner :=
  (s.closeBlocks (-1)).dropKey.map fun s => ((s.push t).skip 3).allowKey false

def atFlowStart (s : Scanner) (t : Token) : Except Fault Scanner :=
  s.noteKey.map fun s => { (s.push t).skip 1 with flow := s.flow + 1, keyAllowed := true }

def atFlowEnd (s : Scanner) (t : Token) : Except Fault Scanner :=
  if s.flow = 0 then malformed
  else s.dropKey.map fun s => { (s.push t).skip 1 with flow := s.flow - 1, keyAllowed := false }

def atFlowEntry (s : Scanner) : Except Fault Scanner :=
  s.dropKey.map fun s => ((s.push .flowEntry).skip 1).allowKey true

def atBlockEntry (s : Scanner) : Except Fault Scanner := do
  if s.flow = 0 ∧ !s.keyAllowed then malformed
  let s := if s.flow = 0 then s.openBlock s.column s.count .blockSequenceStart else s
  let s ← s.dropKey
  return ((s.push .blockEntry).skip 1).allowKey true

def atKey (s : Scanner) : Except Fault Scanner := do
  if s.flow = 0 ∧ !s.keyAllowed then malformed
  let s := if s.flow = 0 then s.openBlock s.column s.count .blockMappingStart else s
  let s ← s.dropKey
  return ((s.push .key).skip 1).allowKey (s.flow == 0)

def atValue (s : Scanner) : Except Fault Scanner :=
  match s.keys.find? (·.flow == s.flow) with
  | some key =>
    let s := { s with keys := s.keys.filter (·.flow != s.flow) }
    let s := s.insert key.number .key
    let s := if s.flow = 0 then s.openBlock key.place.column key.number .blockMappingStart else s
    .ok (((s.push .value).skip 1).allowKey false)
  | none => do
    if s.flow = 0 ∧ !s.keyAllowed then malformed
    let s := if s.flow = 0 then s.openBlock s.column s.count .blockMappingStart else s
    let s ← s.dropKey
    return ((s.push .value).skip 1).allowKey (s.flow == 0)

def atName (s : Scanner) (t : String → Token) : Except Fault Scanner := do
  let s ← s.noteKey
  let (name, c) ← anchorName s.cursor.next
  return { s.push (t name) with cursor := c, keyAllowed := false }

def atTag (s : Scanner) : Except Fault Scanner := do
  let s ← s.noteKey
  let (name, c) ← tag s.cursor
  return { s.push (.tag name) with cursor := c, keyAllowed := false }

def atBlockScalar (s : Scanner) : Except Fault Scanner := do
  let s ← s.dropKey
  let (text, c) ← blockScalar s.indent s.cursor
  return { s.push (.scalar (String.ofList text) false) with cursor := c, keyAllowed := true }

def atQuoted (s : Scanner) : Except Fault Scanner := do
  let s ← s.noteKey
  let (text, c) ← quotedScalar s.cursor
  return { s.push (.scalar (String.ofList text) false) with cursor := c, keyAllowed := false }

def atPlain (s : Scanner) : Except Fault Scanner := do
  let s ← s.noteKey
  let (text, broken, c) := plainScalar (s.flow != 0) (s.indent + 1) s.cursor
  return { s.push (.scalar (String.ofList text) true) with cursor := c, keyAllowed := broken }

/-- A plain scalar may begin here. -/
def startsPlain (s : Scanner) : Bool :=
  let x := s.cursor.peek
  !(endsToken x || "-?:,[]\x7b\x7d#&*!|>'\"%@`".toList.contains x) ||
    (!endsToken (s.cursor.ahead 1) && (x == '-' || (s.flow == 0 && (x == '?' || x == ':'))))

/-- The token at the cursor. -/
def tokenHere (s : Scanner) : Except Fault Scanner :=
  let c := s.cursor
  let x := c.peek
  let alone := endsToken (c.ahead 1)
  if x == endOfText then s.atStreamEnd
  else if x == '%' && c.column == 0 then s.atDirective
  else if c.column == 0 && c.isMarker then s.atMarker (if x == '-' then .documentStart else .documentEnd)
  else if x == '[' then s.atFlowStart .flowSequenceStart
  else if x == '\x7b' then s.atFlowStart .flowMappingStart
  else if x == ']' then s.atFlowEnd .flowSequenceEnd
  else if x == '\x7d' then s.atFlowEnd .flowMappingEnd
  else if x == ',' then s.atFlowEntry
  else if x == '-' && alone then s.atBlockEntry
  else if x == '?' && (s.flow != 0 || alone) then s.atKey
  else if x == ':' && (s.flow != 0 || alone) then s.atValue
  else if x == '*' then s.atName .alias
  else if x == '&' then s.atName .anchor
  else if x == '!' then s.atTag
  else if (x == '|' || x == '>') && s.flow == 0 then s.atBlockScalar
  else if x == '\'' || x == '"' then s.atQuoted
  else if s.startsPlain then s.atPlain
  else malformed

/-- The tokens in front of the first one that may still turn out to be a key, and then the fault. -/
def stopAt (s : Scanner) (f : Fault) : List Token :=
  let sure := (s.keys.map (·.number)).foldl min s.count
  (s.tokens.drop (s.count - sure)).reverse ++ [.fault f]

/-- All tokens. Every step but the last one takes a character. -/
def run : (fuel : Nat) → Scanner → List Token
  | 0, s => s.stopAt .malformed
  | fuel + 1, s =>
    match (skipToToken (s.cursor.rest.length + 1) s).dropStaleKeys with
    | .error f => s.stopAt f
    | .ok s =>
      match (s.closeBlocks s.column).tokenHere with
      | .error f => s.stopAt f
      | .ok t => if t.tokens.head? = some .streamEnd then t.tokens.reverse else run fuel t

end Scanner

/-- The tokens of a text. -/
def tokens (s : String) : List Token :=
  let cs := s.toList
  if cs.all isDocumentChar then
    let cs := if cs.head? = some byteOrderMark then cs.tail else cs
    Scanner.run (cs.length + 1) (Scanner.start cs)
  else [.fault .malformed]

end ClusterAccess.Yaml
