import NameTables.Document.Yaml.Token

/-!
# YAML nodes

The tree that the tokens of a document describe.  An anchored node is known by a number; a
reference keeps that number and is looked up only when the document is used, as it may stand
inside the very node it refers to.  The number of an anchor is the count of different names
anchored before it; where two nodes get one number, it stands for the later.

## Main definitions

* `Yaml.Node` — scalars, lists, records and references.
* `Yaml.Parser` — the tokens not yet used, with the names known so far.
* `Yaml.Parser.node?` — one node.
* `Yaml.document?` — the only document of a text.
-/

namespace NameTables

namespace Yaml

/-- A scalar with its type, if one is given. -/
structure Scalar where
  /-- Its text. -/
  text : Text
  /-- How it is written. -/
  style : Style
  /-- Its tag. -/
  tag : Option Bytes
  deriving DecidableEq, Repr

/-- A node of a document.  `mark` is the number of its anchor. -/
inductive Node
  /-- A reference to the node with a number. -/
  | ref (number : Nat)
  /-- A scalar. -/
  | scalar (mark : Option Nat) (s : Scalar)
  /-- Items in order. -/
  | list (mark : Option Nat) (tag : Option Bytes) (items : List Node)
  /-- Values under keys, in order. -/
  | record (mark : Option Nat) (tag : Option Bytes) (fields : List (Node × Node))

namespace Node

/-- The node for nothing at all. -/
def nothing : Node := .scalar none ⟨[], .plain, none⟩

mutual

/-- The anchored nodes in a node with their numbers, in the order in which they begin. -/
def marked : Node → List (Nat × Node)
  | .ref _ => []
  | .scalar mark s => mark.toList.map (·, .scalar mark s)
  | .list mark tag items => mark.toList.map (·, .list mark tag items) ++ markedItems items
  | .record mark tag fields => mark.toList.map (·, .record mark tag fields) ++ markedFields fields

/-- The anchored nodes in the items of a list. -/
def markedItems : List Node → List (Nat × Node)
  | [] => []
  | n :: ns => marked n ++ markedItems ns

/-- The anchored nodes in a field. -/
def markedField : Node × Node → List (Nat × Node)
  | (k, v) => marked k ++ marked v

/-- The anchored nodes in the fields of a record. -/
def markedFields : List (Node × Node) → List (Nat × Node)
  | [] => []
  | f :: fs => markedField f ++ markedFields fs

end

mutual

/-- The size of a node: one for a scalar or reference, two for a collection and what it holds. -/
def size : Node → Nat
  | .ref _ => 1
  | .scalar _ _ => 1
  | .list _ _ items => 2 + sizeItems items
  | .record _ _ fields => 2 + sizeFields fields

/-- The size of the items of a list. -/
def sizeItems : List Node → Nat
  | [] => 0
  | n :: ns => size n + sizeItems ns

/-- The size of a field. -/
def sizeField : Node × Node → Nat
  | (k, v) => size k + size v

/-- The size of the fields of a record. -/
def sizeFields : List (Node × Node) → Nat
  | [] => 0
  | f :: fs => sizeField f + sizeFields fs

end

end Node

/-- The tokens not yet used, with what is known from those before. -/
structure Parser where
  /-- The tokens to come. -/
  tokens : List Token
  /-- The anchor names with their numbers, the latest first. -/
  names : List (Text × Nat)
  /-- What the tag handles stand for. -/
  handles : List (Text × Bytes)

namespace Parser

/-- The next token. -/
def head? (p : Parser) : Option Token := p.tokens.head?

/-- Is this the next token? -/
def sees (p : Parser) (t : Token) : Bool := p.head? == some t

/-- Is the next token one of these?  The end of the text counts for none. -/
def seesOneOf (p : Parser) (ts : List Token) : Bool := p.head?.any ts.contains

/-- Use the next token. -/
def next (p : Parser) : Parser := { p with tokens := p.tokens.tail }

/-- Use the next token if it is this one. -/
def skip (p : Parser) (t : Token) : Parser := if p.sees t then p.next else p

/-- Number a node that is anchored under a name. -/
def anchor (p : Parser) (name : Text) : Nat × Parser :=
  let known := p.names.map Prod.fst
  let number := known.eraseDups.length
  (number, { p with names := (name, number) :: p.names })

/-- The tag that a handle and a suffix stand for; without a handle the suffix is the tag. -/
def tagOf? (p : Parser) (handle : Text) (suffix : Bytes) : Option Bytes :=
  if handle.isEmpty then some suffix
  else (p.handles.find? (·.1 == handle)).map fun (_, meaning) => meaning ++ suffix

/-- What stands in front of a node. -/
structure Properties where
  /-- The name of its anchor. -/
  anchor : Option Text
  /-- Its tag. -/
  tag : Option Bytes

/-- The anchor and the tag in front of a node, in either order. -/
def properties? (p : Parser) : Option (Properties × Parser) :=
  match p.tokens with
  | .anchor a :: .tag handle suffix :: r =>
    (p.tagOf? handle suffix).map fun t => (⟨some a, some t⟩, { p with tokens := r })
  | .tag handle suffix :: .anchor a :: r =>
    (p.tagOf? handle suffix).map fun t => (⟨some a, some t⟩, { p with tokens := r })
  | .anchor a :: r => some (⟨some a, none⟩, { p with tokens := r })
  | .tag handle suffix :: r =>
    (p.tagOf? handle suffix).map fun t => (⟨none, some t⟩, { p with tokens := r })
  | _ => some (⟨none, none⟩, p)

/-- Number the anchor of a node, if it has one. -/
def mark (p : Parser) (anchor : Option Text) : Option Nat × Parser :=
  match anchor with
  | some name => let (number, p) := p.anchor name; (some number, p)
  | none => (none, p)

mutual

/-- A node.  Block collections are read only in block context, and a list whose hyphens are not
indented only as the key or value of a block record. -/
def node? : (fuel : Nat) → (block unindented : Bool) → Parser → Option (Node × Parser)
  | 0, _, _, _ => none
  | fuel + 1, block, unindented, p =>
    match p.tokens with
    | .alias name :: _ => (p.names.lookup name).map fun number => (.ref number, p.next)
    | _ => do
      let (properties, p) ← p.properties?
      let (mark, p) := p.mark properties.anchor
      let tag := properties.tag
      match p.head? with
      | some (.scalar style text) => return (.scalar mark ⟨text, style, tag⟩, p.next)
      | some .flowListStart =>
        let (items, p) ← flowItems? fuel true p.next
        return (.list mark tag items, p)
      | some .flowRecordStart =>
        let (fields, p) ← flowFields? fuel true p.next
        return (.record mark tag fields, p)
      | t =>
        if unindented && t == some .blockEntry then
          let (items, p) ← unindentedItems? fuel p
          return (.list mark tag items, p)
        else if block && t == some .blockListStart then
          let (items, p) ← blockItems? fuel p.next
          return (.list mark tag items, p)
        else if block && t == some .blockRecordStart then
          let (fields, p) ← blockFields? fuel p.next
          return (.record mark tag fields, p)
        -- an anchor or a tag with nothing behind it marks an empty scalar
        else if properties.anchor.isSome || tag.isSome then
          return (.scalar mark ⟨[], .plain, tag⟩, p)
        else none

/-- A node, or nothing before one of these tokens. -/
def nodeUnless? : (fuel : Nat) → (stops : List Token) → (block unindented : Bool) → Parser →
    Option (Node × Parser)
  | 0, _, _, _, _ => none
  | fuel + 1, stops, block, unindented, p =>
    if p.seesOneOf stops then some (Node.nothing, p) else node? fuel block unindented p

/-- The items of a block list. -/
def blockItems? : (fuel : Nat) → Parser → Option (List Node × Parser)
  | 0, _ => none
  | fuel + 1, p => do
    if p.sees .blockEntry then
      let (item, p) ← nodeUnless? fuel [.blockEntry, .blockEnd] true false p.next
      let (items, p) ← blockItems? fuel p
      return (item :: items, p)
    else if p.sees .blockEnd then return ([], p.next)
    else none

/-- The items of a list whose hyphens are not indented; any other token ends it. -/
def unindentedItems? : (fuel : Nat) → Parser → Option (List Node × Parser)
  | 0, _ => none
  | fuel + 1, p => do
    if p.sees .blockEntry then
      let (item, p) ←
        nodeUnless? fuel [.blockEntry, .key, .value, .blockEnd] true false p.next
      let (items, p) ← unindentedItems? fuel p
      return (item :: items, p)
    else return ([], p)

/-- The value of a field in a block record, if a colon follows. -/
def blockValue? : (fuel : Nat) → Parser → Option (Node × Parser)
  | 0, _ => none
  | fuel + 1, p =>
    if p.sees .value then nodeUnless? fuel [.key, .value, .blockEnd] true true p.next
    else some (Node.nothing, p)

/-- The fields of a block record. -/
def blockFields? : (fuel : Nat) → Parser → Option (List (Node × Node) × Parser)
  | 0, _ => none
  | fuel + 1, p => do
    if p.sees .key then
      let (key, p) ← nodeUnless? fuel [.key, .value, .blockEnd] true true p.next
      let (value, p) ← blockValue? fuel p
      let (fields, p) ← blockFields? fuel p
      return ((key, value) :: fields, p)
    else if p.sees .blockEnd then return ([], p.next)
    else none

/-- The value of a field in a flow collection, if a colon follows. -/
def flowValue? : (fuel : Nat) → (close : Token) → Parser → Option (Node × Parser)
  | 0, _, _ => none
  | fuel + 1, close, p =>
    if p.sees .value then nodeUnless? fuel [.flowEntry, close] false false p.next
    else some (Node.nothing, p)

/-- The comma between two entries of a flow collection, which only the first goes without. -/
def comma? (first : Bool) (p : Parser) : Option Parser :=
  if first then some p else if p.sees .flowEntry then some p.next else none

/-- An item of a flow list: a node, or a record of one field without braces.  A key that is left
out takes the token after it along. -/
def flowItem? : (fuel : Nat) → Parser → Option (Node × Parser)
  | 0, _ => none
  | fuel + 1, p => do
    if p.sees .key then
      let p := p.next
      let (key, p) ←
        if p.seesOneOf [.value, .flowEntry, .flowListEnd] then some (Node.nothing, p.next)
        else node? fuel false false p
      let (value, p) ← flowValue? fuel .flowListEnd p
      return (.record none none [(key, value)], p)
    else node? fuel false false p

/-- The items of a flow list. -/
def flowItems? : (fuel : Nat) → (first : Bool) → Parser → Option (List Node × Parser)
  | 0, _, _ => none
  | fuel + 1, first, p => do
    if p.sees .flowListEnd then return ([], p.next)
    let p ← comma? first p
    if p.sees .flowListEnd then return ([], p.next)
    let (item, p) ← flowItem? fuel p
    let (items, p) ← flowItems? fuel false p
    return (item :: items, p)

/-- A field of a flow record; a node without a key mark is a key without a value. -/
def flowField? : (fuel : Nat) → Parser → Option ((Node × Node) × Parser)
  | 0, _ => none
  | fuel + 1, p => do
    if p.sees .key then
      let (key, p) ← nodeUnless? fuel [.value, .flowEntry, .flowRecordEnd] false false p.next
      let (value, p) ← flowValue? fuel .flowRecordEnd p
      return ((key, value), p)
    else
      let (key, p) ← node? fuel false false p
      return ((key, Node.nothing), p)

/-- The fields of a flow record. -/
def flowFields? : (fuel : Nat) → (first : Bool) → Parser → Option (List (Node × Node) × Parser)
  | 0, _, _ => none
  | fuel + 1, first, p => do
    if p.sees .flowRecordEnd then return ([], p.next)
    let p ← comma? first p
    if p.sees .flowRecordEnd then return ([], p.next)
    let (field, p) ← flowField? fuel p
    let (fields, p) ← flowFields? fuel false p
    return (field :: fields, p)

end

/-! ### Documents -/

/-- What the two usual handles stand for. -/
def usualHandles : List (Text × Bytes) :=
  [(['!'], bareTag), (['!', '!'], "tag:yaml.org,2002:".toList.map octetOf)]

/-- The directives at the head of a document: one version at most, which has to be known, and one
meaning for each handle.  The second part is false if there is none. -/
def directives? : (fuel : Nat) → (version : Bool) → (given : List (Text × Bytes)) → Parser →
    Option (List (Text × Bytes) × Parser)
  | 0, _, _, _ => none
  | fuel + 1, version, given, p =>
    match p.head? with
    | some (.directive (.version major minor)) =>
      if version || major != 1 || (minor != 1 && minor != 2) then none
      else directives? fuel true given p.next
    | some (.directive (.handle handle meaning)) =>
      if given.any (·.1 == handle) then none
      else directives? fuel version (given ++ [(handle, meaning)]) p.next
    | _ => some (given, p)

/-- The ends of a document, of which there may be several. -/
def skipEnds (p : Parser) : Parser :=
  { p with tokens := p.tokens.dropWhile (· == .documentEnd) }

/-- Is the next token a directive? -/
def seesDirective (p : Parser) : Bool :=
  match p.head? with
  | some (.directive _) => true
  | _ => false

/-- The root of the document: `none` in the middle when there is no document at all. -/
def root? (p : Parser) : Option (Option Node × Parser) := do
  let fuel := 4 * p.tokens.length + 8
  match p.head? with
  | none => return (none, p)
  | some t =>
    if t == .documentStart || p.seesDirective then
      let (given, p) ← directives? fuel false [] p
      if !p.sees .documentStart then none
      let p := { p.next with handles := given ++ usualHandles }
      if p.head?.isNone || p.seesOneOf [.documentStart, .documentEnd] || p.seesDirective then
        return (some Node.nothing, p)
      let (root, p) ← node? fuel true false p
      return (some root, p)
    else
      let (root, p) ← node? fuel true false { p with handles := usualHandles }
      return (some root, p)

end Parser

/-- The root of the only document of a text; nothing, if the text holds no document. -/
def document? (s : Text) : Option Node := do
  let (root, p) ← (Parser.mk (← tokens? s) [] []).root?
  if p.skipEnds.head?.isSome then none else return root.getD Node.nothing

end Yaml

end NameTables
