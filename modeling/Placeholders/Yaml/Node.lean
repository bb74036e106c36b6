/-
The nodes of a YAML document. An anchor is known by a number, the count of
distinct names anchored before it, and an alias refers to such a number; the last
node with the number is what the alias stands for (`Document.resolve`). An alias
before its anchor is an error, and so is a second document.
-/
import Placeholders.Yaml.Token

namespace Placeholders.Yaml

/-- A node; the number of its anchor stands first. -/
inductive Node
  | reference (id : Nat)
  | scalar (anchor : Option Nat) (tag : Option (List UInt8)) (style : Style) (text : Text)
  | sequence (anchor : Option Nat) (items : List Node)
  | mapping (anchor : Option Nat) (entries : List (Node × Node))

namespace Node

/-- A value that is not written: an empty plain scalar. -/
def absent : Node := scalar none none .plain []

/-- The number of the anchor. -/
def anchor? : Node → Option Nat
  | reference _ => none
  | scalar a .. => a
  | sequence a _ => a
  | mapping a _ => a

mutual

/-- The anchored nodes from a node down, in the order of the text. -/
def anchored (n : Node) : List (Nat × Node) :=
  (n.anchor?.map (·, n)).toList ++
    match n with
    | sequence _ items => anchoredItems items
    | mapping _ entries => anchoredEntries entries
    | _ => []

/-- The anchored nodes of items. -/
def anchoredItems : List Node → List (Nat × Node)
  | [] => []
  | n :: ns => n.anchored ++ anchoredItems ns

/-- The anchored nodes of entries. -/
def anchoredEntries : List (Node × Node) → List (Nat × Node)
  | [] => []
  | (key, value) :: es => key.anchored ++ value.anchored ++ anchoredEntries es

end

end Node

/-- What is left to read: the tokens, the anchor names seen with their numbers, and
the meanings of tag handles. -/
structure Reading where
  tokens : List Token
  anchors : List (Text × Nat) := []
  handles : List (Text × List UInt8) := []

/-- A reader takes tokens away, or fails. -/
abbrev Reader (α : Type) := StateT Reading Option α

namespace Reader

/-- The next token. -/
def peek : Reader (Option Token) := return (← get).tokens.head?

/-- Takes the next token away. -/
def skip : Reader Unit := modify fun r => { r with tokens := r.tokens.tail }

/-- Takes the next token away if it is this one. -/
def skips (t : Token) : Reader Bool := do
  if (← peek) == some t then
    skip
    return true
  else return false

/-- Takes the next token away, which has to be this one. -/
def expect (t : Token) : Reader Unit := do
  if !(← skips t) then failure

/-- Is the next token one of these? -/
def sees (ts : List Token) : Reader Bool := do
  match ← peek with
  | some t => return ts.contains t
  | none => return false

/-- The number of the anchor of a name. A name seen before gets a new number too,
and the count of distinct names gives it. -/
def anchorNumber (name : Text) : Reader Nat := do
  let r ← get
  let id := (r.anchors.map Prod.fst).eraseDups.length
  set { r with anchors := (name, id) :: r.anchors }
  return id

/-- The number that an alias refers to, which has to be known. -/
def aliasNumber (name : Text) : Reader Nat := do
  match (← get).anchors.lookup name with
  | some id => return id
  | none => failure

/-- The full tag of a handle and a suffix; the handle has to have a meaning. -/
def fullTag (handle : Text) (suffix : List UInt8) : Reader (List UInt8) := do
  if handle.isEmpty then return suffix
  match (← get).handles.lookup handle with
  | some start => return start ++ suffix
  | none => failure

/-- The anchor name and the tag before a node, in either order, each at most once. -/
def properties : Reader (Option Text × Option (List UInt8)) := do
  match ← peek with
  | some (.anchor name) =>
    skip
    match ← peek with
    | some (.tag handle suffix) =>
      skip
      return (some name, some (← fullTag handle suffix))
    | _ => return (some name, none)
  | some (.tag handle suffix) =>
    skip
    match ← peek with
    | some (.anchor name) =>
      skip
      return (some name, some (← fullTag handle suffix))
    | _ => return (none, some (← fullTag handle suffix))
  | _ => return (none, none)

mutual

/-- A node. In a block it may be a block collection, and where `indentless` is set
also a sequence that is not indented. -/
def node (fuel : Nat) (block indentless : Bool) : Reader Node :=
  match fuel with
  | 0 => failure
  | fuel + 1 => do
    match ← peek with
    | some (.reference name) =>
      skip
      return .reference (← aliasNumber name)
    | _ =>
      let (name, tag) ← properties
      let anchor ← name.mapM anchorNumber
      match ← peek with
      | some (.scalar style text) =>
        skip
        return .scalar anchor tag style text
      | some .openSequence =>
        skip
        return .sequence anchor (← flowItems fuel true [])
      | some .openMapping =>
        skip
        return .mapping anchor (← flowEntries fuel true [])
      | some .blockSequence =>
        if !block then failure
        skip
        let items ← blockItems fuel false []
        expect .blockEnd
        return .sequence anchor items
      | some .blockMapping =>
        if !block then failure
        skip
        return .mapping anchor (← blockEntries fuel [])
      | some .blockEntry =>
        if indentless then return .sequence anchor (← blockItems fuel true [])
        else if anchor.isSome || tag.isSome then return .scalar anchor tag .plain []
        else failure
      | _ =>
        if anchor.isSome || tag.isSome then return .scalar anchor tag .plain [] else failure

/-- A node of a block, or nothing before one of these tokens. -/
def blockNode (fuel : Nat) (indentless : Bool) (ends : List Token) : Reader Node :=
  match fuel with
  | 0 => failure
  | fuel + 1 => do
    if ← sees ends then return .absent else node fuel true indentless

/-- A node of a flow collection, or nothing before one of these tokens. -/
def flowNode (fuel : Nat) (ends : List Token) : Reader Node :=
  match fuel with
  | 0 => failure
  | fuel + 1 => do
    if ← sees ends then return .absent else node fuel false false

/-- The items of a block sequence; one that is not indented also ends at a key or value. -/
def blockItems (fuel : Nat) (indentless : Bool) (before : List Node) : Reader (List Node) :=
  match fuel with
  | 0 => failure
  | fuel + 1 => do
    if ← skips .blockEntry then
      let ends := if indentless then [.blockEntry, .key, .value, .blockEnd] else [.blockEntry, .blockEnd]
      let n ← blockNode fuel false ends
      blockItems fuel indentless (n :: before)
    else return before.reverse

/-- The entries of a block mapping, to its end. -/
def blockEntries (fuel : Nat) (before : List (Node × Node)) : Reader (List (Node × Node)) :=
  match fuel with
  | 0 => failure
  | fuel + 1 => do
    let ends : List Token := [.key, .value, .blockEnd]
    if ← skips .blockEnd then return before.reverse
    else
      expect .key
      let key ← blockNode fuel true ends
      let value ← if ← skips .value then blockNode fuel true ends else pure .absent
      blockEntries fuel ((key, value) :: before)

/-- The items of a flow sequence, to its end. An entry with a key is a mapping of its own. -/
def flowItems (fuel : Nat) (first : Bool) (before : List Node) : Reader (List Node) :=
  match fuel with
  | 0 => failure
  | fuel + 1 => do
    if ← skips .closeSequence then return before.reverse
    if !first then expect .flowEntry
    if ← skips .closeSequence then return before.reverse
    if ← skips .key then
      let pair ← flowPair fuel
      flowItems fuel false (.mapping none [pair] :: before)
    else
      let n ← node fuel false false
      flowItems fuel false (n :: before)

/-- The key and value of a pair in a flow sequence. A token that follows a key
indicator in place of a key is passed over. -/
def flowPair (fuel : Nat) : Reader (Node × Node) :=
  match fuel with
  | 0 => failure
  | fuel + 1 => do
    let key ← if ← sees [.value, .flowEntry, .closeSequence] then do
        skip
        pure .absent
      else node fuel false false
    let value ← if ← skips .value then flowNode fuel [.flowEntry, .closeSequence] else pure .absent
    return (key, value)

/-- The entries of a flow mapping, to its end. -/
def flowEntries (fuel : Nat) (first : Bool) (before : List (Node × Node)) :
    Reader (List (Node × Node)) :=
  match fuel with
  | 0 => failure
  | fuel + 1 => do
    if ← skips .closeMapping then return before.reverse
    if !first then expect .flowEntry
    if ← skips .closeMapping then return before.reverse
    if ← skips .key then
      let key ← flowNode fuel [.value, .flowEntry, .closeMapping]
      let value ← if ← skips .value then flowNode fuel [.flowEntry, .closeMapping] else pure .absent
      flowEntries fuel false ((key, value) :: before)
    else
      let key ← node fuel false false
      flowEntries fuel false ((key, .absent) :: before)

end

/-- The handles that need no directive. -/
def knownHandles : List (Text × List UInt8) :=
  [(['!'], loneMark), (['!', '!'], Text.utf8 "tag:yaml.org,2002:".toList)]

/-- Reads directives: at most one version, which has to be 1.1 or 1.2, and each
handle once. The result tells whether there was any. -/
def directives (fuel : Nat) (version : Bool) (handles : List (Text × List UInt8)) : Reader Bool :=
  match fuel with
  | 0 => failure
  | fuel + 1 => do
    match ← peek with
    | some (.directive (.version major minor)) =>
      if version || major != 1 || !(minor == 1 || minor == 2) then failure
      skip
      directives fuel true handles
    | some (.directive (.tag handle start)) =>
      if (handles.lookup handle).isSome then failure
      skip
      directives fuel version ((handle, start) :: handles)
    | _ =>
      modify fun r => { r with handles := handles ++ knownHandles }
      return version || !handles.isEmpty

/-- The end of the tokens, after document ends. -/
def streamEnd : Reader Unit := do
  if !((← get).tokens.dropWhile (· == Token.documentEnd)).isEmpty then failure

/-- The one document of a stream, or none. -/
def document (fuel : Nat) : Reader (Option Node) := do
  if (← peek).isNone then return none
  let explicit ← directives fuel false []
  let marked ← skips .documentStart
  if explicit && !marked then failure
  let empty ← if marked then
      match ← peek with
      | none | some .documentEnd | some .documentStart | some (.directive _) => pure true
      | _ => pure false
    else pure false
  let root ← if empty then pure Node.absent else node fuel true false
  streamEnd
  return some root

end Reader

/-- A document: its root, and the anchored nodes with the last one first. -/
structure Document where
  root : Node
  anchored : List (Nat × Node)

namespace Document

/-- The document of a text; a text without any is an empty scalar. -/
def ofText? (t : Text) : Option Document := do
  let tokens ← Token.ofText? t
  let (root, _) ← (Reader.document (8 * tokens.length + 8)).run { tokens }
  let root := root.getD .absent
  return ⟨root, root.anchored.reverse⟩

/-- The node itself, or what an alias stands for. -/
def resolve (d : Document) (n : Node) : Node :=
  match n with
  | .reference id => (d.anchored.lookup id).getD .absent
  | n => n

end Document
end Placeholders.Yaml
