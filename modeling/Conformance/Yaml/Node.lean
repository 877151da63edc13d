import Conformance.Yaml.Fault
import Conformance.Yaml.Tag
import Conformance.Yaml.Token

/-! A YAML document as a tree of tagged nodes, read from tokens. References are replaced by the
nodes they name. -/
namespace Conformance.Yaml

inductive Node
  | scalar (tag : Tag) (text : String)
  | sequence (tag : Tag) (items : List Node)
  | mapping (tag : Tag) (entries : List (Node × Node))
  deriving Repr, Inhabited

namespace Node

def missing : Node := .scalar .null ""

/-- What is left to read, the tag handles in force, and the nodes that have a name; one that is
still being read has none to give yet. -/
structure Reading where
  tokens : List Token
  handles : List (String × String)
  anchors : List (String × Option Node)
  deriving Inhabited

abbrev Reader := StateT Reading (Except Fault)

/-- The next token. Past the last one it is the end. -/
def peek : Reader Token := return ((← get).tokens.head?.getD .streamEnd)

def skip : Reader Unit := modify fun r => { r with tokens := r.tokens.drop 1 }

def refuse {α : Type} : Reader α := throw .malformed

def expect (t : Token) : Reader Unit := do
  if (← peek) == t then skip else refuse

structure Properties where
  anchor : Option String
  tag : Option String
  deriving Inhabited

def tagName (handle : Option String) (suffix : String) : Reader String := do
  match handle with
  | none => return suffix
  | some handle =>
    match (← get).handles.lookup handle with
    | some start => return start ++ suffix
    | none => refuse

def readAnchor : Reader (Option String) := do
  match ← peek with
  | .anchor name => skip; return some name
  | _ => return none

def readTag : Reader (Option String) := do
  match ← peek with
  | .tag handle suffix =>
    skip
    return some (← tagName handle suffix)
  | _ => return none

def readProperties : Reader Properties := do
  match ← readAnchor with
  | some name => return ⟨some name, ← readTag⟩
  | none =>
    match ← readTag with
    | some tag => return ⟨← readAnchor, some tag⟩
    | none => return ⟨none, none⟩

/-- Whether the look of a scalar decides on its tag, or the kind of a collection: there is no tag,
or one that leaves the choice. -/
def Properties.isOpen (p : Properties) : Bool := p.tag.isNone || p.tag == some "!"

def Properties.tagOr (p : Properties) (own : Tag) : Tag :=
  if p.isOpen then own else Tag.ofName (p.tag.getD "")

def scalarOf (p : Properties) (text : String) (isPlain : Bool) : Node :=
  let byLook := p.tag == some "!" || (isPlain && p.tag.isNone)
  .scalar (p.tagOr (if byLook then Tag.ofPlain text else .text)) text

def setAnchor (p : Properties) (node : Option Node) : Reader Unit :=
  match p.anchor with
  | some name => modify fun r => { r with anchors := (name, node) :: r.anchors }
  | none => return ()

/-- Reads a node that carries a name; inside it the name cannot be used yet. -/
def anchored (p : Properties) (read : Reader Node) : Reader Node := do
  setAnchor p none
  let node ← read
  setAnchor p (some node)
  return node

def checkAnchor (p : Properties) : Reader Unit := do
  match p.anchor with
  | some name => if ((← get).anchors.lookup name).isSome then refuse else return ()
  | none => return ()

def deref (name : String) : Reader Node := do
  match (← get).anchors.lookup name with
  | some (some node) => return node
  | _ => refuse

def endsBlockPart : Token → Bool
  | .key | .value | .blockEnd => true
  | _ => false

def endsItem : Token → Bool
  | .blockEntry | .blockEnd => true
  | _ => false

def endsIndentlessItem (t : Token) : Bool := t == .blockEntry || endsBlockPart t

def endsFlowPart (closing t : Token) : Bool := t == .flowEntry || t == closing

mutual

/-- A node. In the flow there are no block collections, and `asPart` says that a sequence may
follow without indentation of its own, as a part of a block mapping. -/
def read (fuel : Nat) (inBlock asPart : Bool) : Reader Node :=
  match fuel with
  | 0 => refuse
  | fuel + 1 => do
    match ← peek with
    | .reference name => skip; deref name
    | _ =>
      let p ← readProperties
      checkAnchor p
      anchored p (readContent fuel inBlock asPart p)

def readContent (fuel : Nat) (inBlock asPart : Bool) (p : Properties) : Reader Node :=
  match fuel with
  | 0 => refuse
  | fuel + 1 => do
    let t ← peek
    let sequence (items : List Node) : Node := .sequence (p.tagOr .sequence) items
    let mapping (entries : List (Node × Node)) : Node := .mapping (p.tagOr .mapping) entries
    match t, inBlock with
    | .scalar text isPlain, _ => skip; return scalarOf p text isPlain
    | .flowSequenceStart, _ => skip; return sequence (← readFlowItems fuel true)
    | .flowMappingStart, _ => skip; return mapping (← readFlowEntries fuel true)
    | .blockSequenceStart, true => skip; return sequence (← readItems fuel)
    | .blockMappingStart, true => skip; return mapping (← readEntries fuel)
    | _, _ =>
      if asPart && t == .blockEntry then return sequence (← readIndentlessItems fuel)
      else if p.anchor.isSome || p.tag.isSome then return scalarOf p "" true
      else refuse

def readUnless (fuel : Nat) (ends : Token → Bool) (inBlock asPart : Bool) : Reader Node :=
  match fuel with
  | 0 => refuse
  | fuel + 1 => do
    if ends (← peek) then return missing else read fuel inBlock asPart

def readItems (fuel : Nat) : Reader (List Node) :=
  match fuel with
  | 0 => refuse
  | fuel + 1 => do
    if (← peek) == .blockEntry then
      skip
      let item ← readUnless fuel endsItem true false
      return item :: (← readItems fuel)
    else
      expect .blockEnd
      return []

def readIndentlessItems (fuel : Nat) : Reader (List Node) :=
  match fuel with
  | 0 => refuse
  | fuel + 1 => do
    if (← peek) == .blockEntry then
      skip
      let item ← readUnless fuel endsIndentlessItem true false
      return item :: (← readIndentlessItems fuel)
    else return []

def readValue (fuel : Nat) (ends : Token → Bool) (inBlock : Bool) : Reader Node :=
  match fuel with
  | 0 => refuse
  | fuel + 1 => do
    if (← peek) == .value then
      skip
      readUnless fuel ends inBlock inBlock
    else return missing

def readEntries (fuel : Nat) : Reader (List (Node × Node)) :=
  match fuel with
  | 0 => refuse
  | fuel + 1 => do
    match ← peek with
    | .key =>
      skip
      let key ← readUnless fuel endsBlockPart true true
      let value ← readValue fuel endsBlockPart true
      return (key, value) :: (← readEntries fuel)
    | _ =>
      expect .blockEnd
      return []

def readFlowPair (fuel : Nat) (closing : Token) : Reader (Node × Node) :=
  match fuel with
  | 0 => refuse
  | fuel + 1 => do
    let ends := endsFlowPart closing
    let key ← readUnless fuel (fun t => t == .value || ends t) false false
    return (key, ← readValue fuel ends false)

/-- The items of a flow sequence, up to its bracket; a pair among them is a mapping of its own. -/
def readFlowItems (fuel : Nat) (isFirst : Bool) : Reader (List Node) :=
  match fuel with
  | 0 => refuse
  | fuel + 1 => do
    let closing := Token.flowSequenceEnd
    if (← peek) == closing then
      skip
      return []
    if !isFirst then expect .flowEntry
    match ← peek with
    | .flowSequenceEnd => skip; return []
    | .key =>
      skip
      let pair ← readFlowPair fuel closing
      return .mapping .mapping [pair] :: (← readFlowItems fuel false)
    | _ =>
      let item ← read fuel false false
      return item :: (← readFlowItems fuel false)

/-- The entries of a flow mapping, up to its brace; a key without a mark has no value. -/
def readFlowEntries (fuel : Nat) (isFirst : Bool) : Reader (List (Node × Node)) :=
  match fuel with
  | 0 => refuse
  | fuel + 1 => do
    let closing := Token.flowMappingEnd
    if (← peek) == closing then
      skip
      return []
    if !isFirst then expect .flowEntry
    match ← peek with
    | .flowMappingEnd => skip; return []
    | .key =>
      skip
      let pair ← readFlowPair fuel closing
      return pair :: (← readFlowEntries fuel false)
    | _ =>
      let key ← read fuel false false
      return (key, missing) :: (← readFlowEntries fuel false)

end

def defaultHandles : List (String × String) := [("!", "!"), ("!!", Tag.commonStart)]

/-- The directives before a document. There is at most one version, which is 1 point something, and
each handle is declared once. -/
def readDirectives : Nat → Bool → Reader Unit
  | 0, _ => refuse
  | fuel + 1, hasVersion => do
    match ← peek with
    | .version major =>
      skip
      if hasVersion || major != 1 then refuse
      readDirectives fuel true
    | .tagHandle handle start =>
      skip
      if ((← get).handles.lookup handle).isSome then refuse
      modify fun r => { r with handles := r.handles ++ [(handle, start)] }
      readDirectives fuel hasVersion
    | .otherDirective =>
      skip
      readDirectives fuel hasVersion
    | _ => modify fun r => { r with handles := r.handles ++ defaultHandles }

def endsDocument : Token → Bool
  | .version _ | .tagHandle .. | .otherDirective | .documentStart | .documentEnd | .streamEnd => true
  | _ => false

def skipDocumentEnds : Nat → Reader Unit
  | 0 => return ()
  | fuel + 1 => do
    if (← peek) == .documentEnd then
      skip
      skipDocumentEnds fuel

def readDocument : Reader Node := do
  let length := (← get).tokens.length
  let fuel := 8 * length + 8
  let root ←
    match ← peek with
    | .streamEnd => pure missing
    | .version _ | .tagHandle .. | .otherDirective | .documentStart => do
      readDirectives (length + 1) false
      expect .documentStart
      readUnless fuel endsDocument true false
    | _ => do
      modify fun r => { r with handles := defaultHandles }
      read fuel true false
  skipDocumentEnds length
  expect .streamEnd
  return root

def ofTokens (tokens : List Token) : Except Fault Node := do
  let (root, _) ← readDocument.run ⟨tokens, [], []⟩
  return root

end Node

end Conformance.Yaml
