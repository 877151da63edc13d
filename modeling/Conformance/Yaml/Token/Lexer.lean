import Conformance.Yaml.Token.Block
import Conformance.Yaml.Token.Name
import Conformance.Yaml.Token.Plain
import Conformance.Yaml.Token.Quoted

/-! Reading a YAML text as tokens. Indentation opens and closes block collections; a key is known
as one only by the colon after it, so its mark is put in behind it. -/
namespace Conformance.Yaml

/-- A place where a key may have begun. A required one must turn out to be a key. -/
structure PossibleKey where
  position : Nat
  isRequired : Bool
  index : Nat
  line : Nat
  column : Nat
  deriving Inhabited

/-- The state of reading. The latest token comes first; `indent` is the column of the innermost
block collection; `keys` has a place for each level of flow collections, innermost first. -/
structure Lexer where
  cursor : Cursor
  tokens : List Token
  count : Nat
  indent : Int
  indents : List Int
  allowsKey : Bool
  keys : List (Option PossibleKey)
  deriving Inhabited

namespace Lexer

def start (s : List Char) : Lexer := ⟨.start s, [], 0, -1, [], true, [none]⟩

def isInFlow (l : Lexer) : Bool := 1 < l.keys.length

def push (t : Token) (l : Lexer) : Lexer := { l with tokens := t :: l.tokens, count := l.count + 1 }

def insertAt (position : Nat) (t : Token) (l : Lexer) : Lexer :=
  let later := l.count - position
  { l with tokens := l.tokens.take later ++ t :: l.tokens.drop later, count := l.count + 1 }

def key? (l : Lexer) : Option PossibleKey := l.keys.head?.join

def withKey (key : Option PossibleKey) (l : Lexer) : Lexer := { l with keys := key :: l.keys.drop 1 }

def unwind (column : Int) : List Int → Lexer → Lexer
  | outer :: rest, l =>
    if column < l.indent then unwind column rest { l.push .blockEnd with indent := outer, indents := rest }
    else l
  | [], l => l

def unwindTo (column : Int) (l : Lexer) : Lexer := if l.isInFlow then l else unwind column l.indents l

/-- Opens a block collection at a column, unless one is open there; `place` puts in its mark. -/
def openAt (column : Int) (place : Lexer → Lexer) (l : Lexer) : Lexer :=
  if l.indent < column then place { l with indents := l.indent :: l.indents, indent := column } else l

def dropKey (l : Lexer) : Except Fault Lexer :=
  match l.key? with
  | some key => if key.isRequired then .error .malformed else .ok (l.withKey none)
  | none => .ok l

def saveKey (l : Lexer) : Except Fault Lexer :=
  if l.allowsKey then do
    let required := !l.isInFlow && l.indent == l.cursor.column
    let c := l.cursor
    return (← l.dropKey).withKey (some ⟨l.count, required, c.index, c.line, c.column⟩)
  else .ok l

def dropStaleKeys (l : Lexer) : Except Fault Lexer := do
  let isStale (key : PossibleKey) : Bool :=
    key.line != l.cursor.line || 1024 < l.cursor.index - key.index
  let keys ← l.keys.mapM fun
    | some key =>
      if isStale key then if key.isRequired then throw Fault.malformed else pure none
      else pure (some key)
    | none => pure none
  return { l with keys }

def skipToToken : Nat → Lexer → Lexer
  | 0, l => l
  | fuel + 1, l =>
    let c := l.cursor
    let c := if c.index = 0 && c.peek? 0 == some byteOrderMark then c.next else c
    let c := c.skipSpaces.skipComment
    match c.lineBreak? with
    | some (_, c) =>
      skipToToken fuel { l with cursor := c, allowsKey := l.allowsKey || !l.isInFlow }
    | none => { l with cursor := c }

def mark (length : Nat) (t : Token) (l : Lexer) : Lexer :=
  { l.push t with cursor := l.cursor.skip length }

def separator (length : Nat) (t : Token) (allowsKey : Bool) (l : Lexer) : Except Fault Lexer := do
  return { (← l.dropKey).mark length t with allowsKey }

def documentMark (t : Token) (l : Lexer) : Except Fault Lexer := (l.unwindTo (-1)).separator 3 t false

def openFlow (t : Token) (l : Lexer) : Except Fault Lexer := do
  let l := (← l.saveKey).mark 1 t
  return { l with keys := none :: l.keys, allowsKey := true }

def closeFlow (t : Token) (l : Lexer) : Except Fault Lexer := do
  let l ← l.separator 1 t false
  if l.isInFlow then return { l with keys := l.keys.drop 1 } else throw .malformed

def blockMark (opening t : Token) (allowsKey : Bool) (l : Lexer) : Except Fault Lexer :=
  if l.isInFlow then l.separator 1 t allowsKey
  else if !l.allowsKey then .error .malformed
  else (l.openAt l.cursor.column (push opening)).separator 1 t allowsKey

def valueMark (l : Lexer) : Except Fault Lexer :=
  match l.key? with
  | some key =>
    let l := (l.withKey none).insertAt key.position .key
    let l := if l.isInFlow then l else l.openAt key.column (insertAt key.position .blockMappingStart)
    .ok { l.mark 1 .value with allowsKey := false }
  | none => l.blockMark .blockMappingStart .value (!l.isInFlow)

def keyStart (read : Lexer → Except Fault (Token × Cursor)) (l : Lexer) : Except Fault Lexer := do
  let l ← l.saveKey
  let (t, cursor) ← read l
  return { l.push t with cursor, allowsKey := false }

def quotedScalar (isDouble : Bool) : Lexer → Except Fault Lexer :=
  keyStart fun l => do
    let (text, c) ← Token.quoted isDouble l.cursor
    return (.scalar text false, c)

def blockScalar (isFolded : Bool) (l : Lexer) : Except Fault Lexer := do
  let l ← l.dropKey
  let (text, cursor) ← Token.block isFolded l.indent l.cursor
  return { l.push (.scalar text false) with cursor, allowsKey := true }

def plainScalar (l : Lexer) : Except Fault Lexer := do
  let l ← l.saveKey
  let (text, lineEnded, cursor) := Token.plain l.isInFlow l.indent l.cursor
  return { l.push (.scalar text true) with cursor, allowsKey := lineEnded }

/-- Characters that no plain scalar begins with, unless what follows makes it one. -/
def isIndicator (c : Char) : Bool :=
  isGap c || isBreak c || ("-?:,[]#&*!|>'\"%@").toList.contains c || c == '{' || c == '}'
    || c == Char.ofNat 0x60

def beginsPlain (ch : Char) (l : Lexer) : Bool :=
  !isIndicator ch
    || (!l.cursor.wordEndsAt 1 && (ch == '-' || (!l.isInFlow && (ch == '?' || ch == ':'))))

def tokenAt (ch : Char) (l : Lexer) : Except Fault Lexer :=
  let c := l.cursor
  let isWord := c.wordEndsAt 1
  if ch == '%' && c.column = 0 then do
    let l ← (l.unwindTo (-1)).dropKey
    let (t, cursor) ← Token.directiveAt l.cursor
    return { l.push t with cursor, allowsKey := false }
  else if c.column = 0 && c.hasMarks '-' then l.documentMark .documentStart
  else if c.column = 0 && c.hasMarks '.' then l.documentMark .documentEnd
  else if ch == '[' then l.openFlow .flowSequenceStart
  else if ch == '{' then l.openFlow .flowMappingStart
  else if ch == ']' then l.closeFlow .flowSequenceEnd
  else if ch == '}' then l.closeFlow .flowMappingEnd
  else if ch == ',' then l.separator 1 .flowEntry true
  else if ch == '-' && isWord then l.blockMark .blockSequenceStart .blockEntry true
  else if ch == '?' && (l.isInFlow || isWord) then
    l.blockMark .blockMappingStart .key (!l.isInFlow)
  else if ch == ':' && (l.isInFlow || isWord) then l.valueMark
  else if ch == '*' then l.keyStart fun l => do
    let (name, c) ← Token.anchorName l.cursor
    return (.reference name, c)
  else if ch == '&' then l.keyStart fun l => do
    let (name, c) ← Token.anchorName l.cursor
    return (.anchor name, c)
  else if ch == '!' then l.keyStart fun l => Token.tagAt l.cursor
  else if ch == '|' && !l.isInFlow then l.blockScalar false
  else if ch == '>' && !l.isInFlow then l.blockScalar true
  else if ch == '\x27' then l.quotedScalar false
  else if ch == '"' then l.quotedScalar true
  else if l.beginsPlain ch then l.plainScalar
  else .error .malformed

def finish (l : Lexer) : Except Fault Lexer := do
  return (← (l.unwindTo (-1)).dropKey).push .streamEnd

def run : Nat → Lexer → Except Fault Lexer
  | 0, _ => .error .malformed
  | fuel + 1, l => do
    let l ← (l.skipToToken (l.cursor.rest.length + 1)).dropStaleKeys
    let l := l.unwindTo l.cursor.column
    match l.cursor.rest with
    | [] => l.finish
    | ch :: _ => run fuel (← l.tokenAt ch)

end Lexer

def Token.ofText (s : List Char) : Except Fault (List Token) :=
  if s.all isAllowed then do
    let l ← Lexer.run (s.length + 1) (.start s)
    return l.tokens.reverse
  else .error .malformed

end Conformance.Yaml
