import Conformance.Text.Digit
import Conformance.Yaml.Cursor
import Conformance.Yaml.Fault
import Conformance.Yaml.Token

/-! Names in the format itself: anchors, tags and directives. -/
namespace Conformance.Yaml.Token

def anchorName (c : Cursor) : Except Fault (String × Cursor) :=
  let (name, c) := c.next.span isNameChar
  let mayFollow (ch : Char) : Bool :=
    isGap ch || isBreak ch || ['?', ':', ',', ']', '}', '%', '@', (Char.ofNat 0x60)].contains ch
  if name.isEmpty || !c.endsWith mayFollow 0 then .error .malformed
  else .ok (String.ofList name, c)

def tagHandle? (c : Cursor) : Option (String × Cursor) :=
  if c.peek? 0 != some '!' then none
  else if c.peek? 1 == some ' ' then some ("!", c.next)
  else
    let (name, after) := c.next.span isNameChar
    if after.peek? 0 == some '!' then some (String.ofList ('!' :: name ++ ['!']), after.next) else none

def isUriChar (c : Char) : Bool :=
  c.isAlphanum || ("-;/?:@&=+$,_.!~*'()[]").toList.contains c

def escapedBytes : List Char → Option (List UInt8 × List Char)
  | '%' :: a :: b :: rest => do
    let byte ← Text.hexNumber? [a, b]
    let (others, rest) ← escapedBytes rest
    return (UInt8.ofNat byte :: others, rest)
  | '%' :: _ => none
  | rest => some ([], rest)

def uriParts : Nat → Cursor → Option (List Char × Cursor)
  | 0, _ => none
  | fuel + 1, c => do
    let (run, c) := c.span isUriChar
    if c.peek? 0 == some '%' then
      let (bytes, _) ← escapedBytes c.rest
      let text ← String.fromUTF8? ⟨bytes.toArray⟩
      let (others, c) ← uriParts fuel (c.skip (3 * bytes.length))
      return (run ++ text.toList ++ others, c)
    else return (run, c)

def uri (c : Cursor) : Except Fault (String × Cursor) :=
  match uriParts (c.rest.length + 1) c with
  | none => .error .malformed
  | some (text, after) =>
    if after.index = c.index then .error .malformed else .ok (String.ofList text, after)

def hasSecondMark (c : Cursor) : Bool :=
  (c.next.rest.takeWhile fun ch => ch != ' ' && !isBreak ch).contains '!'

def tagAt (c : Cursor) : Except Fault (Token × Cursor) := do
  let (found, c) ←
    if c.peek? 1 == some '<' then do
      let (suffix, c) ← uri (c.skip 2)
      if c.peek? 0 == some '>' then pure (tag none suffix, c.next) else throw .malformed
    else if c.wordEndsAt 1 then pure (tag none "!", c.next)
    else if hasSecondMark c then
      match tagHandle? c with
      | none => throw .malformed
      | some (handle, c) => do
        let (suffix, c) ← uri c
        pure (tag (some handle) suffix, c)
    else do
      let (suffix, c) ← uri c.next
      pure (tag (some "!") suffix, c)
  if c.endsWith (fun ch => ch == ' ' || isBreak ch) 0 then return (found, c) else throw .malformed

def versionNumber (c : Cursor) : Except Fault (Nat × Cursor) :=
  match c.span Char.isDigit with
  | ([], _) => .error .malformed
  | (digits, c) => .ok (Text.decimal digits, c)

def directiveValue (name : List Char) (c : Cursor) : Except Fault (Token × Cursor) := do
  let endsWord (c : Cursor) : Bool := c.endsWith (fun ch => ch == ' ' || isBreak ch) 0
  if name == ['Y', 'A', 'M', 'L'] then
    let (major, c) ← versionNumber c.skipSpaces
    if c.peek? 0 != some '.' then throw .malformed
    let (_, c) ← versionNumber c.next
    if endsWord c then return (version major, c) else throw .malformed
  else if name == ['T', 'A', 'G'] then
    match tagHandle? c.skipSpaces with
    | none => throw .malformed
    | some (handle, c) =>
      if c.peek? 0 != some ' ' then throw .malformed
      let (start, c) ← uri c.skipSpaces
      if endsWord c then return (tagHandle handle start, c) else throw .malformed
  else return (otherDirective, c.skipWhile (!isBreak ·))

def directiveAt (c : Cursor) : Except Fault (Token × Cursor) := do
  let (name, c) := c.next.span isNameChar
  if name.isEmpty || !c.endsWith (fun ch => ch == ' ' || isBreak ch) 0 then throw .malformed
  let (found, c) ← directiveValue name c
  let c := c.skipSpaces.skipComment
  if c.atLineEnd then return (found, (c.lineBreak?.map (·.2)).getD c) else throw .malformed

end Conformance.Yaml.Token
