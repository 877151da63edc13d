import Conformance.Text.Case

/-! Regular expressions with captures, back references and assertions. -/
namespace Conformance.Regex

structure Options where
  ignoreCase : Bool
  multiLine : Bool
  dotAll : Bool
  asciiOnly : Bool
  deriving DecidableEq, Repr, Inhabited

inductive Category
  | word
  | digit
  | space
  deriving DecidableEq, Repr

inductive ClassItem
  | range (low high : Char)
  | category (c : Category) (negated : Bool)
  deriving DecidableEq, Repr

inductive Anchor
  | textStart
  | textEnd
  | lineStart
  | lineEnd
  | wordBoundary
  | insideWord
  deriving DecidableEq, Repr

inductive Appetite
  | greedy
  | lazy
  | possessive
  deriving DecidableEq, Repr

inductive Expr
  | literal (o : Options) (c : Char)
  | any (o : Options)
  | oneOf (o : Options) (negated : Bool) (items : List ClassItem)
  | anchor (o : Options) (a : Anchor)
  | sequence (parts : List Expr)
  | choice (branches : List Expr)
  | repetition (min : Nat) (max : Option Nat) (appetite : Appetite) (body : Expr)
  | group (index : Option Nat) (body : Expr)
  | atomic (body : Expr)
  | backReference (o : Options) (index : Nat)
  | lookAhead (negated : Bool) (body : Expr)
  | lookBehind (negated : Bool) (width : Nat) (body : Expr)
  | ifGroup (index : Nat) (present absent : Expr)
  deriving Repr, Inhabited

/-- Characters with equal or related small letters, which differ only in case. -/
def caseFamilies : List (List Nat) := [
  [0x69, 0x131], [0x73, 0x17F], [0xB5, 0x3BC], [0x345, 0x3B9, 0x1FBE], [0x390, 0x1FD3],
  [0x3B0, 0x1FE3], [0x3B2, 0x3D0], [0x3B5, 0x3F5], [0x3B8, 0x3D1], [0x3BA, 0x3F0], [0x3C0, 0x3D6],
  [0x3C1, 0x3F1], [0x3C2, 0x3C3], [0x3C6, 0x3D5], [0x432, 0x1C80], [0x434, 0x1C81],
  [0x43E, 0x1C82], [0x441, 0x1C83], [0x442, 0x1C84, 0x1C85], [0x44A, 0x1C86], [0x463, 0x1C87],
  [0x1C88, 0xA64B], [0x1E61, 0x1E9B], [0xFB05, 0xFB06]]

namespace Options

def fold (o : Options) (c : Char) : Char :=
  if o.asciiOnly then if c.toNat < 0x80 then c.toLower else c
  else if c == 'İ' then 'i' else Text.lowerChar c

def sameLetter (o : Options) (c d : Char) : Bool :=
  let x := o.fold c
  let y := o.fold d
  x == y || (!o.asciiOnly &&
    caseFamilies.any fun family => family.contains x.toNat && family.contains y.toNat)

end Options

def Category.holds (o : Options) (k : Category) (c : Char) : Bool :=
  match k with
  | word => if o.asciiOnly then c.isAlphanum || c == '_' else Text.isWord c
  | digit => if o.asciiOnly then c.isDigit else (Text.digitValue? c).isSome
  | space =>
    if o.asciiOnly then c == ' ' || (0x09 ≤ c.toNat && c.toNat ≤ 0x0D) else Text.isBlank c

def ClassItem.holds (o : Options) (c : Char) : ClassItem → Bool
  | range low high => low ≤ c && c ≤ high
  | category k negated => k.holds o c != negated

/-- The characters that a class is asked about when case is ignored: the character, its small and
capital letter, and their relatives. -/
def caseVariants (o : Options) (c : Char) : List Char :=
  let small := o.fold c
  let related := if o.asciiOnly then [] else
    (caseFamilies.filter (·.contains small.toNat)).flatten.map Char.ofNat
  let letters := small :: related
  letters ++ letters.flatMap fun l =>
    if o.asciiOnly then [l.toUpper] else match Text.upperChar l with
      | [u] => [u]
      | _ => []

def inClass (o : Options) (negated : Bool) (items : List ClassItem) (c : Char) : Bool :=
  let candidates := if o.ignoreCase then caseVariants o c else [c]
  (candidates.any fun d => items.any (ClassItem.holds o d)) != negated

end Conformance.Regex
