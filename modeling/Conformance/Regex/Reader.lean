import Conformance.Regex.Basic
import Conformance.Text.Digit

/-! Reading the text of a regular expression. A text that is none has no reading. -/
namespace Conformance.Regex

/-- A character of the text, or a backslash with the character after it. -/
inductive Symbol
  | plain (c : Char)
  | escaped (c : Char)
  deriving DecidableEq, Repr

def Symbol.split : List Char → Option (List Symbol)
  | [] => some []
  | '\\' :: c :: rest => (split rest).map (.escaped c :: ·)
  | c :: rest => if c == '\\' then none else (split rest).map (.plain c :: ·)

structure Width where
  least : Nat
  most : Option Nat
  deriving DecidableEq, Repr, Inhabited

namespace Width

def exactly (n : Nat) : Width := ⟨n, some n⟩

def add (a b : Width) : Width := ⟨a.least + b.least, do return (← a.most) + (← b.most)⟩

def either (a b : Width) : Width :=
  ⟨min a.least b.least, do return max (← a.most) (← b.most)⟩

def times (a : Width) (low : Nat) (high : Option Nat) : Width :=
  ⟨a.least * low,
    match high, a.most with
    | _, some 0 => some 0
    | some 0, _ => some 0
    | some n, some m => some (n * m)
    | _, _ => none⟩

end Width

/-- What is known while reading: the symbols to come, the widths of the groups read so far (none
for an open one), the names of groups, the options of the whole text, and, inside a lookbehind,
how many groups stood before it. -/
structure Reading where
  symbols : List Symbol
  groups : List (Option Width)
  names : List (String × Nat)
  ignoreCase : Bool
  multiLine : Bool
  dotAll : Bool
  asciiOnly : Bool
  verbose : Bool
  unicode : Bool
  pending : List Nat
  groupsBefore : Option Nat
  deriving Inhabited

abbrev Reader := StateT Reading Option

def peek : Reader (Option Symbol) := return (← get).symbols.head?

def next? : Reader (Option Symbol) := do
  let s ← get
  match s.symbols with
  | [] => return none
  | x :: rest =>
    set { s with symbols := rest }
    return some x

def next : Reader Symbol := do
  match ← next? with
  | some x => return x
  | none => failure

def take? (c : Char) : Reader Bool := do
  if (← peek) == some (.plain c) then
    discard next?
    return true
  else return false

def expectChar (c : Char) : Reader Unit := do
  unless ← take? c do failure

def takeWhile (ok : Char → Bool) : Nat → Reader (List Char)
  | 0 => return []
  | n + 1 => do
    match ← peek with
    | some (.plain c) =>
      if ok c then
        discard next?
        return c :: (← takeWhile ok n)
      else return []
    | _ => return []

def takeUntil (stop : Char) : Nat → Reader (List Char)
  | 0 => failure
  | fuel + 1 => do
    match ← next with
    | .plain c => if c == stop then return [] else return c :: (← takeUntil stop fuel)
    | .escaped _ => failure

def remaining : Reader Nat := return (← get).symbols.length

def isHexDigit (c : Char) : Bool := (Text.hexValue? c).isSome

def isOctalDigit (c : Char) : Bool := '0' ≤ c && c ≤ '7'

def octalNumber (cs : List Char) : Nat := cs.foldl (fun n c => 8 * n + (c.toNat - '0'.toNat)) 0

def charOfCode (n : Nat) : Reader Char := if n.isValidChar then return Char.ofNat n else failure

def hexChar (n : Nat) : Reader Char := do
  let digits ← takeWhile isHexDigit n
  if digits.length = n then charOfCode ((Text.hexNumber? digits).getD 0) else failure

def controlEscape? : Char → Option Char
  | 'a' => some '\x07'
  | 'f' => some '\x0c'
  | 'n' => some '\n'
  | 'r' => some '\r'
  | 't' => some '\t'
  | 'v' => some '\x0b'
  | '\\' => some '\\'
  | _ => none

def categoryEscape? : Char → Option ClassItem
  | 'd' => some (.category .digit false)
  | 'D' => some (.category .digit true)
  | 's' => some (.category .space false)
  | 'S' => some (.category .space true)
  | 'w' => some (.category .word false)
  | 'W' => some (.category .word true)
  | _ => none

def anchorEscape? : Char → Option Anchor
  | 'A' => some .textStart
  | 'Z' => some .textEnd
  | 'b' => some .wordBoundary
  | 'B' => some .insideWord
  | _ => none

def isAsciiLetter (c : Char) : Bool := c.isAlpha

def codeEscape (c : Char) : Reader Char := do
  if c == 'x' then hexChar 2
  else if c == 'u' then hexChar 4
  else if c == 'U' then hexChar 8
  else if isAsciiLetter c then failure
  else return c

def classEscape (c : Char) : Reader ClassItem := do
  if let some item := categoryEscape? c then return item
  let x ←
    if let some x := controlEscape? c then pure x
    else if c == 'b' then pure '\x08'
    else if isOctalDigit c then
      let n := octalNumber (c :: (← takeWhile isOctalDigit 2))
      if 0o377 < n then failure else pure (Char.ofNat n)
    else if c.isDigit then failure
    else codeEscape c
  return .range x x

def classSymbol : Symbol → Reader ClassItem
  | .plain c => return .range c c
  | .escaped c => classEscape c

/-- The items of a bracketed class up to its end; a bracket that comes first stands for itself. -/
def classItems (items : List ClassItem) : Nat → Reader (List ClassItem)
  | 0 => failure
  | fuel + 1 => do
    let symbol ← next
    if symbol == .plain ']' && !items.isEmpty then return items.reverse
    let low ← classSymbol symbol
    if ← take? '-' then
      let symbol ← next
      if symbol == .plain ']' then return (.range '-' '-' :: low :: items).reverse
      let high ← classSymbol symbol
      match low, high with
      | .range a _, .range b _ =>
        if b < a then failure else classItems (.range a b :: items) fuel
      | _, _ => failure
    else classItems (low :: items) fuel

def options : Reader Options := do
  let s ← get
  return ⟨s.ignoreCase, s.multiLine, s.dotAll, s.asciiOnly⟩

def referTo (index : Nat) : Reader Nat := do
  let s ← get
  match s.groups[index]? with
  | some (some _) =>
    if s.groupsBefore.any (· ≤ index) then failure else return index
  | _ => failure

def digitEscape (c : Char) : Reader Expr := do
  let o ← options
  if c == '0' then
    return .literal o (Char.ofNat (octalNumber (← takeWhile isOctalDigit 2)))
  match ← takeWhile Char.isDigit 1 with
  | [] => return .backReference o (← referTo (Text.decimal [c]))
  | d :: _ =>
    if isOctalDigit c && isOctalDigit d then
      match ← takeWhile isOctalDigit 1 with
      | e :: _ =>
        let n := octalNumber [c, d, e]
        if 0o377 < n then failure else return .literal o (Char.ofNat n)
      | [] => return .backReference o (← referTo (Text.decimal [c, d]))
    else return .backReference o (← referTo (Text.decimal [c, d]))

def escape (c : Char) : Reader Expr := do
  let o ← options
  if let some item := categoryEscape? c then return .oneOf o false [item]
  if let some a := anchorEscape? c then return .anchor o a
  if let some x := controlEscape? c then return .literal o x
  if c.isDigit then digitEscape c else return .literal o (← codeEscape c)

def bounds? (symbols : List Symbol) : Option (Nat × Option Nat × List Symbol) :=
  let digit? : Symbol → Bool
    | .plain c => c.isDigit
    | .escaped _ => false
  let number (ds : List Symbol) : Option Nat :=
    if ds.isEmpty then none
    else some (Text.decimal (ds.map fun | .plain c => c | .escaped c => c))
  let low := symbols.takeWhile digit?
  match symbols.dropWhile digit? with
  | .plain ',' :: rest =>
    let high := rest.takeWhile digit?
    match rest.dropWhile digit? with
    | .plain '}' :: rest => some ((number low).getD 0, number high, rest)
    | _ => none
  | .plain '}' :: rest =>
    if low.isEmpty then none else some ((number low).getD 0, number low, rest)
  | _ => none

def repetition? (c : Char) : Reader (Option (Nat × Option Nat)) := do
  if c == '?' then return some (0, some 1)
  if c == '*' then return some (0, none)
  if c == '+' then return some (1, none)
  let s ← get
  match bounds? s.symbols with
  | none => return none
  | some (low, high, rest) =>
    if high.any (· < low) then failure
    set { s with symbols := rest }
    return some (low, high)

def appetite : Reader Appetite := do
  if ← take? '?' then return .lazy
  if ← take? '+' then return .possessive
  return .greedy

def isRepeatable : Expr → Bool
  | .anchor .. | .repetition .. => false
  | _ => true

mutual

def Expr.width (groups : List (Option Width)) : Expr → Width
  | .literal .. | .any _ | .oneOf .. => .exactly 1
  | .anchor .. | .lookAhead .. | .lookBehind .. => .exactly 0
  | .sequence parts => totalWidth groups parts
  | .choice branches => branchWidth groups branches
  | .repetition low high _ body => (body.width groups).times low high
  | .group _ body | .atomic body => body.width groups
  | .backReference _ index => (groups[index]?.bind id).getD (.exactly 0)
  | .ifGroup _ present absent => (present.width groups).either (absent.width groups)

def totalWidth (groups : List (Option Width)) : List Expr → Width
  | [] => .exactly 0
  | e :: rest => (e.width groups).add (totalWidth groups rest)

def branchWidth (groups : List (Option Width)) : List Expr → Width
  | [] => .exactly 0
  | [e] => e.width groups
  | e :: rest => (e.width groups).either (branchWidth groups rest)

end

def openGroup (name : Option String) : Reader Nat := do
  let s ← get
  let index := s.groups.length
  match name with
  | none => set { s with groups := s.groups ++ [none] }
  | some name =>
    if (s.names.lookup name).isSome then failure
    set { s with groups := s.groups ++ [none], names := (name, index) :: s.names }
  return index

def closeGroup (index : Nat) (body : Expr) : Reader Unit :=
  modify fun s => { s with groups := s.groups.set index (some (body.width s.groups)) }

def isGroupName (name : List Char) : Bool :=
  name.all Text.isWord && !name.isEmpty &&
    !(name.head?.any fun c => (Text.digitValue? c).isSome)

def groupName (stop : Char) : Reader String := do
  let name ← takeUntil stop ((← remaining) + 1)
  if isGroupName name then return String.ofList name else failure

def isOptionLetter (c : Char) : Bool := "imsxautL".toList.contains c

def optionLetters (stops : List Char) (first : Char) : Nat → Reader (List Char × Char)
  | 0 => failure
  | fuel + 1 => do
    if !isOptionLetter first || first == 'L' then failure
    match ← next with
    | .escaped _ => failure
    | .plain c =>
      if stops.contains c then return ([first], c)
      else
        let (letters, stop) ← optionLetters stops c fuel
        return (first :: letters, stop)

def setOptions (on : Bool) (letters : List Char) (s : Reading) : Reading :=
  letters.foldl (fun s c =>
    match c with
    | 'i' => { s with ignoreCase := on }
    | 'm' => { s with multiLine := on }
    | 's' => { s with dotAll := on }
    | 'x' => { s with verbose := on }
    | 'a' => { s with asciiOnly := on }
    | 'u' => { s with unicode := on, asciiOnly := !on && s.asciiOnly }
    | _ => s) s

inductive OptionGroup
  | whole (letters : List Char)
  | part (on off : List Char)

def optionGroup (first : Char) : Reader OptionGroup := do
  let fuel := (← remaining) + 1
  let (on, stop) ←
    if first == '-' then pure ([], '-') else optionLetters [')', '-', ':'] first fuel
  if on.contains 'a' && on.contains 'u' then failure
  if stop == ')' then return .whole on
  if on.contains 't' then failure
  if stop == ':' then return .part on []
  match ← next with
  | .escaped _ => failure
  | .plain c =>
    let (off, _) ← optionLetters [':'] c fuel
    if off.any fun c => "autL".toList.contains c then failure
    if on.any off.contains then failure
    return .part on off

def withOptions {α : Type} (change : Reading → Reading) (body : Reader α) : Reader α := do
  let outer ← get
  set (change outer)
  let x ← body
  modify fun s => { s with
    ignoreCase := outer.ignoreCase, multiLine := outer.multiLine, dotAll := outer.dotAll,
    asciiOnly := outer.asciiOnly, verbose := outer.verbose, unicode := outer.unicode }
  return x

/-- Skips a comment up to `stop`, which must come unless the end of the text will do. -/
def skipComment (stop : Char) (mayEnd : Bool) : Nat → Reader Unit
  | 0 => failure
  | fuel + 1 => do
    match ← next? with
    | none => if mayEnd then return () else failure
    | some symbol => if symbol == .plain stop then return () else skipComment stop mayEnd fuel

mutual

/-- Branches between bars. `depth` is 0 for the whole text. -/
def branches (fuel depth : Nat) : Reader Expr :=
  match fuel with
  | 0 => failure
  | fuel + 1 => do
    let first ← sequence fuel depth (depth == 0) []
    if ← take? '|' then
      match ← moreBranches fuel depth with
      | rest => return .choice (first :: rest)
    else return first

def moreBranches (fuel depth : Nat) : Reader (List Expr) :=
  match fuel with
  | 0 => failure
  | fuel + 1 => do
    let e ← sequence fuel depth false []
    if ← take? '|' then return e :: (← moreBranches fuel depth) else return [e]

/-- The parts of one branch, added to those read before, latest first. `first` holds for the
first branch of the whole text, where options of the whole text may stand. -/
def sequence (fuel depth : Nat) (first : Bool) (parts : List Expr) : Reader Expr :=
  match fuel with
  | 0 => failure
  | fuel + 1 => do
    match ← peek with
    | none => return .sequence parts.reverse
    | some (.escaped c) =>
      discard next?
      sequence fuel depth first ((← escape c) :: parts)
    | some (.plain c) =>
      if c == '|' || c == ')' then return .sequence parts.reverse
      discard next?
      let o ← options
      if (← get).verbose && (c == ' ' || (0x09 ≤ c.toNat && c.toNat ≤ 0x0D)) then
        sequence fuel depth first parts
      else if (← get).verbose && c == '#' then
        skipComment '\n' true ((← remaining) + 1)
        sequence fuel depth first parts
      else if c == '[' then
        let negated ← take? '^'
        let items ← classItems [] ((← remaining) + 1)
        sequence fuel depth first (.oneOf o negated items :: parts)
      else if "*+?\x7b".toList.contains c then
        match ← repetition? c with
        | none => sequence fuel depth first (.literal o c :: parts)
        | some (low, high) =>
          match parts with
          | [] => failure
          | body :: parts =>
            if !isRepeatable body then failure
            let chosen ← appetite
            sequence fuel depth first (.repetition low high chosen body :: parts)
      else if c == '.' then sequence fuel depth first (.any o :: parts)
      else if c == '^' then sequence fuel depth first (.anchor o .lineStart :: parts)
      else if c == '$' then sequence fuel depth first (.anchor o .lineEnd :: parts)
      else if c == '(' then
        match ← parenthesis fuel depth (first && parts.isEmpty) with
        | some e => sequence fuel depth first (e :: parts)
        | none => sequence fuel depth first parts
      else sequence fuel depth first (.literal o c :: parts)

/-- What an opening parenthesis introduces; comments and options of the whole text are no part. -/
def parenthesis (fuel depth : Nat) (atStart : Bool) : Reader (Option Expr) :=
  match fuel with
  | 0 => failure
  | fuel + 1 => do
    if !(← take? '?') then
      return some (← capturing fuel depth none)
    match ← next with
    | .escaped _ => failure
    | .plain c =>
      if c == 'P' then
        if ← take? '<' then
          return some (← capturing fuel depth (some (← groupName '>')))
        else if ← take? '=' then
          let name ← groupName ')'
          match (← get).names.lookup name with
          | some index => return some (.backReference (← options) (← referTo index))
          | none => failure
        else failure
      else if c == ':' then
        return some (.group none (← enclosed fuel depth id))
      else if c == '#' then
        skipComment ')' false ((← remaining) + 1)
        return none
      else if c == '=' || c == '!' then
        return some (.lookAhead (c == '!') (← enclosed fuel depth id))
      else if c == '<' then
        match ← next with
        | .plain d =>
          if d != '=' && d != '!' then failure
          let outer := (← get).groupsBefore
          modify fun s => { s with groupsBefore := s.groupsBefore.or (some s.groups.length) }
          let body ← enclosed fuel depth id
          modify fun s => { s with groupsBefore := outer }
          let w := body.width (← get).groups
          if w.most != some w.least then failure
          return some (.lookBehind (d == '!') w.least body)
        | .escaped _ => failure
      else if c == '(' then
        let name ← takeUntil ')' ((← remaining) + 1)
        let index ←
          if isGroupName name then
            match (← get).names.lookup (String.ofList name) with
            | some index => pure index
            | none => failure
          else if name.all Char.isDigit && !name.isEmpty && Text.decimal name != 0 then
            modify fun s => { s with pending := Text.decimal name :: s.pending }
            pure (Text.decimal name)
          else failure
        if (← get).groupsBefore.isSome then discard (referTo index)
        let present ← sequence fuel (depth + 1) false []
        let absent ←
          if ← take? '|' then
            let absent ← sequence fuel (depth + 1) false []
            if (← peek) == some (.plain '|') then failure
            pure absent
          else pure (.sequence [])
        expectChar ')'
        return some (.ifGroup index present absent)
      else if c == '>' then
        return some (.atomic (← enclosed fuel depth id))
      else if c == '-' || isOptionLetter c then
        match ← optionGroup c with
        | .whole letters =>
          if !atStart then failure
          let s ← get
          if (letters.contains 'a' && s.unicode) || (letters.contains 'u' && s.asciiOnly) then
            failure
          modify (setOptions true letters)
          return none
        | .part on off =>
          let body ← enclosed fuel depth fun s => setOptions false off (setOptions true on s)
          return some (.group none body)
      else failure

def capturing (fuel depth : Nat) (name : Option String) : Reader Expr :=
  match fuel with
  | 0 => failure
  | fuel + 1 => do
    let index ← openGroup name
    let body ← enclosed fuel depth id
    closeGroup index body
    return .group (some index) body

def enclosed (fuel depth : Nat) (change : Reading → Reading) : Reader Expr :=
  match fuel with
  | 0 => failure
  | fuel + 1 => do
    let body ← withOptions change (branches fuel (depth + 1))
    expectChar ')'
    return body

end

def read? (text : String) : Option Expr := do
  let symbols ← Symbol.split text.toList
  let start : Reading :=
    { symbols, groups := [none], names := [], ignoreCase := false, multiLine := false,
      dotAll := false, asciiOnly := false, verbose := false, unicode := false, pending := [],
      groupsBefore := none }
  let (e, s) ← (branches (6 * symbols.length + 12) 0).run start
  if s.symbols.isEmpty && s.pending.all (· < s.groups.length) then some e else none

end Conformance.Regex
