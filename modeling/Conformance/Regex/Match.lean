import Conformance.Regex.Basic

/-! Matching by backtracking. Each part of an expression is tried at a place in the text, and what
follows it is tried after each way in which it fits. -/
namespace Conformance.Regex

structure Place where
  before : List Char
  rest : List Char
  groups : List (Nat × List Char)
  deriving Inhabited

namespace Place

def position (p : Place) : Nat := p.before.length

def step? (p : Place) : Option (Char × Place) :=
  match p.rest with
  | [] => none
  | c :: rest => some (c, { p with before := c :: p.before, rest })

def back? (p : Place) (width : Nat) : Option Place :=
  if p.before.length < width then none
  else some { p with
    before := p.before.drop width
    rest := (p.before.take width).reverse ++ p.rest }

def textSince (p : Place) (start : Place) : List Char :=
  (p.before.take (p.position - start.position)).reverse

def capture (p : Place) (index : Nat) (text : List Char) : Place :=
  { p with groups := (index, text) :: p.groups }

def follow? (same : Char → Char → Bool) (p : Place) : List Char → Option Place
  | [] => some p
  | c :: text =>
    match p.step? with
    | some (d, next) => if same c d then follow? same next text else none
    | none => none

end Place

def Anchor.holds (o : Options) (a : Anchor) (p : Place) : Bool :=
  let isWord (c : Option Char) : Bool := (c.map (Category.word.holds o)).getD false
  match a with
  | textStart => p.before.isEmpty
  | textEnd => p.rest.isEmpty
  | lineStart => p.before.isEmpty || (o.multiLine && p.before.head? == some '\n')
  | lineEnd =>
    p.rest.isEmpty || p.rest == ['\n'] || (o.multiLine && p.rest.head? == some '\n')
  | wordBoundary => isWord p.before.head? != isWord p.rest.head?
  | insideWord =>
    (!p.before.isEmpty || !p.rest.isEmpty) && isWord p.before.head? == isWord p.rest.head?

/-- A way of matching: from a place, trying what follows after each fit. -/
abbrev Matcher := Place → (Place → Option Place) → Option Place

def rounds (step : Matcher) : Nat → Matcher
  | 0 => fun p k => k p
  | n + 1 => fun p k => step p fun q => rounds step n q k

/-- Up to `n` further rounds, as many as possible first; a round that would start where the one
before it started is not tried. -/
def mostRounds (step : Matcher) : Nat → Option Nat → Matcher
  | 0 => fun _ p k => k p
  | n + 1 => fun last p k =>
    if last == some p.position then k p
    else match step p fun q => mostRounds step n (some p.position) q k with
      | some found => some found
      | none => k p

def fewestRounds (step : Matcher) : Nat → Option Nat → Matcher
  | 0 => fun _ p k => k p
  | n + 1 => fun last p k =>
    match k p with
    | some found => some found
    | none =>
      if last == some p.position then none
      else step p fun q => fewestRounds step n (some p.position) q k

/-- The rounds beyond the required ones: without a limit, no more can differ than there are
places left in the text. -/
def extraRounds (min : Nat) (max : Option Nat) (p : Place) : Nat :=
  match max with
  | some m => Nat.min (m - min) (p.rest.length + 2)
  | none => p.rest.length + 2

mutual

def Expr.run : Expr → Matcher
  | .literal o c => fun p k =>
    match p.step? with
    | some (d, next) => if c == d || (o.ignoreCase && o.sameLetter c d) then k next else none
    | none => none
  | .any o => fun p k =>
    match p.step? with
    | some (d, next) => if o.dotAll || d != '\n' then k next else none
    | none => none
  | .oneOf o negated items => fun p k =>
    match p.step? with
    | some (d, next) => if inClass o negated items d then k next else none
    | none => none
  | .anchor o a => fun p k => if a.holds o p then k p else none
  | .sequence parts => runAll parts
  | .choice branches => runAny branches
  | .repetition min max appetite body => fun p k =>
    match appetite with
    | .greedy =>
      rounds body.run min p fun q => mostRounds body.run (extraRounds min max q) none q k
    | .lazy =>
      rounds body.run min p fun q => fewestRounds body.run (extraRounds min max q) none q k
    | .possessive =>
      match rounds body.run min p fun q =>
          mostRounds body.run (extraRounds min max q) none q some with
      | some q => k q
      | none => none
  | .group none body => body.run
  | .group (some index) body => fun p k =>
    body.run p fun q => k (q.capture index (q.textSince p))
  | .atomic body => fun p k =>
    match body.run p some with
    | some q => k q
    | none => none
  | .backReference o index => fun p k =>
    match p.groups.lookup index with
    | some text =>
      match p.follow? (fun c d => c == d || (o.ignoreCase && o.sameLetter c d)) text with
      | some q => k q
      | none => none
    | none => none
  | .lookAhead negated body => fun p k =>
    match body.run p some with
    | some q => if negated then none else k { p with groups := q.groups }
    | none => if negated then k p else none
  | .lookBehind negated width body => fun p k =>
    match (p.back? width).bind fun start => body.run start some with
    | some q => if negated then none else k { p with groups := q.groups }
    | none => if negated then k p else none
  | .ifGroup index present absent => fun p k =>
    if (p.groups.lookup index).isSome then present.run p k else absent.run p k

def runAll : List Expr → Matcher
  | [] => fun p k => k p
  | e :: rest => fun p k => e.run p fun q => runAll rest q k

def runAny : List Expr → Matcher
  | [] => fun _ _ => none
  | e :: rest => fun p k =>
    match e.run p k with
    | some found => some found
    | none => runAny rest p k

end

def Expr.matchesAll (e : Expr) (text : String) : Bool :=
  (e.run ⟨[], text.toList, []⟩ fun p => if p.rest.isEmpty then some p else none).isSome

end Conformance.Regex
