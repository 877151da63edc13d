import Conformance.Yaml.Node
import Conformance.Yaml.Scalar

/-! The values of nodes. Of several faults in a document the one in the outermost collection
counts, and of those in one depth the first. -/
namespace Conformance.Yaml

/-- A value, or a fault with the depth at which it shows. -/
abbrev Graded (α : Type) := Except (Nat × Fault) α

def gather {α : Type} : List (Graded α) → Graded (List α)
  | [] => .ok []
  | .ok a :: rest => (a :: ·) <$> gather rest
  | .error e :: rest =>
    match gather rest with
    | .error e' => .error (if e'.1 < e.1 then e' else e)
    | .ok _ => .error e

def both {α β : Type} : Graded α → Graded β → Graded (α × β)
  | .ok a, .ok b => .ok (a, b)
  | .error e, .ok _ => .error e
  | .ok _, .error e => .error e
  | .error e, .error e' => .error (if e'.1 < e.1 then e' else e)

namespace Node

def isMerge : Node → Bool
  | scalar .merge _ => true
  | mapping .merge _ => true
  | sequence .merge _ => true
  | _ => false

mutual

def flatten : List (Node × Node) → Except Fault (List (Node × Node) × List (Node × Node))
  | [] => .ok ([], [])
  | (key, value) :: rest => do
    if key.isMerge then
      let spread ← value.spread
      let (merged, own) ← flatten rest
      return (spread ++ merged, own)
    else
      let (merged, own) ← flatten rest
      return (merged, (key, value) :: own)

/-- The entries that the value of a merge key adds: those of a mapping, or of a list of mappings,
where the earlier ones come last and so prevail. -/
def spread : Node → Except Fault (List (Node × Node))
  | mapping _ entries => do
    let (merged, own) ← flatten entries
    return merged ++ own
  | sequence _ items => spreadAll items
  | scalar .. => .error .malformed

def spreadAll : List Node → Except Fault (List (Node × Node))
  | [] => .ok []
  | mapping _ entries :: rest => do
    let (merged, own) ← flatten entries
    return (← spreadAll rest) ++ merged ++ own
  | _ :: _ => .error .malformed

end

mutual

def depth : Node → Nat
  | scalar .. => 0
  | sequence _ items => itemsDepth items + 1
  | mapping _ entries => entriesDepth entries + 1

def itemsDepth : List Node → Nat
  | [] => 0
  | n :: rest => max n.depth (itemsDepth rest)

def entriesDepth : List (Node × Node) → Nat
  | [] => 0
  | (k, v) :: rest => max (max k.depth v.depth) (entriesDepth rest)

end

/-- The text of a scalar, or of the scalar under the key that stands for a mapping as a whole. -/
def text? (fuel : Nat) : Node → Option String
  | scalar _ text => some text
  | sequence .. => none
  | mapping _ entries =>
    match fuel with
    | 0 => none
    | fuel + 1 =>
      match entries.find? fun e => e.1 matches scalar .default _ with
      | some (_, value) => value.text? fuel
      | none => none

def tag : Node → Tag
  | scalar tag _ => tag
  | sequence tag _ => tag
  | mapping tag _ => tag

def makesCollection (n : Node) : Bool :=
  n.tag == .sequence || n.tag == .mapping || n.tag == .set

def keyOf (value : Graded Datum) (stage : Nat) : Graded Scalar :=
  match value with
  | .ok (.scalar s) => .ok s
  | .ok _ => .error (stage, .malformed)
  | .error e => .error e

def value (fuel stage : Nat) (n : Node) : Graded Datum :=
  match fuel with
  | 0 => .error (stage, .malformed)
  | fuel + 1 =>
    let inner := stage + 1
    let graded {α : Type} : Except Fault α → Graded α := Except.mapError (stage, ·)
    let entriesOf (entries : List (Node × Node)) : Graded (List (Scalar × Datum)) :=
      match flatten entries with
      | .error fault => .error (inner, fault)
      | .ok (merged, own) =>
        gather ((merged ++ own).map fun (k, v) =>
          let key :=
            if k.makesCollection then .error (inner, .malformed)
            else match k with
              | scalar .default text => .ok (.text text)
              | k => keyOf (k.value fuel inner) inner
          both key (v.value fuel inner))
    match n with
    | scalar .sequence _ | scalar .mapping _ | scalar .set _ => .error (inner, .malformed)
    | scalar tag text => graded (Datum.scalar <$> tag.value text)
    | sequence .sequence items => Datum.list <$> gather (items.map fun item => item.value fuel inner)
    | sequence .mapping _ | sequence .set _ => .error (inner, .malformed)
    | sequence .. => .error (stage, .malformed)
    | mapping .mapping entries => do
      let entries ← entriesOf entries
      return .mapping (entries.foldl (fun before e => Datum.insert e.1 e.2 before) [])
    | mapping .set entries => do
      let entries ← entriesOf entries
      return .set ((entries.foldl (fun before e => Datum.insert e.1 e.2 before) []).map (·.1))
    | mapping .sequence _ => .error (inner, .malformed)
    | mapping tag _ =>
      match n.text? fuel with
      | some text => graded (Datum.scalar <$> tag.value text)
      | none => .error (stage, .malformed)

def datum (n : Node) : Except Fault Datum := (n.value (n.depth + 1) 0).mapError (·.2)

end Node

end Conformance.Yaml
