import Conformance.Baseline.Fault
import Conformance.Text.Pair

/-! Baselines: the violations that were accepted when a rule was frozen, and what every store of
them offers. -/
namespace Conformance.Baseline

structure Signature where
  rule : String
  item : String
  message : String
  deriving DecidableEq, Repr, Inhabited

/-- The accepted violations of one rule as items with their messages, each pair once. -/
structure Entries where
  pairs : List Text.Pair
  increasing : pairs.Pairwise (Text.pairLt · · = true)
  deriving DecidableEq

namespace Entries

def empty : Entries := ⟨[], .nil⟩

instance : Inhabited Entries := ⟨empty⟩

def ofPairs (pairs : List Text.Pair) : Entries := ⟨Text.sortPairs pairs, Text.pairwise_sortPairs pairs⟩

theorem mem_ofPairs {pairs : List Text.Pair} {a : Text.Pair} : a ∈ (ofPairs pairs).pairs ↔ a ∈ pairs :=
  Text.mem_sortPairs

/-- The entries that some signatures of a rule stand for. A signature of another rule is refused. -/
def ofSignatures (rule : String) (signatures : List Signature) : Except Fault Entries :=
  match signatures.find? fun s => s.rule != rule with
  | some s => .error (.foreignSignature rule s.rule)
  | none => .ok (ofPairs (signatures.map fun s => (s.item, s.message)))

def accepts (rule : String) (e : Entries) (s : Signature) : Bool :=
  s.rule == rule && e.pairs.contains (s.item, s.message)

def signatures (rule : String) (e : Entries) : List Signature :=
  e.pairs.map fun p => ⟨rule, p.1, p.2⟩

end Entries

/-- What a store of baselines offers. No baseline differs from an empty one. -/
class Store (σ : Type) where
  prepare : σ → Except Fault Unit × σ
  release : σ → σ
  load : σ → String → Except Fault (Option Entries)
  /-- Replaces the baseline of a rule, or fails and keeps the one before. -/
  store : σ → String → List Signature → Except Fault Unit × σ

end Conformance.Baseline
