import Conformance.Baseline.Basic
import Conformance.Named

/-! Baselines that last as long as the program runs. -/
namespace Conformance.Baseline

structure Memory where
  kept : Named Entries
  deriving DecidableEq, Inhabited

namespace Memory

def empty : Memory := ⟨[]⟩

def store (m : Memory) (rule : String) (signatures : List Signature) :
    Except Fault Unit × Memory :=
  match Entries.ofSignatures rule signatures with
  | .ok entries => (.ok (), ⟨m.kept.put rule entries⟩)
  | .error fault => (.error fault, m)

instance : Store Memory where
  prepare m := (.ok (), m)
  release m := m
  load m rule := .ok (m.kept.find? rule)
  store := store

end Memory

end Conformance.Baseline
