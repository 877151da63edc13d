import Mathlib.Data.Set.Function
import Conformance.Baseline.Memory
import Conformance.Proofs.Baseline.Entries

/-! Stores in working order. Whatever a store is made of, it keeps one baseline for each name in
use: a load gives what is kept, and a store changes what is kept under its own name and nothing
else. Memory, files under different names and an open database all work like that. -/
namespace Conformance.Baseline

/-- How a store keeps the baselines of the names in use. A sound store has nothing that stands in
its way, and a ready one can be read and written. -/
structure Keeping (σ : Type) [Store σ] (names : Set String) where
  Sound : σ → Prop
  Ready : σ → Prop
  kept : σ → String → Option Entries
  sound_of_ready : ∀ {s : σ}, Ready s → Sound s
  prepare_eq : ∀ {s : σ}, Sound s →
    ∃ t, Store.prepare s = (.ok (), t) ∧ Ready t ∧ ∀ n ∈ names, kept t n = kept s n
  sound_release : ∀ {s : σ}, Sound s → Sound (Store.release s)
  kept_release : ∀ {s : σ}, Sound s → ∀ n ∈ names, kept (Store.release s) n = kept s n
  load_eq : ∀ {s : σ} {n}, Ready s → n ∈ names → Store.load s n = .ok (kept s n)
  store_eq_ok : ∀ {s : σ} {n signatures e}, Ready s → n ∈ names →
    Entries.ofSignatures n signatures = .ok e → ∃ t, Store.store s n signatures = (.ok (), t) ∧
      Ready t ∧ ∀ m ∈ names, kept t m = if m = n then some e else kept s m
  store_eq_error : ∀ {s : σ} {n signatures fault},
    Entries.ofSignatures n signatures = .error fault →
    Store.store s n signatures = (.error fault, s)

section
variable {σ : Type} [Store σ]

def loaded (s : σ) (n : String) : Except Fault (Option (Finset Signature)) :=
  (Store.load s n).map (·.map (·.signatureSet n))

variable {names : Set String} (k : Keeping σ names)

def Keeping.baseline (s : σ) (n : String) : Option (Finset Signature) :=
  (k.kept s n).map (·.signatureSet n)

theorem Keeping.loaded_eq {s : σ} (hs : k.Ready s) {n : String} (hn : n ∈ names) :
    loaded s n = .ok (k.baseline s n) := by
  rw [loaded, k.load_eq hs hn]
  rfl

end

/-! Memory keeps its baselines by name. -/

theorem Memory.store_eq_ok (m : Memory) {rule : String} {signatures : List Signature}
    {e : Entries} (h : Entries.ofSignatures rule signatures = .ok e) :
    m.store rule signatures = (.ok (), ⟨m.kept.put rule e⟩) := by
  rw [Memory.store, h]

theorem Memory.store_eq_error (m : Memory) {rule : String} {signatures : List Signature}
    {fault : Fault} (h : Entries.ofSignatures rule signatures = .error fault) :
    m.store rule signatures = (.error fault, m) := by
  rw [Memory.store, h]

def Memory.keeping (names : Set String) : Keeping Memory names where
  Sound _ := True
  Ready _ := True
  kept m n := m.kept.find? n
  sound_of_ready _ := trivial
  prepare_eq {m} _ := ⟨m, rfl, trivial, fun _ _ => rfl⟩
  sound_release _ := trivial
  kept_release _ _ _ := rfl
  load_eq _ _ := rfl
  store_eq_ok {m n signatures e} _ _ h := by
    refine ⟨_, m.store_eq_ok h, trivial, fun k _ => ?_⟩
    by_cases hk : k = n
    · rw [hk, if_pos rfl]
      exact Named.find?_put_self n e m.kept
    · rw [if_neg hk]
      exact Named.find?_put_of_ne hk e m.kept
  store_eq_error {m _ _ _} h := m.store_eq_error h

end Conformance.Baseline
