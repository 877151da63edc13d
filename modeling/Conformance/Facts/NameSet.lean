/-! Finite sets of names, kept as strictly increasing lists. -/
namespace Conformance.Facts

def placeName (x : String) : List String → List String
  | [] => [x]
  | y :: rest => if x < y then x :: y :: rest else if y < x then y :: placeName x rest else y :: rest

theorem mem_placeName {x a : String} {l : List String} : a ∈ placeName x l ↔ a = x ∨ a ∈ l := by
  induction l with
  | nil => simp [placeName]
  | cons y rest ih =>
    simp only [placeName]
    split
    · simp
    · split
      · simp only [List.mem_cons, ih]
        exact or_left_comm
      · next h₁ h₂ =>
        have : x = y := String.le_antisymm (String.not_lt.1 h₂) (String.not_lt.1 h₁)
        simp [this]

theorem pairwise_placeName {x : String} {l : List String} (h : l.Pairwise (· < ·)) :
    (placeName x l).Pairwise (· < ·) := by
  induction l with
  | nil => simp [placeName]
  | cons y rest ih =>
    obtain ⟨hy, hrest⟩ := List.pairwise_cons.1 h
    simp only [placeName]
    split
    · next hx =>
      refine List.pairwise_cons.2 ⟨fun a ha => ?_, h⟩
      rcases List.mem_cons.1 ha with rfl | ha
      · exact hx
      · exact String.lt_trans hx (hy a ha)
    · split
      · next hyx =>
        refine List.pairwise_cons.2 ⟨fun a ha => ?_, ih hrest⟩
        rcases mem_placeName.1 ha with rfl | ha
        · exact hyx
        · exact hy a ha
      · exact h

structure NameSet where
  names : List String
  increasing : names.Pairwise (· < ·)
  deriving DecidableEq

namespace NameSet

def empty : NameSet := ⟨[], .nil⟩

instance : Inhabited NameSet := ⟨empty⟩

def insert (s : NameSet) (x : String) : NameSet := ⟨placeName x s.names, pairwise_placeName s.increasing⟩

def ofList (xs : List String) : NameSet := xs.foldl insert empty

instance : Membership String NameSet := ⟨fun s x => x ∈ s.names⟩

instance (x : String) (s : NameSet) : Decidable (x ∈ s) :=
  inferInstanceAs (Decidable (x ∈ s.names))

theorem mem_insert {s : NameSet} {x a : String} : a ∈ s.insert x ↔ a = x ∨ a ∈ s := mem_placeName

theorem mem_foldl_insert {xs : List String} {s : NameSet} {a : String} :
    a ∈ xs.foldl insert s ↔ a ∈ xs ∨ a ∈ s := by
  induction xs generalizing s with
  | nil => simp
  | cons x rest ih =>
    rw [List.foldl_cons, ih, mem_insert, List.mem_cons]
    exact ⟨fun h => by rcases h with h | h | h <;> simp_all,
      fun h => by rcases h with (h | h) | h <;> simp_all⟩

theorem mem_ofList {xs : List String} {a : String} : a ∈ ofList xs ↔ a ∈ xs := by
  rw [ofList, mem_foldl_insert]
  exact ⟨fun h => h.elim id fun h => absurd h List.not_mem_nil, .inl⟩

end NameSet

end Conformance.Facts
