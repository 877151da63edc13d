import Conformance.Proofs.Facts.Building
import Conformance.Proofs.Facts.Identifiers

/-! What is left of a graph without some of its nodes. The other nodes, their methods and the edges
from them stay in their order; an edge into a node that went leads to an external one of the same
name. -/
namespace Conformance.Facts.Graph

def isRemoved (g : Graph) (p : Node → Bool) (n : Node) : Bool := g.nodes.contains n && p n

/-- What becomes of an edge in what is left of a graph. -/
def relink (rest : Graph) (e : Edge) : Edge :=
  ⟨resolve rest.nodes e.source.name, resolve rest.nodes e.target.name⟩

theorem names_relink (rest : Graph) (e : Edge) : (rest.relink e).names = e.names := by
  simp [relink, Edge.names]

variable {p : Node → Bool} {name : String}

section
variable {all : List Node}

theorem spares_eq_true_iff : spares p all name = true ↔ ∀ n ∈ all, p n = true → n.name ≠ name := by
  simp only [spares, List.all_eq_true, Bool.not_eq_true', Bool.and_eq_false_imp,
    beq_eq_false_iff_ne]

theorem resolve_filter_of_spares (h : spares p all name = true) :
    resolve (all.filter fun n => spares p all n.name) name = resolve all name := by
  have hfind : (fun n : Node => decide (spares p all n.name = true ∧ (n.name == name) = true))
      = fun n => n.name == name := by
    funext n
    by_cases hname : n.name = name
    · simp [hname, h]
    · simp [hname]
  rw [resolve, resolve, findNode?, findNode?, List.find?_filter, hfind]

theorem resolve_filter_of_not_spares (h : spares p all name = false) :
    resolve (all.filter fun n => spares p all n.name) name = .external name := by
  have hnone : findNode? (all.filter fun n => spares p all n.name) name = none := by
    rw [findNode?, List.find?_eq_none]
    intro n hn hname
    have hspares := (List.mem_filter.1 hn).2
    rw [beq_iff_eq.1 hname, h] at hspares
    contradiction
  rw [resolve, hnone, Option.getD_none]

end

variable {g : Graph} {nodes : List Node} {pairs : List (String × String)}

theorem spares_eq_not_isRemoved (hnodup : (g.nodes.map (·.name)).Nodup) {n : Node}
    (hn : IsEnd g.nodes n) : spares p g.nodes n.name = !g.isRemoved p n := by
  rw [Bool.eq_iff_iff, spares_eq_true_iff]
  simp only [isRemoved, Bool.not_eq_true', Bool.and_eq_false_imp, List.contains_iff_mem]
  constructor
  · intro h hmem
    by_contra hp
    exact h n hmem (by simpa using hp) rfl
  · intro h m hm hp hname
    have heq : n = m := by
      rw [isEnd_iff.1 hn, ← hname, resolve_eq_self hnodup hm]
    rw [heq] at h
    simp [h hm] at hp

theorem isEnd_of_mem (hnodup : (g.nodes.map (·.name)).Nodup) {n : Node} (hn : n ∈ g.nodes) :
    IsEnd g.nodes n := isEnd_iff.2 (resolve_eq_self hnodup hn).symm

section
variable {rest : Graph} (hnodup : (g.nodes.map (·.name)).Nodup)
  (hnodes : rest.nodes = g.nodes.filter fun n => spares p g.nodes n.name)

include hnodup hnodes

theorem resolve_rest {n : Node} (hn : IsEnd g.nodes n) :
    resolve rest.nodes n.name = if g.isRemoved p n then .external n.name else n := by
  have hspares := spares_eq_not_isRemoved (p := p) hnodup hn
  rw [hnodes]
  cases hremoved : g.isRemoved p n with
  | false =>
    rw [hremoved] at hspares
    rw [resolve_filter_of_spares hspares, ← isEnd_iff.1 hn]
    rfl
  | true =>
    rw [hremoved] at hspares
    exact resolve_filter_of_not_spares hspares

end

theorem methods_rest {rest : Graph} (hnodes : rest.nodes = g.nodes.filter fun n => !g.isRemoved p n) :
    rest.methods = g.methods.filter fun m => !g.isRemoved p m.owner := by
  have howner : ∀ n : Node, (methodRefs n [] n.methods).filter (fun m => !g.isRemoved p m.owner)
      = if g.isRemoved p n then [] else methodRefs n [] n.methods := by
    intro n
    have hfilter : (methodRefs n [] n.methods).filter (fun m => !g.isRemoved p m.owner)
        = (methodRefs n [] n.methods).filter fun _ => !g.isRemoved p n :=
      List.filter_congr fun m hm => by rw [(of_mem_methodRefs hm).1]
    rw [hfilter]
    cases g.isRemoved p n <;> simp
  rw [methods, methods, hnodes, List.filter_flatMap]
  induction g.nodes with
  | nil => rfl
  | cons n others ih =>
    rw [List.filter_cons, List.flatMap_cons, howner, ← ih]
    cases g.isRemoved p n <;> rfl

theorem exists_excluding (hform : Canonical nodes pairs g)
    (hnodup : (g.nodes.map (·.name)).Nodup) (p : Node → Bool) :
    ∃ rest, g.excluding (fun n => .ok (p n)) = .ok rest ∧ rest.validate = .ok () ∧
      rest.nodes = g.nodes.filter (fun n => spares p g.nodes n.name) ∧
      rest.nodes = g.nodes.filter (fun n => !g.isRemoved p n) ∧
      rest.edges = (g.edges.filter fun e => !g.isRemoved p e.source).map rest.relink := by
  obtain ⟨rest, hrest, hleft⟩ := hform.self.excluding p
  have hnodes : rest.nodes = g.nodes.filter fun n => spares p g.nodes n.name := by
    exact hleft.sorted.eq (hform.self.sorted.filter _)
  have hnames : rest.edges.map Edge.names
      = (g.edges.filter fun e => !g.isRemoved p e.source).map Edge.names := by
    have hfilter : (g.edges.map Edge.names).filter (fun e => spares p g.nodes e.1)
        = (g.edges.filter fun e => !g.isRemoved p e.source).map Edge.names := by
      rw [List.filter_map]
      apply congrArg (List.map Edge.names)
      apply List.filter_congr
      intro e he
      exact spares_eq_not_isRemoved hnodup (hform.isEnd _ (List.mem_flatMap.2 ⟨e, he, by simp⟩))
    rw [← hfilter]
    apply hleft.increasing.eq_of_mem_iff (hform.increasing.filter _)
    intro e
    rw [hleft.names_iff, and_iff_left_iff_imp]
    intro he
    exact ((hform.names_iff e).1 (List.mem_filter.1 he).1).2
  refine ⟨rest, hrest, ?_, hnodes, ?_, ?_⟩
  · rw [hleft.indexed.validate_eq_ok_iff, hnodes]
    exact hnodup.sublist (List.filter_sublist.map _)
  · rw [hnodes]
    apply List.filter_congr
    intro n hn
    exact spares_eq_not_isRemoved hnodup (isEnd_of_mem hnodup hn)
  · rw [hleft.edges_eq, hnames, List.map_map]
    rfl

end Conformance.Facts.Graph
