import Conformance.Proofs.Facts.Indexes

/-! Graphs in canonical form. Building sorts what it is given, so that a graph depends on its nodes
and dependencies and not on how they are listed. Where names are repeated the order of the nodes can
be seen in the graph, but not in what queries answer, for they all fail. -/
namespace Conformance

namespace Text

theorem sortPairs_congr {pairs others : List Pair} (h : ∀ p, p ∈ pairs ↔ p ∈ others) :
    sortPairs pairs = sortPairs others :=
  (pairwise_sortPairs pairs).eq_of_mem_iff (pairwise_sortPairs others) fun p => by
    rw [mem_sortPairs, mem_sortPairs, h]

end Text

namespace Facts

def Node.known (name : String) : Node := { external name with isExternal := false }

theorem mem_sortedPairs {pairs : List (String × String)} {p : String × String} :
    p ∈ sortedPairs pairs ↔ p ∈ pairs ∧ p.1 ≠ p.2 := by
  simp [sortedPairs, Text.mem_sortPairs]

theorem sortedPairs_congr {pairs others : List (String × String)}
    (h : ∀ p : String × String, p.1 ≠ p.2 → (p ∈ pairs ↔ p ∈ others)) :
    sortedPairs pairs = sortedPairs others := by
  apply Text.sortPairs_congr
  intro p
  simp only [List.mem_filter, bne_iff_ne]
  exact and_congr_left (h p)

theorem perm_sortedNodes (nodes : List Node) : (sortedNodes nodes).Perm nodes :=
  List.mergeSort_perm _ _

theorem name_le_trans (a b c : Node) :
    decide (a.name ≤ b.name) = true → decide (b.name ≤ c.name) = true →
      decide (a.name ≤ c.name) = true := by
  simp only [decide_eq_true_iff]
  exact String.le_trans

theorem name_le_total (a b : Node) :
    (decide (a.name ≤ b.name) || decide (b.name ≤ a.name)) = true := by
  simpa using String.le_total a.name b.name

theorem pairwise_sortedNodes (nodes : List Node) :
    (sortedNodes nodes).Pairwise fun a b => a.name ≤ b.name := by
  simpa [sortedNodes] using List.pairwise_mergeSort name_le_trans name_le_total nodes

theorem sortedNodes_eq_self {nodes : List Node} (h : nodes.Pairwise fun a b => a.name ≤ b.name) :
    sortedNodes nodes = nodes :=
  List.mergeSort_of_pairwise (h.imp fun hab => decide_eq_true hab)

theorem sortedNodes_congr {nodes others : List Node} (h : nodes.Perm others)
    (hnodup : (nodes.map (·.name)).Nodup) : sortedNodes nodes = sortedNodes others := by
  have hperm : (sortedNodes nodes).Perm (sortedNodes others) :=
    (perm_sortedNodes nodes).trans (h.trans (perm_sortedNodes others).symm)
  refine hperm.eq_of_pairwise (fun a b ha hb hab hba => ?_) (pairwise_sortedNodes nodes)
    (pairwise_sortedNodes others)
  apply List.inj_on_of_nodup_map hnodup
  · exact (perm_sortedNodes nodes).mem_iff.1 ha
  · exact h.mem_iff.2 ((perm_sortedNodes others).mem_iff.1 hb)
  · exact String.le_antisymm hab hba

namespace Graph

section
variable {nodes : List Node} {pairs : List (String × String)}

theorem perm_nodes_build : (build nodes pairs).nodes.Perm nodes := by
  rw [nodes_build]
  exact perm_sortedNodes nodes

theorem validate_build_iff :
    (build nodes pairs).validate = .ok () ↔ (nodes.map (·.name)).Nodup := by
  rw [(indexed_build nodes pairs).validate_eq_ok_iff]
  exact (perm_nodes_build.map (·.name)).nodup_iff

theorem increasing_nodes (h : (build nodes pairs).validate = .ok ()) :
    (build nodes pairs).nodes.Pairwise fun a b => a.name < b.name := by
  have hnodup := (indexed_build nodes pairs).validate_eq_ok_iff.1 h
  have hle : (build nodes pairs).nodes.Pairwise fun a b => a.name ≤ b.name := by
    rw [nodes_build]
    exact pairwise_sortedNodes nodes
  refine (hle.and (List.pairwise_map.1 hnodup)).imp fun hab => ?_
  apply String.not_le.1
  intro hba
  exact hab.2 (String.le_antisymm hab.1 hba)

theorem findNode?_eq_some {n : Node} (h : (nodes.map (·.name)).Nodup) (hn : n ∈ nodes) :
    findNode? nodes n.name = some n := by
  have hsome : (findNode? nodes n.name).isSome := by
    rw [findNode?, List.find?_isSome]
    exact ⟨n, hn, by simp⟩
  obtain ⟨m, hm⟩ := Option.isSome_iff_exists.1 hsome
  have hname : m.name = n.name := by simpa using List.find?_some hm
  have hmem : m ∈ nodes := List.mem_of_find?_eq_some hm
  rw [hm, List.inj_on_of_nodup_map h hmem hn hname]

theorem resolve_eq_self {n : Node} (h : (nodes.map (·.name)).Nodup) (hn : n ∈ nodes) :
    resolve nodes n.name = n := by
  rw [resolve, findNode?_eq_some h hn, Option.getD_some]

theorem mem_of_resolve_internal {name : String} (h : (resolve nodes name).isExternal = false) :
    resolve nodes name ∈ nodes := by
  unfold resolve at h ⊢
  cases hfind : findNode? nodes name with
  | none =>
    rw [hfind] at h
    contradiction
  | some n => exact List.mem_of_find?_eq_some hfind

theorem edge_of_build {e : Edge} (he : e ∈ (build nodes pairs).edges) :
    e.source = resolve (build nodes pairs).nodes e.source.name ∧
      e.target = resolve (build nodes pairs).nodes e.target.name := by
  rw [edges_build] at he
  obtain ⟨p, _, rfl⟩ := List.mem_map.1 he
  simp

theorem hasEdge_iff {a b : Node} (h : (build nodes pairs).validate = .ok ())
    (ha : a ∈ (build nodes pairs).nodes) (hb : b ∈ (build nodes pairs).nodes) :
    (build nodes pairs).hasEdge a.name b.name = true ↔ ⟨a, b⟩ ∈ (build nodes pairs).edges := by
  have hnodup := (indexed_build nodes pairs).validate_eq_ok_iff.1 h
  rw [(indexed_build nodes pairs).hasEdge_iff]
  constructor
  · rintro ⟨e, he, hnames⟩
    obtain ⟨hsource, htarget⟩ := Prod.mk.inj hnames
    obtain ⟨hs, ht⟩ := edge_of_build he
    rw [hsource, resolve_eq_self hnodup ha] at hs
    rw [htarget, resolve_eq_self hnodup hb] at ht
    rwa [← hs, ← ht]
  · intro he
    exact ⟨_, he, rfl⟩

end

theorem excluding_pure (g : Graph) (p : Node → Bool) :
    g.excluding (fun n => .ok (p n)) = .ok (build
      (g.nodes.filter fun n => !((g.nodes.filter p).map (·.name)).contains n.name)
      ((g.edges.map Edge.names).filter fun e =>
        !((g.nodes.filter p).map (·.name)).contains e.1)) := by
  rw [excluding, select_pure]
  rfl

/-- Graphs built from the same nodes, and from the same dependencies as far as they lead from one
name to another. -/
inductive SameFacts : Graph → Graph → Prop
  | build {nodes others : List Node} {pairs otherPairs : List (String × String)}
      (hnodes : nodes.Perm others)
      (hpairs : ∀ p : String × String, p.1 ≠ p.2 → (p ∈ pairs ↔ p ∈ otherPairs)) :
      SameFacts (build nodes pairs) (build others otherPairs)

namespace SameFacts

variable {g h : Graph}

theorem perm_nodes (hsame : SameFacts g h) : g.nodes.Perm h.nodes := by
  obtain ⟨hnodes, _⟩ := hsame
  exact perm_nodes_build.trans (hnodes.trans perm_nodes_build.symm)

theorem names_eq (hsame : SameFacts g h) : g.edges.map Edge.names = h.edges.map Edge.names := by
  obtain ⟨_, hpairs⟩ := hsame
  rw [map_names_edges_build, map_names_edges_build, sortedPairs_congr hpairs]

theorem indexed (hsame : SameFacts g h) : g.Indexed ∧ h.Indexed := by
  obtain ⟨_, _⟩ := hsame
  exact ⟨indexed_build _ _, indexed_build _ _⟩

theorem duplicates_eq (hsame : SameFacts g h) : g.duplicates = h.duplicates := by
  obtain ⟨hg, hh⟩ := hsame.indexed
  refine eq_of_increasing id hg.duplicates_increasing hh.duplicates_increasing fun name => ?_
  rw [hg.mem_duplicates_iff, hh.mem_duplicates_iff, (hsame.perm_nodes.map (·.name)).count_eq]

theorem excluding (hsame : SameFacts g h) (p : Node → Bool) :
    ∃ g' h', g.excluding (fun n => .ok (p n)) = .ok g' ∧
      h.excluding (fun n => .ok (p n)) = .ok h' ∧ SameFacts g' h' := by
  have hremoved : ∀ name, ((g.nodes.filter p).map (·.name)).contains name
      = ((h.nodes.filter p).map (·.name)).contains name := by
    intro name
    have hperm := (hsame.perm_nodes.filter p).map (·.name)
    rw [Bool.eq_iff_iff, List.contains_iff_mem, List.contains_iff_mem, hperm.mem_iff]
  refine ⟨_, _, excluding_pure g p, excluding_pure h p, .build ?_ ?_⟩
  · simp only [hremoved]
    exact hsame.perm_nodes.filter _
  · simp only [hremoved, hsame.names_eq, implies_true]

theorem eq (hsame : SameFacts g h) (hnodup : (g.nodes.map (·.name)).Nodup) : g = h := by
  obtain ⟨hnodes, hpairs⟩ := hsame
  have hnodup := (perm_nodes_build.map (·.name)).nodup_iff.1 hnodup
  rw [Graph.build, Graph.build, sortedNodes_congr hnodes hnodup, sortedPairs_congr hpairs]

end SameFacts

end Graph

end Facts

end Conformance
