import Conformance.Proofs.Facts.Canonical
import Conformance.Proofs.Facts.Numbering

/-! What building a graph comes to. The form of a graph is fixed by the nodes and the dependencies
that it is built from; every query goes by the names in it, and fails where two nodes share one. -/
namespace Conformance.Facts

/-! Nodes. -/

/-- In order of the names, with the nodes of one name in the order given. -/
structure StablySorted (nodes sorted : List Node) : Prop where
  ordered : sorted.Pairwise fun a b => a.name ≤ b.name
  perm : sorted.Perm nodes
  stable : ∀ name, sorted.filter (·.name == name) = nodes.filter (·.name == name)

theorem stablySorted_sortedNodes (nodes : List Node) : StablySorted nodes (sortedNodes nodes) := by
  refine ⟨pairwise_sortedNodes nodes, perm_sortedNodes nodes, fun name => ?_⟩
  have hsorted : (nodes.filter (·.name == name)).Pairwise fun a b => decide (a.name ≤ b.name) := by
    apply List.pairwise_of_forall_mem_list
    intro a ha b hb
    simp only [List.mem_filter, beq_iff_eq] at ha hb
    simp [ha.2, hb.2]
  have hsub := (List.sublist_mergeSort name_le_trans name_le_total hsorted
    List.filter_sublist).filter (·.name == name)
  simp only [List.filter_filter, Bool.and_self] at hsub
  apply Eq.symm
  apply hsub.eq_of_length
  exact ((perm_sortedNodes nodes).filter _).length_eq.symm

theorem mem_of_filter_name {l l' : List Node}
    (h : ∀ name, l.filter (·.name == name) = l'.filter (·.name == name)) {n : Node} (hn : n ∈ l) :
    n ∈ l' := by
  have hmem : n ∈ l.filter (·.name == n.name) := List.mem_filter.2 ⟨hn, by simp⟩
  rw [h] at hmem
  exact (List.mem_filter.1 hmem).1

theorem eq_of_filter_name {l l' : List Node} (hl : l.Pairwise fun a b => a.name ≤ b.name)
    (hl' : l'.Pairwise fun a b => a.name ≤ b.name)
    (h : ∀ name, l.filter (·.name == name) = l'.filter (·.name == name)) : l = l' := by
  induction l generalizing l' with
  | nil =>
    apply Eq.symm
    rw [List.eq_nil_iff_forall_not_mem]
    intro n hn
    exact List.not_mem_nil (mem_of_filter_name (fun name => (h name).symm) hn)
  | cons n rest ih =>
    cases l' with
    | nil => exact absurd (mem_of_filter_name h (List.mem_cons_self)) List.not_mem_nil
    | cons m others =>
      obtain ⟨hn, hrest⟩ := List.pairwise_cons.1 hl
      obtain ⟨hm, hothers⟩ := List.pairwise_cons.1 hl'
      have hname : n.name = m.name := by
        apply String.le_antisymm
        · rcases List.mem_cons.1 (mem_of_filter_name (fun name => (h name).symm)
            List.mem_cons_self) with rfl | hmem
          · exact String.le_refl _
          · exact hn m hmem
        · rcases List.mem_cons.1 (mem_of_filter_name h List.mem_cons_self) with rfl | hmem
          · exact String.le_refl _
          · exact hm n hmem
      have hhead := h n.name
      simp only [List.filter_cons, beq_self_eq_true, ↓reduceIte, ← hname, List.cons.injEq] at hhead
      obtain ⟨rfl, _⟩ := hhead
      have htail : ∀ name, rest.filter (·.name == name) = others.filter (·.name == name) := by
        intro name
        have hfilter := h name
        simp only [List.filter_cons] at hfilter
        split at hfilter
        · exact List.tail_eq_of_cons_eq hfilter
        · exact hfilter
      rw [ih hrest hothers htail]

theorem StablySorted.eq {nodes sorted other : List Node} (h : StablySorted nodes sorted)
    (h' : StablySorted nodes other) : sorted = other :=
  eq_of_filter_name h.ordered h'.ordered fun name => (h.stable name).trans (h'.stable name).symm

theorem StablySorted.trans {nodes sorted other : List Node} (h : StablySorted nodes sorted)
    (h' : StablySorted sorted other) : StablySorted nodes other :=
  ⟨h'.ordered, h'.perm.trans h.perm, fun name => (h'.stable name).trans (h.stable name)⟩

theorem StablySorted.filter {nodes sorted : List Node} (h : StablySorted nodes sorted)
    (p : Node → Bool) : StablySorted (nodes.filter p) (sorted.filter p) := by
  refine ⟨h.ordered.filter p, h.perm.filter p, fun name => ?_⟩
  simp only [List.filter_filter, Bool.and_comm _ (p _)]
  rw [← List.filter_filter, ← List.filter_filter, h.stable]

/-! Graphs. -/

namespace Graph

/-- What a name stands for at an end of an edge: the first node of that name, or, where there is
none, an external one. -/
def IsEnd (nodes : List Node) (n : Node) : Prop :=
  (∃ before after, nodes = before ++ n :: after ∧ ∀ m ∈ before, m.name ≠ n.name) ∨
    (∀ m ∈ nodes, m.name ≠ n.name) ∧ n = .external n.name

theorem isEnd_iff {nodes : List Node} {n : Node} : IsEnd nodes n ↔ n = resolve nodes n.name := by
  unfold IsEnd resolve findNode?
  constructor
  · rintro (⟨before, after, hnodes, hbefore⟩ | ⟨hall, hn⟩)
    · have hfind : nodes.find? (·.name == n.name) = some n :=
        List.find?_eq_some_iff_append.2 ⟨by simp, before, after, hnodes, by simpa using hbefore⟩
      rw [hfind, Option.getD_some]
    · have hfind : nodes.find? (·.name == n.name) = none := by simpa using hall
      rw [hfind, Option.getD_none]
      exact hn
  · intro hn
    cases hfind : nodes.find? (·.name == n.name) with
    | none =>
      rw [hfind, Option.getD_none] at hn
      exact .inr ⟨by simpa using hfind, hn⟩
    | some m =>
      rw [hfind, Option.getD_some] at hn
      obtain ⟨_, before, after, hnodes, hbefore⟩ := List.find?_eq_some_iff_append.1 hfind
      exact .inl ⟨before, after, hn ▸ hnodes, by simpa using hbefore⟩

theorem IsEnd.eq {nodes : List Node} {m n : Node} (hm : IsEnd nodes m) (hn : IsEnd nodes n)
    (hname : m.name = n.name) : m = n := by
  rw [isEnd_iff.1 hm, isEnd_iff.1 hn, hname]

def ends (g : Graph) : List Node := g.edges.flatMap fun e => [e.source, e.target]

/-- The form of a graph of some nodes and of the dependencies between names. -/
structure Canonical (nodes : List Node) (pairs : List (String × String)) (g : Graph) : Prop where
  sorted : StablySorted nodes g.nodes
  increasing : (g.edges.map Edge.names).Pairwise (Text.pairLt · · = true)
  names_iff : ∀ p : String × String, p ∈ g.edges.map Edge.names ↔ p ∈ pairs ∧ p.1 ≠ p.2
  isEnd : ∀ n ∈ g.ends, IsEnd g.nodes n
  indexed : g.Indexed

section
variable {nodes : List Node} {pairs : List (String × String)} {g : Graph}

theorem canonical_of_build (nodes : List Node) (pairs : List (String × String)) :
    Canonical nodes pairs (build nodes pairs) where
  sorted := by
    rw [nodes_build]
    exact stablySorted_sortedNodes nodes
  increasing := by
    rw [map_names_edges_build]
    exact Text.pairwise_sortPairs _
  names_iff := by
    intro p
    rw [map_names_edges_build, mem_sortedPairs]
  isEnd := by
    intro n hn
    obtain ⟨e, he, hend⟩ := List.mem_flatMap.1 hn
    obtain ⟨hsource, htarget⟩ := edge_of_build he
    rcases List.mem_pair.1 hend with rfl | rfl
    · exact isEnd_iff.2 hsource
    · exact isEnd_iff.2 htarget
  indexed := indexed_build nodes pairs

theorem Canonical.edges_eq (h : Canonical nodes pairs g) :
    g.edges = (g.edges.map Edge.names).map fun p =>
      ⟨resolve g.nodes p.1, resolve g.nodes p.2⟩ := by
  rw [List.map_map]
  apply Eq.symm
  conv_rhs => rw [← List.map_id g.edges]
  apply List.map_congr_left
  intro e he
  have hsource := h.isEnd e.source (List.mem_flatMap.2 ⟨e, he, by simp⟩)
  have htarget := h.isEnd e.target (List.mem_flatMap.2 ⟨e, he, by simp⟩)
  change Edge.mk (resolve g.nodes e.source.name) (resolve g.nodes e.target.name) = e
  rw [← isEnd_iff.1 hsource, ← isEnd_iff.1 htarget]

/-- No other graph has the form of the one that is built. -/
theorem Canonical.eq_build (h : Canonical nodes pairs g) : g = build nodes pairs := by
  have hnodes : g.nodes = sortedNodes nodes := h.sorted.eq (stablySorted_sortedNodes nodes)
  have hnames : g.edges.map Edge.names = sortedPairs pairs := by
    apply h.increasing.eq_of_mem_iff (Text.pairwise_sortPairs _)
    intro p
    rw [h.names_iff]
    exact mem_sortedPairs.symm
  apply h.indexed.ext (indexed_build nodes pairs)
  · rw [nodes_build, hnodes]
  · rw [edges_build, h.edges_eq, hnames, hnodes]

theorem Canonical.self (h : Canonical nodes pairs g) :
    Canonical g.nodes (g.edges.map Edge.names) g where
  sorted := ⟨h.sorted.ordered, .refl _, fun _ => rfl⟩
  increasing := h.increasing
  names_iff := by
    intro p
    have hne : p ∈ g.edges.map Edge.names → p.1 ≠ p.2 := fun hp => ((h.names_iff p).1 hp).2
    exact ⟨fun hp => ⟨hp, hne hp⟩, fun hp => hp.1⟩
  isEnd := h.isEnd
  indexed := h.indexed

/-- No node that satisfies a test has the name. -/
def spares (p : Node → Bool) (nodes : List Node) (name : String) : Bool :=
  nodes.all fun n => !(p n && n.name == name)

theorem Canonical.excluding (h : Canonical nodes pairs g) (p : Node → Bool) :
    ∃ rest, g.excluding (fun n => .ok (p n)) = .ok rest ∧
      Canonical (nodes.filter fun n => spares p nodes n.name)
        (pairs.filter fun e => spares p nodes e.1) rest := by
  have hspares : ∀ name, (!((g.nodes.filter p).map (·.name)).contains name)
      = spares p nodes name := by
    intro name
    rw [Bool.eq_iff_iff]
    simp only [spares, Bool.not_eq_true', List.contains_eq_mem, decide_eq_false_iff_not,
      List.mem_map, List.mem_filter, h.sorted.perm.mem_iff, List.all_eq_true, Bool.and_eq_false_imp,
      beq_eq_false_iff_ne]
    grind
  refine ⟨_, excluding_pure g p, ?_⟩
  simp only [hspares]
  have hbuild := canonical_of_build (g.nodes.filter fun n => spares p nodes n.name)
    ((g.edges.map Edge.names).filter fun e => spares p nodes e.1)
  refine ⟨(h.sorted.filter _).trans hbuild.sorted, hbuild.increasing, fun e => ?_, hbuild.isEnd,
    hbuild.indexed⟩
  rw [hbuild.names_iff, List.mem_filter, List.mem_filter, h.names_iff]
  tauto

end

/-! Queries. -/

/-- What a graph is asked, with tests that answer. -/
inductive IsQuery (g : Graph) : {α : Type} → Except Failure α → Prop
  | validate : IsQuery g g.validate
  | node (name : String) : IsQuery g (g.node? name)
  | nodes (p : Node → Bool) : IsQuery g (g.nodesWhere fun n => .ok (p n))
  | edges (p : Edge → Bool) : IsQuery g (g.edgesWhere fun e => .ok (p e))
  | methods (p : MethodRef → Bool) : IsQuery g (g.methodsWhere fun m => .ok (p m))
  | field (n : Node) (name : String) : IsQuery g (g.fieldOf? n name)
  | dependency (source target : String) : IsQuery g (g.dependsOn source target)

/-- Every query answers once the names are found to be different. -/
theorem IsQuery.eq_map {g : Graph} {α : Type} {query : Except Failure α} (h : IsQuery g query) :
    ∃ a, query = g.validate.map fun _ => a := by
  cases h with
  | validate => exact ⟨(), by cases g.validate <;> rfl⟩
  | node name => exact ⟨g.byName.find? name, rfl⟩
  | nodes p =>
    rw [nodesWhere, select_pure]
    exact ⟨_, rfl⟩
  | edges p =>
    rw [edgesWhere, select_pure]
    exact ⟨_, rfl⟩
  | methods p =>
    rw [methodsWhere_eq, select_pure]
    exact ⟨_, rfl⟩
  | field n name => exact ⟨n.fields.find? (·.name == name), rfl⟩
  | dependency source target => exact ⟨g.hasEdge source target, rfl⟩

/-- What queries tell of a graph of some nodes. -/
structure Queried (nodes : List Node) (g : Graph) : Prop where
  fails_iff : ∀ {α : Type} {query : Except Failure α}, IsQuery g query →
    ((∃ failure, query = .error failure ∧ failure.kind = .graphQuery) ↔
      ¬ (nodes.map (·.name)).Nodup)
  dependsOn : (nodes.map (·.name)).Nodup → ∀ source target, ∃ answer,
    g.dependsOn source target = .ok answer ∧
      (answer = true ↔ ∃ e ∈ g.edges, e.names = (source, target))
  node? : (nodes.map (·.name)).Nodup → ∀ name, ∃ found, g.node? name = .ok found ∧
    ∀ n, found = some n ↔ n ∈ g.nodes ∧ n.name = name

theorem Canonical.queried {nodes : List Node} {pairs : List (String × String)} {g : Graph}
    (h : Canonical nodes pairs g) : Queried nodes g := by
  have hnames : (g.nodes.map (·.name)).Nodup ↔ (nodes.map (·.name)).Nodup :=
    (h.sorted.perm.map (·.name)).nodup_iff
  refine ⟨fun hquery => ?_, fun hnodup source target => ?_, fun hnodup name => ?_⟩
  · obtain ⟨a, rfl⟩ := hquery.eq_map
    rw [← hnames, ← h.indexed.duplicates_eq_nil_iff]
    by_cases hdup : g.duplicates = []
    · rw [validate_eq_ok hdup]
      simp [hdup, Except.map]
    · rw [validate_of_duplicates hdup]
      simp [hdup, Except.map, Failure.kind]
  · have hvalidate := h.indexed.validate_eq_ok_iff.2 (hnames.2 hnodup)
    refine ⟨g.hasEdge source target, ?_, h.indexed.hasEdge_iff⟩
    rw [Graph.dependsOn, hvalidate]
    rfl
  · have hvalidate := h.indexed.validate_eq_ok_iff.2 (hnames.2 hnodup)
    refine ⟨g.byName.find? name, ?_, fun n => ?_⟩
    · rw [Graph.node?, hvalidate]
      rfl
    · rw [h.indexed.find?_byName]
      constructor
      · intro hfind
        exact ⟨List.mem_of_find?_eq_some hfind, by simpa using List.find?_some hfind⟩
      · rintro ⟨hn, rfl⟩
        exact findNode?_eq_some (hnames.2 hnodup) hn

/-- Building brings nodes and dependencies into their form, with indexes that agree with them, and a
second time changes nothing; what is left without some nodes has the form of what is left of the
nodes and dependencies, and answers queries by that. -/
theorem build_canonical (nodes : List Node) (pairs : List (String × String)) :
    Canonical nodes pairs (build nodes pairs) ∧
      (∀ m ∈ (build nodes pairs).ends, ∀ n ∈ (build nodes pairs).ends, m.name = n.name → m = n) ∧
      Queried nodes (build nodes pairs) ∧
      build (build nodes pairs).nodes ((build nodes pairs).edges.map Edge.names)
        = build nodes pairs ∧
      ∀ p : Node → Bool, ∃ rest, (build nodes pairs).excluding (fun n => .ok (p n)) = .ok rest ∧
        Canonical (nodes.filter fun n => spares p nodes n.name)
          (pairs.filter fun e => spares p nodes e.1) rest ∧
        Queried (nodes.filter fun n => spares p nodes n.name) rest := by
  have hform := canonical_of_build nodes pairs
  refine ⟨hform, fun m hm n hn => ?_, hform.queried, hform.self.eq_build.symm, fun p => ?_⟩
  · exact (hform.isEnd m hm).eq (hform.isEnd n hn)
  · obtain ⟨rest, hrest, hleft⟩ := hform.excluding p
    exact ⟨rest, hrest, hleft, hleft.queried⟩

end Graph

end Conformance.Facts
