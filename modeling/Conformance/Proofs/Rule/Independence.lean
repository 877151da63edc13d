import Conformance.Proofs.Rule.Selection
import Mathlib.Data.List.Induction

/-! Rules of independence. Nodes are grouped into units, and every pair of units is looked at; the
pairs that come out are those that an edge of the graph leads between. -/
namespace Conformance

open Facts

namespace Rule

/-! Units. -/

def unitName? (slices : Option String) (n : Node) : Option String :=
  match slices with
  | none => some n.name
  | some pattern => (Package.Pattern.ofString pattern).slice? n.package

/-- A node belongs to a unit of the name. -/
def Belongs (us : List DependencyUnit) (name : String) (n : Node) : Prop :=
  ∃ u ∈ us, u.name = name ∧ n ∈ u.members

/-- Units in order of their names, each of the nodes that have its name. -/
structure Grouped (name? : Node → Option String) (nodes : List Node) (us : List DependencyUnit) :
    Prop where
  increasing : us.Pairwise fun u v => u.name < v.name
  belongs_iff : ∀ name n, Belongs us name n ↔ n ∈ nodes ∧ name? n = some name

theorem belongs_cons {u : DependencyUnit} {us : List DependencyUnit} {name : String} {n : Node} :
    Belongs (u :: us) name n ↔ u.name = name ∧ n ∈ u.members ∨ Belongs us name n := by
  simp [Belongs]

theorem belongs_addToUnit {added name : String} {node n : Node} {us : List DependencyUnit} :
    Belongs (addToUnit added node us) name n ↔
      added = name ∧ n = node ∨ Belongs us name n := by
  induction us with
  | nil => simp [addToUnit, Belongs]
  | cons u rest ih =>
    rw [addToUnit]
    split
    · next heq =>
      simp only [belongs_cons, List.mem_append, List.mem_singleton, beq_iff_eq.1 heq]
      grind
    · split
      · simp only [belongs_cons, List.mem_singleton]
      · simp only [belongs_cons, ih, or_left_comm]

theorem name_of_mem_addToUnit {added : String} {node : Node} {us : List DependencyUnit}
    {u : DependencyUnit} (h : u ∈ addToUnit added node us) :
    u.name = added ∨ ∃ v ∈ us, v.name = u.name := by
  induction us with
  | nil => simp_all [addToUnit]
  | cons v rest ih =>
    rw [addToUnit] at h
    split at h
    · rcases List.mem_cons.1 h with rfl | h
      · exact .inr ⟨v, List.mem_cons_self, rfl⟩
      · exact .inr ⟨u, List.mem_cons_of_mem v h, rfl⟩
    · split at h
      · rcases List.mem_cons.1 h with rfl | h
        · exact .inl rfl
        · exact .inr ⟨u, h, rfl⟩
      · rcases List.mem_cons.1 h with rfl | h
        · exact .inr ⟨u, List.mem_cons_self, rfl⟩
        · rcases ih h with h | ⟨w, hw, heq⟩
          · exact .inl h
          · exact .inr ⟨w, List.mem_cons_of_mem v hw, heq⟩

theorem increasing_addToUnit {added : String} {node : Node} {us : List DependencyUnit}
    (h : us.Pairwise fun u v => u.name < v.name) :
    (addToUnit added node us).Pairwise fun u v => u.name < v.name := by
  induction us with
  | nil => simp [addToUnit]
  | cons u rest ih =>
    obtain ⟨hu, hrest⟩ := List.pairwise_cons.1 h
    rw [addToUnit]
    split
    · exact List.pairwise_cons.2 ⟨hu, hrest⟩
    · next hne =>
      split
      · next hlt =>
        refine List.pairwise_cons.2 ⟨fun v hv => ?_, h⟩
        rcases List.mem_cons.1 hv with rfl | hv
        · exact hlt
        · exact String.lt_trans hlt (hu v hv)
      · next hge =>
        have hgt : u.name < added := by
          apply String.not_le.1
          intro hle
          exact hne (beq_iff_eq.2 (String.le_antisymm hle (String.not_lt.1 hge)))
        refine List.pairwise_cons.2 ⟨fun v hv => ?_, ih hrest⟩
        rcases name_of_mem_addToUnit hv with heq | ⟨w, hw, heq⟩
        · exact heq ▸ hgt
        · exact heq ▸ hu w hw

theorem Grouped.snoc {name? : Node → Option String} {nodes : List Node} {us : List DependencyUnit}
    (h : Grouped name? nodes us) (n : Node) :
    Grouped name? (nodes ++ [n])
      (match name? n with
        | some name => addToUnit name n us
        | none => us) := by
  cases hname : name? n with
  | none =>
    refine ⟨h.increasing, fun name m => ?_⟩
    rw [h.belongs_iff, List.mem_append, List.mem_singleton]
    grind
  | some added =>
    refine ⟨increasing_addToUnit h.increasing, fun name m => ?_⟩
    rw [belongs_addToUnit, h.belongs_iff, List.mem_append, List.mem_singleton]
    grind

theorem grouped_slices (pattern : String) (nodes : List Node) :
    Grouped (unitName? (some pattern)) nodes (units (some pattern) nodes) := by
  induction nodes using List.reverseRecOn with
  | nil => exact ⟨.nil, by simp [Belongs, units]⟩
  | append_singleton nodes n ih =>
    have hsnoc := ih.snoc n
    simp only [units, List.foldl_append, List.foldl_cons, List.foldl_nil]
    exact hsnoc

theorem belongs_units_iff {slices : Option String} {nodes : List Node} {name : String} {n : Node} :
    Belongs (units slices nodes) name n ↔ n ∈ nodes ∧ unitName? slices n = some name := by
  cases slices with
  | none =>
    simp only [Belongs, units, unitName?, List.mem_map, Option.some.injEq]
    grind
  | some pattern => exact (grouped_slices pattern nodes).belongs_iff name n

theorem grouped_nodes {nodes : List Node} (h : nodes.Pairwise fun a b => a.name < b.name) :
    Grouped (unitName? none) nodes (units none nodes) :=
  ⟨List.pairwise_map.2 h, fun _ _ => belongs_units_iff⟩

theorem grouped_units {nodes : List Node} (h : nodes.Pairwise fun a b => a.name < b.name)
    (slices : Option String) : Grouped (unitName? slices) nodes (units slices nodes) := by
  cases slices with
  | none => exact grouped_nodes h
  | some pattern => exact grouped_slices pattern nodes

/-! Pairs of units. -/

section
variable {g : Graph} {us : List DependencyUnit}

theorem increasing_dependentPairs (h : us.Pairwise fun u v => u.name < v.name) :
    (dependentPairs g us).Pairwise (Text.pairLt · · = true) := by
  refine List.pairwise_flatMap.2 ⟨fun x _ => ?_, h.imp fun hxy => ?_⟩
  · refine List.pairwise_map.2 ((h.filter _).imp fun hyz => ?_)
    exact Text.pairLt_iff.2 (.inr ⟨rfl, hyz⟩)
  · intro p hp q hq
    obtain ⟨_, _, rfl⟩ := List.mem_map.1 hp
    obtain ⟨_, _, rfl⟩ := List.mem_map.1 hq
    exact Text.pairLt_iff.2 (.inl hxy)

theorem mem_dependentPairs {x y : String} :
    (x, y) ∈ dependentPairs g us ↔ x ≠ y ∧ ∃ a b, Belongs us x a ∧ Belongs us y b ∧
      g.hasEdge a.name b.name = true := by
  simp only [dependentPairs, DependencyUnit.dependsOn, Belongs, List.mem_flatMap, List.mem_map,
    List.mem_filter, Bool.and_eq_true, bne_iff_ne, List.any_eq_true, Prod.mk.injEq]
  grind

end

variable {r : Rule}

/-- The unit that a node counts towards: none for an external node, for one that the rule does not
select, and for one outside every slice. -/
def unit? (r : Rule) (n : Node) : Option String :=
  if !n.isExternal && r.selection.satisfiedBy (.node n) then unitName? r.slices n else none

/-- An edge of the graph leads from one unit of the rule to another. -/
def Crosses (r : Rule) (g : Graph) (x y : String) : Prop :=
  ∃ e ∈ g.edges, r.unit? e.source = some x ∧ r.unit? e.target = some y ∧ x ≠ y

def crossingMessage (r : Rule) (x y : String) : Except Template.Fault String :=
  Template.render (r.values (Edge.identifierOf x y) 0 (.int 0) x y) r.template

def selectedNodes (r : Rule) (g : Graph) : List Node :=
  g.nodes.filter fun n => !n.isExternal && r.selection.satisfiedBy (.node n)

theorem mem_selectedNodes {g : Graph} {n : Node} :
    n ∈ r.selectedNodes g ↔
      n ∈ g.nodes ∧ n.isExternal = false ∧ r.selection.satisfiedBy (.node n) = true := by
  simp [selectedNodes]

theorem unit?_eq_some_iff {n : Node} {name : String} :
    r.unit? n = some name ↔ n.isExternal = false ∧ r.selection.satisfiedBy (.node n) = true ∧
      unitName? r.slices n = some name := by
  unfold unit?
  cases n.isExternal <;> cases r.selection.satisfiedBy (.node n) <;> simp

theorem selected_of_nodes {g : Graph} (h : r.scope = .nodes) :
    r.selected g = (r.selectedNodes g).map fun n => ⟨n.name, .node n⟩ := by
  simp only [selected, h, candidates, List.filter_map, List.filter_filter, selectedNodes,
    Function.comp_def, Bool.and_comm]

theorem mapM_node? (part : String) (nodes : List Node) :
    (nodes.map fun n => (⟨n.name, .node n⟩ : Selected)).mapM (fun s => s.item.node? part)
      = .ok nodes := by
  induction nodes with
  | nil => rfl
  | cons n rest ih =>
    rw [List.map_cons, List.mapM_cons, ih]
    rfl

section
variable {nodes : List Node} {pairs : List (String × String)}

theorem increasing_selectedNodes (h : (Graph.build nodes pairs).validate = .ok ()) :
    (r.selectedNodes (Graph.build nodes pairs)).Pairwise fun a b => a.name < b.name :=
  (Graph.increasing_nodes h).filter _

theorem mem_dependentPairs_iff_crosses (h : (Graph.build nodes pairs).validate = .ok ())
    (x y : String) :
    (x, y) ∈ dependentPairs (Graph.build nodes pairs)
        (units r.slices (r.selectedNodes (Graph.build nodes pairs))) ↔
      r.Crosses (Graph.build nodes pairs) x y := by
  have hgrouped := grouped_units (increasing_selectedNodes (r := r) h) r.slices
  simp only [mem_dependentPairs, hgrouped.belongs_iff, mem_selectedNodes]
  constructor
  · rintro ⟨hne, a, b, ⟨⟨ha, hain, hasel⟩, haunit⟩, ⟨⟨hb, hbin, hbsel⟩, hbunit⟩, hedge⟩
    exact ⟨⟨a, b⟩, (Graph.hasEdge_iff h ha hb).1 hedge, unit?_eq_some_iff.2 ⟨hain, hasel, haunit⟩,
      unit?_eq_some_iff.2 ⟨hbin, hbsel, hbunit⟩, hne⟩
  · rintro ⟨e, he, hx, hy, hne⟩
    obtain ⟨hs, ht⟩ := Graph.edge_of_build he
    obtain ⟨hsin, hssel, hsunit⟩ := unit?_eq_some_iff.1 hx
    obtain ⟨htin, htsel, htunit⟩ := unit?_eq_some_iff.1 hy
    have hsmem : e.source ∈ (Graph.build nodes pairs).nodes := by
      rw [hs] at hsin ⊢
      exact Graph.mem_of_resolve_internal hsin
    have htmem : e.target ∈ (Graph.build nodes pairs).nodes := by
      rw [ht] at htin ⊢
      exact Graph.mem_of_resolve_internal htin
    exact ⟨hne, e.source, e.target, ⟨⟨hsmem, hsin, hssel⟩, hsunit⟩, ⟨⟨htmem, htin, htsel⟩, htunit⟩,
      (Graph.hasEdge_iff h hsmem htmem).2 he⟩

theorem evaluate_independent {g : Graph} (hvalidate : g.validate = .ok ())
    (hcheck : r.check = .ok ()) (hkind : r.kind = .independent)
    (hselection : r.selection.Answers ((candidates g r.scope).map Selected.item)) :
    r.evaluate g = (dependentPairs g (units r.slices (r.selectedNodes g))).mapM fun p =>
      r.violation (Edge.identifierOf p.1 p.2)
        (r.values (Edge.identifierOf p.1 p.2) 0 (.int 0) p.1 p.2) := by
  rw [evaluate, select_of_answers hvalidate hselection, hkind,
    selected_of_nodes (scope_of_check hcheck hkind)]
  change r.evaluateIndependent g _ = _
  rw [evaluateIndependent, mapM_node?]
  rfl

/-- The violations of a rule are one for every two units that an edge leads between, in increasing
order of their names. -/
def ReportsCrossings (r : Rule) (g : Graph) : Prop :=
  ∃ crossings : List (String × String), crossings.Pairwise (Text.pairLt · · = true) ∧
    (∀ x y, (x, y) ∈ crossings ↔ r.Crosses g x y) ∧
    ∃ violations, r.evaluate g = .ok violations ∧
      List.Forall₂ (fun p v => v.rule = r.name ∧ v.item = Edge.identifierOf p.1 p.2 ∧
        r.crossingMessage p.1 p.2 = .ok v.message) crossings violations

theorem independent_reports_crossings {nodes : List Node} {pairs : List (String × String)} {r : Rule}
    (hvalidate : (Graph.build nodes pairs).validate = .ok ()) (hcheck : r.check = .ok ())
    (hkind : r.kind = .independent)
    (hselection : r.selection.Answers
      ((candidates (Graph.build nodes pairs) r.scope).map Selected.item))
    (hmessage : ∀ x y, r.Crosses (Graph.build nodes pairs) x y →
      ∃ text, r.crossingMessage x y = .ok text) :
    r.ReportsCrossings (Graph.build nodes pairs) := by
  have hgrouped := grouped_units (increasing_selectedNodes (r := r) hvalidate) r.slices
  have hcrosses := mem_dependentPairs_iff_crosses (r := r) hvalidate
  refine ⟨_, increasing_dependentPairs hgrouped.increasing, hcrosses, ?_⟩
  rw [evaluate_independent hvalidate hcheck hkind hselection]
  apply exists_mapM_eq_ok
  rintro ⟨x, y⟩ hp
  obtain ⟨text, htext⟩ := hmessage x y ((hcrosses x y).1 hp)
  refine ⟨⟨r.name, Edge.identifierOf x y, text⟩, ?_, rfl, rfl, htext⟩
  rw [crossingMessage] at htext
  rw [violation, htext]

end

def apart : Rule := { plain "apart" .anything .independent with slices := some "app.(*).." }

def types : List Node := ["app.b.R", "app.a.P", "app.a.Q", "S"].map Node.known

def uses : List (String × String) :=
  [("app.a.Q", "app.b.R"), ("app.a.P", "app.b.R"), ("app.a.P", "app.a.Q"), ("app.b.R", "S"),
    ("app.b.R", "app.a.Z"), ("S", "app.a.P")]

theorem independent_reports_apart :
    (Graph.build types uses).validate = .ok () ∧ apart.check = .ok () ∧
      apart.kind = .independent ∧
      apart.selection.Answers ((candidates (Graph.build types uses) apart.scope).map Selected.item) ∧
      (∀ x y, apart.Crosses (Graph.build types uses) x y →
        ∃ text, apart.crossingMessage x y = .ok text) ∧
      apart.ReportsCrossings (Graph.build types uses) := by
  have hvalidate : (Graph.build types uses).validate = .ok () :=
    Graph.validate_build_iff.2 (by decide)
  have hcheck : apart.check = .ok () := by rfl
  have hselection : apart.selection.Answers
      ((candidates (Graph.build types uses) apart.scope).map Selected.item) :=
    Predicate.answers_anything _
  have hmessage : ∀ x y, apart.Crosses (Graph.build types uses) x y →
      ∃ text, apart.crossingMessage x y = .ok text :=
    fun _ _ _ => ⟨_, rfl⟩
  exact ⟨hvalidate, hcheck, rfl, hselection, hmessage,
    independent_reports_crossings hvalidate hcheck rfl hselection hmessage⟩

end Rule

end Conformance
