import Conformance.Proofs.Rule.Distinct
import Conformance.Proofs.Rule.Exclusion

/-! Rules over nodes, methods and pairs of nodes on what is left of a graph. What a rule finds there
is what it found before, as far as it is about nodes that stay. -/
namespace Conformance

open Facts

namespace Item

def identifier : Item → String
  | node n => n.name
  | edge e => e.identifier
  | method m => m.identifier

/-- The nodes that an item is about: the node itself, the ends of an edge, the owner of a method. -/
def nodes : Item → List Node
  | node n => [n]
  | edge e => [e.source, e.target]
  | method m => [m.owner]

def stays (g : Graph) (p : Node → Bool) (x : Item) : Bool := x.nodes.all fun n => !g.isRemoved p n

@[simp] theorem stays_node (g : Graph) (p : Node → Bool) (n : Node) :
    (node n).stays g p = !g.isRemoved p n := by
  simp [stays, nodes]

@[simp] theorem stays_edge (g : Graph) (p : Node → Bool) (e : Edge) :
    (edge e).stays g p = (!g.isRemoved p e.source && !g.isRemoved p e.target) := by
  simp [stays, nodes]

@[simp] theorem stays_method (g : Graph) (p : Node → Bool) (m : MethodRef) :
    (method m).stays g p = !g.isRemoved p m.owner := by
  simp [stays, nodes]

def candidate (x : Item) : Rule.Selected := ⟨x.identifier, x⟩

theorem candidate_injective : candidate.Injective := fun _ _ h => (Rule.Selected.mk.inj h).2

end Item

namespace Rule

/-- What the violations of a rule can be about, in graph order. Two nodes of which one depends on the
other are an edge. -/
def subjects (r : Rule) (g : Graph) : List Item :=
  match r.kind with
  | .all | .none => (candidates g r.scope).map Selected.item
  | .independent => g.edges.map .edge
  | .count => []

/-- The rule has fault to find with an item. -/
def FindsFault (r : Rule) (x : Item) : Prop :=
  match r.kind with
  | .all | .none => r.selection.test x = .ok true ∧
      ∃ condition, r.condition = some condition ∧ condition.test x = .ok (r.kind != .all)
  | .independent => ∀ n ∈ x.nodes, n.isExternal = false ∧ r.selection.test (.node n) = .ok true
  | .count => False

/-- The violations of a rule in a graph, each with what it is about: one for every subject that the
rule has fault to find with, in graph order. -/
structure Traces (r : Rule) (g : Graph) (found : List (Item × Violation)) : Prop where
  ordered : (found.map (·.1)).Sublist (r.subjects g)
  mem_iff : ∀ x, x ∈ found.map (·.1) ↔ x ∈ r.subjects g ∧ r.FindsFault x
  report : ∀ x ∈ found, r.report x.1.candidate = .ok x.2
  evaluate : r.evaluate g = .ok (found.map (·.2))

/-- The violations of a rule on what is left of a graph are those about what stays. -/
def Restricts (r : Rule) (g rest : Graph) (p : Node → Bool) (violations : List Violation) : Prop :=
  ∃ found, r.Traces g found ∧ found.map (·.2) = violations ∧
    r.evaluate rest = .ok ((found.filter fun x => x.1.stays g p).map (·.2))

variable {r : Rule} {g rest : Graph} {p : Node → Bool} {violations : List Violation}

/-! Rules that demand something of each item. -/

theorem candidates_eq (g : Graph) (scope : Scope) :
    candidates g scope = ((candidates g scope).map Selected.item).map Item.candidate := by
  cases scope <;> simp [candidates, Item.candidate, Item.identifier]

theorem candidates_rest (hnodes : rest.nodes = g.nodes.filter fun n => !g.isRemoved p n)
    {scope : Scope} (hscope : scope = .nodes ∨ scope = .methods) :
    candidates rest scope = (candidates g scope).filter fun s => s.item.stays g p := by
  rcases hscope with rfl | rfl
  · simp only [candidates, hnodes, List.filter_map, List.filter_filter, Function.comp_def,
      Item.stays_node, Bool.and_comm]
  · simp only [candidates, Graph.methods_rest hnodes, List.filter_map, Function.comp_def,
      Item.stays_method]

section
variable {condition : Predicate} (hvalidate : g.validate = .ok ())
  (hkind : r.kind = .all ∨ r.kind = .none) (hcondition : r.condition = some condition)

include hvalidate hkind hcondition

theorem exists_traces_of_each (h : r.evaluate g = .ok violations) :
    ∃ found, r.Traces g found ∧ found.map (·.2) = violations ∧
      Judged r condition (r.kind == .all) (candidates g r.scope)
        (found.map fun x => (x.1.candidate, x.2)) := by
  have hsubjects : r.subjects g = (candidates g r.scope).map Selected.item := by
    rcases hkind with hkind | hkind <;> simp only [subjects, hkind]
  have hfault : ∀ x, r.FindsFault x ↔ r.selection.test x = .ok true ∧
      condition.test x = .ok (!(r.kind == .all)) := by
    intro x
    rcases hkind with hkind | hkind <;> simp [FindsFault, hkind, hcondition, bne]
  obtain ⟨_, hjudged, rfl⟩ := (evaluate_eq_ok_iff_judged hvalidate hkind hcondition).1 h
  have hitems := hjudged
  rw [candidates_eq] at hitems
  obtain ⟨found, rfl, hsub, hmem, hreport⟩ := hitems.exists_marked Item.candidate_injective
  have hviolations : (found.map fun x => (x.1.candidate, x.2)).map (·.2) = found.map (·.2) := by
    rw [List.map_map]
    rfl
  refine ⟨found, ⟨hsubjects ▸ hsub, fun x => ?_, hreport, hviolations ▸ h⟩, hviolations.symm,
    hjudged⟩
  rw [hmem, hsubjects, hfault]
  rfl

theorem restricts_of_each (hscope : r.scope = .nodes ∨ r.scope = .methods)
    (hvalidateRest : rest.validate = .ok ())
    (hnodes : rest.nodes = g.nodes.filter fun n => !g.isRemoved p n)
    (h : r.evaluate g = .ok violations) : r.Restricts g rest p violations := by
  obtain ⟨found, htraces, hmap, hjudged⟩ := exists_traces_of_each hvalidate hkind hcondition h
  refine ⟨found, htraces, hmap, ?_⟩
  have hkept := hjudged.filter fun s => s.item.stays g p
  rw [← candidates_rest hnodes hscope, List.filter_map] at hkept
  refine (evaluate_eq_ok_iff_judged hvalidateRest hkind hcondition).2 ⟨_, hkept, ?_⟩
  rw [List.map_map]
  rfl

end

/-! Rules of independence between nodes. -/

def joins (r : Rule) (e : Edge) : Bool :=
  (!e.source.isExternal && r.selection.satisfiedBy (.node e.source)) &&
    (!e.target.isExternal && r.selection.satisfiedBy (.node e.target))

def joined (r : Rule) (g : Graph) : List Item := (g.edges.filter r.joins).map .edge

/-- An edge into a node that is removed leads to an external node afterwards, and other edges stay as
they are. -/
theorem joined_rest {nodes : List Node} {pairs : List (String × String)}
    (hform : Graph.Canonical nodes pairs g) (hnodup : (g.nodes.map (·.name)).Nodup)
    (hnodes : rest.nodes = g.nodes.filter fun n => Graph.spares p g.nodes n.name)
    (hedges : rest.edges = (g.edges.filter fun e => !g.isRemoved p e.source).map rest.relink) :
    r.joined rest = (r.joined g).filter fun x => x.stays g p := by
  have hresolve : ∀ e ∈ g.edges, rest.relink e =
      ⟨if g.isRemoved p e.source then .external e.source.name else e.source,
        if g.isRemoved p e.target then .external e.target.name else e.target⟩ := by
    intro e he
    have hend : ∀ n ∈ [e.source, e.target], Graph.IsEnd g.nodes n :=
      fun n hn => hform.isEnd n (List.mem_flatMap.2 ⟨e, he, hn⟩)
    rw [Graph.relink, Graph.resolve_rest hnodup hnodes (hend _ (by simp)),
      Graph.resolve_rest hnodup hnodes (hend _ (by simp))]
  have hstays : ∀ e ∈ g.edges, (r.joins (rest.relink e) && !g.isRemoved p e.source)
      = ((Item.edge e).stays g p && r.joins e) := by
    intro e he
    simp only [hresolve e he, Item.stays_edge]
    cases g.isRemoved p e.source <;> cases g.isRemoved p e.target <;> simp [joins, Node.external]
  rw [joined, joined, hedges, List.filter_map, List.filter_map, List.map_map, List.filter_filter,
    List.filter_filter]
  simp only [Function.comp_apply]
  rw [List.filter_congr hstays]
  apply List.map_congr_left
  intro e he
  obtain ⟨he, hkept⟩ := List.mem_filter.1 he
  simp only [Item.stays_edge, Bool.and_eq_true, Bool.not_eq_true'] at hkept
  change Item.edge (rest.relink e) = Item.edge e
  rw [hresolve e he, hkept.1.1, hkept.1.2]
  rfl

theorem dependentPairs_eq {nodes : List Node} {pairs : List (String × String)}
    (hform : Graph.Canonical nodes pairs g) (hvalidate : g.validate = .ok ())
    (hslices : r.slices = none) :
    dependentPairs g (units r.slices (r.selectedNodes g)) = (g.edges.filter r.joins).map Edge.names := by
  obtain rfl := hform.eq_build
  have hgrouped := grouped_units (increasing_selectedNodes (r := r) hvalidate) r.slices
  apply (increasing_dependentPairs hgrouped.increasing).eq_of_mem_iff
    (hform.increasing.sublist (List.filter_sublist.map _))
  rintro ⟨x, y⟩
  rw [mem_dependentPairs_iff_crosses hvalidate]
  have hname : ∀ n : Node, unitName? r.slices n = some n.name := fun n => by rw [hslices]; rfl
  have hunit : ∀ (n : Node) (z : String), r.unit? n = some z ↔
      (!n.isExternal && r.selection.satisfiedBy (.node n)) = true ∧ n.name = z := by
    intro n z
    rw [unit?_eq_some_iff, hname, Option.some.injEq, Bool.and_eq_true, Bool.not_eq_true', and_assoc]
  simp only [Crosses, hunit, List.mem_map, List.mem_filter, joins, Bool.and_eq_true]
  constructor
  · rintro ⟨e, he, ⟨hsource, rfl⟩, ⟨htarget, rfl⟩, _⟩
    exact ⟨e, ⟨he, hsource, htarget⟩, rfl⟩
  · rintro ⟨e, ⟨he, hsource, htarget⟩, heq⟩
    obtain ⟨rfl, rfl⟩ := Prod.mk.inj heq
    exact ⟨e, he, ⟨hsource, rfl⟩, ⟨htarget, rfl⟩,
      ((hform.names_iff e.names).1 (List.mem_map_of_mem he)).2⟩

theorem evaluate_of_joined {nodes : List Node} {pairs : List (String × String)}
    (hform : Graph.Canonical nodes pairs g) (hvalidate : g.validate = .ok ())
    (hcheck : r.check = .ok ()) (hkind : r.kind = .independent) (hslices : r.slices = none)
    (hselection : r.selection.Answers ((candidates g r.scope).map Selected.item)) :
    r.evaluate g = (r.joined g).mapM fun x => r.report x.candidate := by
  rw [evaluate_independent hvalidate hcheck hkind hselection,
    dependentPairs_eq hform hvalidate hslices, joined, List.mapM_map, List.mapM_map]
  rfl

theorem answers_of_evaluate (hvalidate : g.validate = .ok ()) (h : r.evaluate g = .ok violations) :
    r.selection.Answers ((candidates g r.scope).map Selected.item) := by
  obtain ⟨selected, hselected, _⟩ := bind_eq_ok.1 h
  rw [select_eq_of_validate hvalidate] at hselected
  intro x hx
  obtain ⟨s, hs, rfl⟩ := List.mem_map.1 hx
  exact exists_of_select hselected s hs

theorem traces_of_joined (hkind : r.kind = .independent) {found : List (Item × Violation)}
    (hitems : found.map (·.1) = r.joined g) (hreport : ∀ x ∈ found, r.report x.1.candidate = .ok x.2)
    (h : r.evaluate g = .ok (found.map (·.2))) : r.Traces g found := by
  have hsubjects : r.subjects g = g.edges.map .edge := by simp only [subjects, hkind]
  have hfault : ∀ e : Edge, r.FindsFault (.edge e) ↔ r.joins e = true := by
    intro e
    simp [FindsFault, hkind, Item.nodes, joins, Predicate.satisfiedBy_iff]
  refine ⟨?_, fun x => ?_, hreport, h⟩
  · rw [hitems, hsubjects]
    exact List.filter_sublist.map _
  · rw [hitems, hsubjects, joined, List.mem_map, List.mem_map]
    constructor
    · rintro ⟨e, he, rfl⟩
      obtain ⟨he, hjoins⟩ := List.mem_filter.1 he
      exact ⟨⟨e, he, rfl⟩, (hfault e).2 hjoins⟩
    · rintro ⟨⟨e, he, rfl⟩, hjoins⟩
      exact ⟨e, List.mem_filter.2 ⟨he, (hfault e).1 hjoins⟩, rfl⟩

theorem restricts_of_independent {nodes kept : List Node} {pairs left : List (String × String)}
    (hform : Graph.Canonical nodes pairs g) (hvalidate : g.validate = .ok ())
    (hcheck : r.check = .ok ()) (hkind : r.kind = .independent) (hslices : r.slices = none)
    (hformRest : Graph.Canonical kept left rest) (hvalidateRest : rest.validate = .ok ())
    (hnodes : rest.nodes = g.nodes.filter fun n => !g.isRemoved p n)
    (hjoined : r.joined rest = (r.joined g).filter fun x => x.stays g p)
    (h : r.evaluate g = .ok violations) : r.Restricts g rest p violations := by
  have hselection := answers_of_evaluate hvalidate h
  have hselectionRest : r.selection.Answers ((candidates rest r.scope).map Selected.item) := by
    rw [candidates_rest hnodes (.inl (scope_of_check hcheck hkind))]
    exact fun x hx => hselection x ((List.filter_sublist.map _).mem hx)
  have hevaluate := h
  rw [evaluate_of_joined hform hvalidate hcheck hkind hslices hselection] at hevaluate
  obtain ⟨found, hitems, rfl, hreport⟩ := mapM_eq_ok_iff_marked.1 hevaluate
  refine ⟨found, traces_of_joined hkind hitems hreport h, rfl, ?_⟩
  rw [evaluate_of_joined hformRest hvalidateRest hcheck hkind hslices hselectionRest, hjoined]
  refine mapM_eq_ok_iff_marked.2 ⟨_, ?_, rfl, fun x hx => hreport x (List.mem_of_mem_filter hx)⟩
  rw [← hitems, List.filter_map]
  rfl

/-- Whether a rule judges nodes, methods or pairs of nodes, each by itself. -/
def IsLocal (r : Rule) : Prop :=
  (r.kind = .all ∨ r.kind = .none) ∧ (r.scope = .nodes ∨ r.scope = .methods) ∨
    r.kind = .independent ∧ r.slices = none

/-- Leaving out nodes takes away the violations about them, and no others. -/
theorem excluding_restricts {nodes : List Node} {pairs : List (String × String)}
    (hvalidate : (Graph.build nodes pairs).validate = .ok ()) (hcheck : r.check = .ok ())
    (hlocal : r.IsLocal) (p : Node → Bool)
    (hviolations : r.evaluate (Graph.build nodes pairs) = .ok violations) :
    ∃ rest, (Graph.build nodes pairs).excluding (fun n => .ok (p n)) = .ok rest ∧
      r.Restricts (Graph.build nodes pairs) rest p violations := by
  have hform := Graph.canonical_of_build nodes pairs
  have hnodup := (Graph.indexed_build nodes pairs).validate_eq_ok_iff.1 hvalidate
  obtain ⟨rest, hrest, hvalidateRest, hspared, hnodes, hedges⟩ :=
    Graph.exists_excluding hform hnodup p
  refine ⟨rest, hrest, ?_⟩
  rcases hlocal with ⟨hkind, hscope⟩ | ⟨hkind, hslices⟩
  · obtain ⟨condition, hcondition⟩ := exists_condition_of_check hcheck hkind
    exact restricts_of_each hvalidate hkind hcondition hscope hvalidateRest hnodes hviolations
  · have hbuild := Except.ok.inj (hrest.symm.trans (Graph.excluding_pure _ p))
    exact restricts_of_independent hform hvalidate hcheck hkind hslices
      (hbuild ▸ Graph.canonical_of_build _ _) hvalidateRest hnodes
      (joined_rest hform hnodup hspared hedges) hviolations

def aloof : Rule := plain "aloof" .anything .independent

/-- The methods of the type that is left keep their numbers, and of two dependencies on one type the
one is left. -/
theorem excluding_restricts_overloaded :
    (Graph.build overloaded []).validate = .ok () ∧ methodless.check = .ok () ∧
      methodless.IsLocal ∧
      methodless.evaluate (Graph.build overloaded [])
        = .ok (["app.Cache.get(0)", "app.Store.get(1)#1", "app.Store.get(Key)",
          "app.Store.get(1)#2"].map methodlessViolation) ∧
      (∃ rest, (Graph.build overloaded []).excluding (fun n => .ok (n.name == "app.Cache"))
          = .ok rest ∧
        methodless.Restricts (Graph.build overloaded []) rest (fun n => n.name == "app.Cache")
          (["app.Cache.get(0)", "app.Store.get(1)#1", "app.Store.get(Key)",
            "app.Store.get(1)#2"].map methodlessViolation)) ∧
      (Graph.build loggers calls).validate = .ok () ∧ aloof.check = .ok () ∧ aloof.IsLocal ∧
      ∃ violations, aloof.evaluate (Graph.build loggers calls) = .ok violations ∧
        ∃ rest, (Graph.build loggers calls).excluding (fun n => .ok (n.name == "app.Code"))
          = .ok rest ∧
        aloof.Restricts (Graph.build loggers calls) rest (fun n => n.name == "app.Code")
          violations := by
  have hoverloaded : (Graph.build overloaded []).validate = .ok () :=
    Graph.validate_build_iff.2 (by decide)
  have hloggers : (Graph.build loggers calls).validate = .ok () :=
    Graph.validate_build_iff.2 (by decide)
  have hmethods : methodless.evaluate (Graph.build overloaded [])
      = .ok (["app.Cache.get(0)", "app.Store.get(1)#1", "app.Store.get(Key)",
        "app.Store.get(1)#2"].map methodlessViolation) := by
    rw [build_overloaded]
    rfl
  obtain ⟨violations, hpairs⟩ : ∃ violations,
      aloof.evaluate (Graph.build loggers calls) = .ok violations := by
    rw [build_loggers]
    exact ⟨_, rfl⟩
  have hmethodless : methodless.IsLocal := .inl ⟨.inr rfl, .inr rfl⟩
  have haloof : aloof.IsLocal := .inr ⟨rfl, rfl⟩
  exact ⟨hoverloaded, by rfl, hmethodless, hmethods,
    excluding_restricts hoverloaded (by rfl) hmethodless _ hmethods,
    hloggers, by rfl, haloof, violations, hpairs,
    excluding_restricts hloggers (by rfl) haloof _ hpairs⟩

end Rule

end Conformance
