import Conformance.Baseline.Freezer
import Conformance.Facts.Document
import Conformance.Proofs.Baseline.Entries
import Conformance.Proofs.Facts.Identifiers
import Conformance.Proofs.Rule.Independence
import Conformance.Proofs.Rule.Judgment

/-! What tells the violations of a rule apart. A baseline knows them by item and message; where items
can be told apart by their identifiers, accepting some violations does not accept another. -/
namespace Conformance

open Facts

namespace Facts

theorem sublist_of_select {α : Type} {p : α → Except Failure Bool} {xs ys : List α}
    (h : select p xs = .ok ys) : ys.Sublist xs := by
  induction xs generalizing ys with
  | nil =>
    obtain rfl : [] = ys := Except.ok.inj h
    exact .slnil
  | cons x xs ih =>
    obtain ⟨keep, others, _, hothers, rfl⟩ := select_cons_eq_ok.1 h
    cases keep with
    | false => exact (ih hothers).cons x
    | true => exact (ih hothers).cons_cons x

end Facts

namespace Rule

variable {r : Rule} {nodes : List Node} {pairs : List (String × String)}
  {violations : List Violation}

theorem item_of_violation {item : String} {values : Template.Values} {v : Violation}
    (h : r.violation item values = .ok v) : v.item = item := by
  rw [violation] at h
  split at h
  · obtain rfl := Except.ok.inj h
    rfl
  · contradiction

/-- The names in a graph hold nothing that would blur the identifiers of a scope. -/
def TellsApart (g : Graph) : Scope → Prop
  | .nodes => True
  | .edges => ∀ e ∈ g.edges, ArrowFree e.source.name
  | .methods => ∀ m ∈ g.methods, m.IsPlain

theorem nodup_identifier_candidates {scope : Scope}
    (hvalidate : (Graph.build nodes pairs).validate = .ok ())
    (h : TellsApart (Graph.build nodes pairs) scope) :
    ((candidates (Graph.build nodes pairs) scope).map (·.identifier)).Nodup := by
  have hnodup := (Graph.indexed_build nodes pairs).validate_eq_ok_iff.1 hvalidate
  cases scope with
  | nodes =>
    rw [candidates, List.map_map]
    exact hnodup.sublist (List.filter_sublist.map _)
  | edges =>
    rw [candidates, List.map_map]
    exact Graph.nodup_identifier_edges h
  | methods =>
    rw [candidates, List.map_map]
    exact Graph.nodup_identifier_methods hnodup h

/-! Each kind of rule. -/

theorem nodup_item_of_judged {condition : Predicate} {wanted : Bool} {items : List Selected}
    {found : List (Selected × Violation)} (h : Judged r condition wanted items found)
    (hnodup : (items.map (·.identifier)).Nodup) : ((found.map (·.2)).map (·.item)).Nodup := by
  have hitems : (found.map (·.2)).map (·.item) = (found.map (·.1)).map (·.identifier) := by
    rw [List.map_map, List.map_map]
    apply List.map_congr_left
    intro x hx
    exact item_of_violation (h.report_eq x hx)
  rw [hitems]
  exact hnodup.sublist (h.sublist.map _)

theorem nodup_item_of_evaluateCount {selected : List Selected}
    (h : r.evaluateCount selected = .ok violations) : (violations.map (·.item)).Nodup := by
  rw [evaluateCount] at h
  split at h
  · obtain rfl : [] = violations := Except.ok.inj h
    exact .nil
  · obtain ⟨v, _, h⟩ := bind_eq_ok.1 h
    obtain rfl : [v] = violations := Except.ok.inj h
    exact List.nodup_singleton _

theorem exists_selectedNodes {g : Graph} {selected : List Selected}
    (hvalidate : g.validate = .ok ()) (hscope : r.scope = .nodes)
    (h : r.select g = .ok selected) : ∃ chosen : List Node, chosen.Sublist g.nodes ∧
      selected = chosen.map fun n => ⟨n.name, .node n⟩ := by
  rw [select_eq_of_validate hvalidate, hscope] at h
  obtain ⟨chosen, hchosen, rfl⟩ := List.sublist_map_iff.1 (sublist_of_select h)
  exact ⟨chosen, hchosen.trans List.filter_sublist, rfl⟩

theorem nodup_item_of_evaluateIndependent {chosen : List Node}
    (hincreasing : chosen.Pairwise fun a b => a.name < b.name)
    (hfree : ∀ n ∈ chosen, ∀ name, unitName? r.slices n = some name → ArrowFree name) {g : Graph}
    (h : r.evaluateIndependent g (chosen.map fun n => ⟨n.name, .node n⟩) = .ok violations) :
    (violations.map (·.item)).Nodup := by
  have hgrouped := grouped_units hincreasing r.slices
  rw [evaluateIndependent, mapM_node?] at h
  have hitems : violations.map (·.item)
      = (dependentPairs g (units r.slices chosen)).map fun p => Edge.identifierOf p.1 p.2 := by
    have hsteps : List.Forall₂ Eq (violations.map (·.item))
        ((dependentPairs g (units r.slices chosen)).map fun p => Edge.identifierOf p.1 p.2) := by
      rw [List.forall₂_map_left_iff, List.forall₂_map_right_iff]
      exact (mapM_eq_ok_iff.1 h).flip.imp fun _ _ hv => item_of_violation hv
    rwa [List.forall₂_eq_eq_eq] at hsteps
  have hsource : ∀ p ∈ dependentPairs g (units r.slices chosen), ArrowFree p.1 := by
    rintro ⟨x, y⟩ hp
    obtain ⟨_, a, _, ha, _⟩ := mem_dependentPairs.1 hp
    obtain ⟨hmem, hname⟩ := (hgrouped.belongs_iff x a).1 ha
    exact hfree a hmem x hname
  rw [hitems]
  exact Edge.nodup_identifierOf (increasing_dependentPairs hgrouped.increasing) hsource

/-! All kinds. -/

/-- No name that a rule puts into the items of its violations would blur them. -/
def Separates (r : Rule) (g : Graph) : Prop :=
  match r.kind with
  | .count => True
  | .independent =>
    ∀ n ∈ g.nodes, ∀ name, unitName? r.slices n = some name → ArrowFree name
  | .all | .none => TellsApart g r.scope

theorem nodup_item_of_evaluate (hvalidate : (Graph.build nodes pairs).validate = .ok ())
    (hcheck : r.check = .ok ()) (hseparates : r.Separates (Graph.build nodes pairs))
    (h : r.evaluate (Graph.build nodes pairs) = .ok violations) :
    (violations.map (·.item)).Nodup := by
  have heach (hkind : r.kind = .all ∨ r.kind = .none)
      (hapart : TellsApart (Graph.build nodes pairs) r.scope) :
      (violations.map (·.item)).Nodup := by
    obtain ⟨condition, hcondition⟩ := exists_condition_of_check hcheck hkind
    obtain ⟨found, hjudged, rfl⟩ := (evaluate_eq_ok_iff_judged hvalidate hkind hcondition).1 h
    exact nodup_item_of_judged hjudged (nodup_identifier_candidates hvalidate hapart)
  rw [Separates] at hseparates
  cases hkind : r.kind with
  | all =>
    rw [hkind] at hseparates
    exact heach (.inl hkind) hseparates
  | none =>
    rw [hkind] at hseparates
    exact heach (.inr hkind) hseparates
  | count =>
    rw [evaluate, hkind] at h
    obtain ⟨selected, _, h⟩ := bind_eq_ok.1 h
    exact nodup_item_of_evaluateCount h
  | independent =>
    rw [evaluate, hkind] at h
    rw [hkind] at hseparates
    obtain ⟨selected, hselected, h⟩ := bind_eq_ok.1 h
    obtain ⟨chosen, hchosen, rfl⟩ :=
      exists_selectedNodes hvalidate (scope_of_check hcheck hkind) hselected
    exact nodup_item_of_evaluateIndependent ((Graph.increasing_nodes hvalidate).sublist hchosen)
      (fun n hn => hseparates n (hchosen.subset hn)) h

/-- A baseline tells the violations of a rule apart: each has an item and a signature of its own, and
is not accepted by accepting the others. -/
structure Distinct (r : Rule) (violations : List Violation) : Prop where
  items : (violations.map (·.item)).Nodup
  signatures : (violations.map Violation.signature).Nodup
  accepts : ∀ before v after, violations = before ++ v :: after → ∃ entries,
    Baseline.Entries.ofSignatures r.name ((before ++ after).map Violation.signature) = .ok entries ∧
      entries.accepts r.name v.signature = false

theorem distinct_of_nodup_item (hrule : ∀ v ∈ violations, v.rule = r.name)
    (hnodup : (violations.map (·.item)).Nodup) : r.Distinct violations := by
  refine ⟨hnodup, ?_, ?_⟩
  · apply List.Nodup.of_map Baseline.Signature.item
    rw [List.map_map]
    exact hnodup
  · rintro before v after rfl
    rw [List.map_append, List.map_cons, List.nodup_middle, List.nodup_cons] at hnodup
    have hsignatures : ∀ s ∈ (before ++ after).map Violation.signature, s.rule = r.name := by
      intro s hs
      obtain ⟨w, hw, rfl⟩ := List.mem_map.1 hs
      apply hrule w
      rw [List.mem_append] at hw
      exact List.mem_append.2 (hw.imp_right (List.mem_cons_of_mem v))
    refine ⟨_, Baseline.Entries.ofSignatures_eq_ok hsignatures, ?_⟩
    rw [Bool.eq_false_iff, Ne, Baseline.Entries.accepts_iff,
      Baseline.Entries.signatureSet_ofPairs hsignatures, List.mem_toFinset]
    intro hmem
    obtain ⟨w, hw, heq⟩ := List.mem_map.1 hmem
    apply hnodup.1
    rw [← List.map_append]
    exact List.mem_map.2 ⟨w, hw, congrArg Baseline.Signature.item heq⟩

theorem violations_distinct (hvalidate : (Graph.build nodes pairs).validate = .ok ())
    (hcheck : r.check = .ok ()) (hseparates : r.Separates (Graph.build nodes pairs))
    (hviolations : r.evaluate (Graph.build nodes pairs) = .ok violations) :
    r.Distinct violations :=
  distinct_of_nodup_item (rule_of_evaluate hviolations)
    (nodup_item_of_evaluate hvalidate hcheck hseparates hviolations)

def methodless : Rule :=
  { plain "methodless" .anything .none with scope := .methods, condition := some .anything }

def methodlessViolation (item : String) : Violation :=
  ⟨"methodless", item, item ++ " satisfies 'anything'"⟩

def overloaded : List Node :=
  [{ Node.known "app.Cache" with methods := [⟨"get", .number 0, .empty, []⟩] },
    { Node.known "app.Store" with methods := [⟨"get", .number 1, .empty, []⟩,
      ⟨"get", .number 1, .empty, ["Key"]⟩, ⟨"get", .number 1, .empty, []⟩] }]

theorem build_overloaded : Graph.build overloaded [] = .ofSorted overloaded [] := by
  rw [Graph.build, sortedNodes_eq_self (by decide)]
  rfl

theorem violations_distinct_overloaded :
    (Graph.build overloaded []).validate = .ok () ∧ methodless.check = .ok () ∧
      methodless.Separates (Graph.build overloaded []) ∧
      methodless.evaluate (Graph.build overloaded [])
        = .ok (["app.Cache.get(0)", "app.Store.get(1)#1", "app.Store.get(Key)",
          "app.Store.get(1)#2"].map methodlessViolation) ∧
      methodless.Distinct (["app.Cache.get(0)", "app.Store.get(1)#1", "app.Store.get(Key)",
        "app.Store.get(1)#2"].map methodlessViolation) := by
  have hvalidate : (Graph.build overloaded []).validate = .ok () :=
    Graph.validate_build_iff.2 (by decide)
  have hseparates : methodless.Separates (Graph.build overloaded []) := by
    rw [build_overloaded]
    change ∀ m ∈ Facts.Graph.methods (.ofSorted overloaded []), m.IsPlain
    decide
  have hviolations : methodless.evaluate (Graph.build overloaded [])
      = .ok (["app.Cache.get(0)", "app.Store.get(1)#1", "app.Store.get(Key)",
        "app.Store.get(1)#2"].map methodlessViolation) := by
    rw [build_overloaded]
    rfl
  exact ⟨hvalidate, by rfl, hseparates, hviolations,
    violations_distinct hvalidate (by rfl) hseparates hviolations⟩

def confused : Datum := .mapping [(.text "nodes", .list
  [.mapping [(.text "name", .text "A"), (.text "methods", .list
      [.mapping [(.text "name", .text "B.m")]])],
    .mapping [(.text "name", .text "A.B"), (.text "methods", .list
      [.mapping [(.text "name", .text "m")]])]])]

def confusedSheet : Sheet :=
  ⟨[{ Node.known "A" with methods := [⟨"B.m", .number 0, .empty, []⟩] },
    { Node.known "A.B" with methods := [⟨"m", .number 0, .empty, []⟩] }], []⟩

/-- Methods of different types share an identifier where the name of one holds a dot. -/
theorem violations_confused :
    ¬ ∀ (d : Datum) (sheet : Sheet) (r : Rule) (violations : List Violation),
      Sheet.read d = .ok sheet → (Graph.build sheet.nodes sheet.edges).validate = .ok () →
      r.check = .ok () → r.evaluate (Graph.build sheet.nodes sheet.edges) = .ok violations →
      r.Distinct violations := by
  intro h
  have hvalidate : (Graph.build confusedSheet.nodes confusedSheet.edges).validate = .ok () :=
    Graph.validate_build_iff.2 (by decide)
  have hbuild : Graph.build confusedSheet.nodes confusedSheet.edges
      = .ofSorted confusedSheet.nodes [] := by
    rw [Graph.build, sortedNodes_eq_self (by decide)]
    rfl
  have hviolations : methodless.evaluate (Graph.build confusedSheet.nodes confusedSheet.edges)
      = .ok [methodlessViolation "A.B.m(0)", methodlessViolation "A.B.m(0)"] := by
    rw [hbuild]
    rfl
  have hdistinct := h confused confusedSheet methodless _ (by rfl) hvalidate (by rfl) hviolations
  exact absurd hdistinct.items (by simp)

end Rule

end Conformance
