import Conformance.Proofs.Facts.Canonical
import Conformance.Proofs.Facts.Numbering
import Conformance.Proofs.Rule.Evaluated

/-! What a rule selects. Rules of every scope choose from a list of candidates in graph order, and a
predicate that answers on all of them chooses those that satisfy it. -/
namespace Conformance

open Facts

namespace Facts

theorem select_eq_ok {α : Type} {p : α → Except Failure Bool} {q : α → Bool} {xs : List α}
    (h : ∀ x ∈ xs, p x = .ok (q x)) : select p xs = .ok (xs.filter q) := by
  rw [← select_pure]
  induction xs with
  | nil => rfl
  | cons x rest ih =>
    obtain ⟨hx, hrest⟩ := List.forall_mem_cons.1 h
    rw [select, select, hx, ih hrest]

theorem select_map {α β : Type} (p : β → Except Failure Bool) (f : α → β) (xs : List α) :
    select p (xs.map f) = (select (fun x => p (f x)) xs).map (List.map f) := by
  induction xs with
  | nil => rfl
  | cons x rest ih =>
    rw [List.map_cons, select, select, ih]
    cases p (f x) with
    | error failure => rfl
    | ok keep =>
      cases select (fun x => p (f x)) rest with
      | error failure => rfl
      | ok others => cases keep <;> rfl

end Facts

namespace Predicate

def satisfiedBy (p : Predicate) (x : Item) : Bool := (p.test x).toOption.getD false

theorem satisfiedBy_iff {p : Predicate} {x : Item} :
    p.satisfiedBy x = true ↔ p.test x = .ok true := by
  rw [satisfiedBy]
  rcases p.test x with failure | _ | _ <;> simp [Except.toOption]

def Answers (p : Predicate) (items : List Item) : Prop := ∀ x ∈ items, ∃ b, p.test x = .ok b

theorem Answers.test_eq {p : Predicate} {items : List Item} (h : p.Answers items) {x : Item}
    (hx : x ∈ items) : p.test x = .ok (p.satisfiedBy x) := by
  obtain ⟨b, hb⟩ := h x hx
  rw [satisfiedBy, hb]
  rfl

theorem test_of_exists {p : Predicate} {x : Item} (h : ∃ b, p.test x = .ok b) :
    p.test x = .ok (p.satisfiedBy x) :=
  have hanswers : p.Answers [x] := List.forall_mem_singleton.2 h
  hanswers.test_eq (List.mem_singleton_self x)

theorem testAll_of_answers {ps : List Predicate} {x : Item} (h : ∀ p ∈ ps, ∃ b, p.test x = .ok b) :
    testAll x ps = .ok (ps.all (·.satisfiedBy x)) := by
  induction ps with
  | nil => rw [testAll, List.all_nil]
  | cons p rest ih =>
    obtain ⟨hp, hrest⟩ := List.forall_mem_cons.1 h
    rw [testAll, test_of_exists hp, ih hrest, List.all_cons]
    cases p.satisfiedBy x <;> rfl

theorem testAny_of_answers {ps : List Predicate} {x : Item} (h : ∀ p ∈ ps, ∃ b, p.test x = .ok b) :
    testAny x ps = .ok (ps.any (·.satisfiedBy x)) := by
  induction ps with
  | nil => rw [testAny, List.any_nil]
  | cons p rest ih =>
    obtain ⟨hp, hrest⟩ := List.forall_mem_cons.1 h
    rw [testAny, test_of_exists hp, ih hrest, List.any_cons]
    cases p.satisfiedBy x <;> rfl

theorem answers_anything (items : List Item) : anything.Answers items :=
  fun _ _ => ⟨true, by rw [test]⟩

end Predicate

namespace Rule

def candidates (g : Graph) : Scope → List Selected
  | .nodes => (g.nodes.filter fun n => !n.isExternal).map fun n => ⟨n.name, .node n⟩
  | .edges => g.edges.map fun e => ⟨e.identifier, .edge e⟩
  | .methods => g.methods.map fun m => ⟨m.identifier, .method m⟩

def selected (r : Rule) (g : Graph) : List Selected :=
  (candidates g r.scope).filter fun s => r.selection.satisfiedBy s.item

variable {r : Rule} {g : Graph}

theorem select_eq_of_validate (h : g.validate = .ok ()) :
    r.select g = Facts.select (fun s => r.selection.test s.item) (candidates g r.scope) := by
  unfold select candidates
  cases r.scope
  · simp only [select_map, Graph.nodesWhere, h]
    rfl
  · simp only [select_map, Graph.edgesWhere, h]
    rfl
  · simp only [select_map, Graph.methodsWhere_eq, h]
    rfl

theorem select_of_answers (hvalidate : g.validate = .ok ())
    (hselection : r.selection.Answers ((candidates g r.scope).map Selected.item)) :
    r.select g = .ok (r.selected g) := by
  rw [select_eq_of_validate hvalidate]
  apply select_eq_ok
  intro s hs
  exact hselection.test_eq (List.mem_map_of_mem hs)

theorem evaluate_of_duplicates (r : Rule) {g : Graph} (h : g.duplicates ≠ []) :
    r.evaluate g = .error (.duplicateNodes g.duplicates) := by
  have hvalidate := Graph.validate_of_duplicates h
  have hselect : r.select g = .error (.duplicateNodes g.duplicates) := by
    rw [select]
    split
    · rw [Graph.nodesWhere, hvalidate]
      rfl
    · rw [Graph.edgesWhere, hvalidate]
      rfl
    · rw [Graph.methodsWhere, hvalidate]
      rfl
  rw [evaluate, hselect]
  rfl

end Rule

end Conformance
