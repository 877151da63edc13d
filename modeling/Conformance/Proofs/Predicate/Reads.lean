import Conformance.Rule.Document

/-! What predicates read of an item. A combination of predicates tells no two items apart that none
of its parts tells apart, and the predicate of what a rule set leaves out reads packages alone. -/
namespace Conformance

open Facts

/-- Reads nothing of a node but its name and its package. -/
def NodeProperty.IsNaming (property : NodeProperty) : Prop :=
  property.part ∈ ["package", "simple_name", "qualified_name"]

theorem NodeProperty.holds_congr {property : NodeProperty} (h : property.IsNaming) {m n : Node}
    (hname : m.name = n.name) (hpackage : m.package = n.package) :
    property.holds m = property.holds n := by
  cases property with
  | inPackage pattern => simp only [holds, hpackage]
  | packageUnder start => simp only [holds, hpackage]
  | simpleName name => simp only [holds, Node.simpleName, hname]
  | simpleNameContaining text => simp only [holds, Node.simpleName, hname]
  | nameMatching r => simp only [holds, hname]
  | lowercasePackage => simp only [holds, hpackage]
  | _ => exact absurd h (by simp [IsNaming, part])

namespace Predicate

inductive Combines (base : Predicate → Prop) : Predicate → Prop
  | part {p} (h : base p) : Combines base p
  | anything : Combines base .anything
  | nothing : Combines base .nothing
  | named {p} (description : String) (h : Combines base p) : Combines base (.named description p)
  | neg {p} (h : Combines base p) : Combines base (.neg p)
  | conj {ps} (h : ∀ p ∈ ps, Combines base p) : Combines base (.conj ps)
  | disj {ps} (h : ∀ p ∈ ps, Combines base p) : Combines base (.disj ps)

section
variable {x y : Item}

theorem testAll_congr {ps : List Predicate} (h : ∀ p ∈ ps, p.test x = p.test y) :
    testAll x ps = testAll y ps := by
  induction ps with
  | nil => rfl
  | cons p rest ih =>
    obtain ⟨hp, hrest⟩ := List.forall_mem_cons.1 h
    rw [testAll, testAll, hp, ih hrest]

theorem testAny_congr {ps : List Predicate} (h : ∀ p ∈ ps, p.test x = p.test y) :
    testAny x ps = testAny y ps := by
  induction ps with
  | nil => rfl
  | cons p rest ih =>
    obtain ⟨hp, hrest⟩ := List.forall_mem_cons.1 h
    rw [testAny, testAny, hp, ih hrest]

theorem Combines.test_eq {base : Predicate → Prop} (hbase : ∀ p, base p → p.test x = p.test y)
    {p : Predicate} (h : Combines base p) : p.test x = p.test y := by
  induction h with
  | part h => exact hbase _ h
  | anything => rfl
  | nothing => rfl
  | named _ _ ih => simp only [test, ih]
  | neg _ ih => simp only [test, ih]
  | conj _ ih => simp only [test, testAll_congr ih]
  | disj _ ih => simp only [test, testAny_congr ih]

end

theorem testAny_ofNode (n : Node) (properties : List NodeProperty) :
    testAny (.node n) (properties.map .ofNode)
      = .ok (properties.any (NodeProperty.holds n)) := by
  induction properties with
  | nil => rw [List.map_nil, testAny, List.any_nil]
  | cons property rest ih =>
    have htest : (ofNode property).test (.node n) = .ok (property.holds n) := by
      rw [test]
      rfl
    rw [List.map_cons, testAny, htest, ih, List.any_cons]
    cases property.holds n <;> rfl

def ReadsNaming : Predicate → Prop :=
  Combines fun p => ∃ property, p = .ofNode property ∧ property.IsNaming

/-- Goes by anything about the source of an edge and by the name and the package of its target. -/
def ReadsEnds : Predicate → Prop :=
  Combines fun p => (∃ q, p = .source q) ∨ ∃ q, p = .target q ∧ q.ReadsNaming

theorem ReadsNaming.test_eq {p : Predicate} (h : p.ReadsNaming) {m n : Node}
    (hname : m.name = n.name) (hpackage : m.package = n.package) :
    p.test (.node m) = p.test (.node n) := by
  apply Combines.test_eq _ h
  rintro _ ⟨property, rfl, hnaming⟩
  rw [test, test]
  exact congrArg Except.ok (NodeProperty.holds_congr hnaming hname hpackage)

theorem ReadsEnds.test_eq {p : Predicate} (h : p.ReadsEnds) {e f : Edge}
    (hsource : e.source = f.source) (hname : e.target.name = f.target.name)
    (hpackage : e.target.package = f.target.package) :
    p.test (.edge e) = p.test (.edge f) := by
  apply Combines.test_eq _ h
  rintro _ (⟨q, rfl⟩ | ⟨q, rfl, hnaming⟩)
  · rw [test, test]
    change q.test (.node e.source) = q.test (.node f.source)
    rw [hsource]
  · rw [test, test]
    exact hnaming.test_eq hname hpackage

end Predicate

namespace RuleSet

def excludes (s : RuleSet) (n : Node) : Bool :=
  (s.exclude.map NodeProperty.inPackage).any (NodeProperty.holds n)

theorem test_excluded (s : RuleSet) (n : Node) : s.excluded.test (.node n) = .ok (s.excludes n) := by
  have hparts : s.exclude.map (fun pattern => Predicate.ofNode (.inPackage pattern))
      = (s.exclude.map NodeProperty.inPackage).map Predicate.ofNode := by
    rw [List.map_map]
    rfl
  rw [excluded, Predicate.test, hparts, Predicate.testAny_ofNode, excludes]

end RuleSet

end Conformance
