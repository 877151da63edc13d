import Conformance.Proofs.Facts.Exclusion
import Conformance.Proofs.Predicate.Reads
import Conformance.Proofs.Rule.Selection

/-! Nodes left out of a graph in several turns. A name stays if no turn takes a node of that name, so
it makes no difference in which order the turns come, whether one is repeated, or whether they are
made into one. -/
namespace Conformance

open Facts

namespace Facts.Graph

section
variable {all : List Node} {p q : Node → Bool} {name : String}

theorem spares_or :
    spares (fun n => p n || q n) all name = (spares p all name && spares q all name) := by
  simp only [spares]
  induction all with
  | nil => rfl
  | cons n rest ih =>
    simp only [List.all_cons, ih]
    cases p n <;> cases q n <;> cases n.name == name <;> simp

theorem spares_filter (h : spares p all name = true) :
    spares q (all.filter fun n => spares p all n.name) name = spares q all name := by
  rw [Bool.eq_iff_iff, spares_eq_true_iff, spares_eq_true_iff]
  constructor
  · intro hrest n hn hq hname
    exact hrest n (List.mem_filter.2 ⟨hn, hname ▸ h⟩) hq hname
  · intro hall n hn
    exact hall n (List.mem_filter.1 hn).1

theorem spares_and_spares_filter :
    (spares p all name && spares q (all.filter fun n => spares p all n.name) name)
      = spares (fun n => p n || q n) all name := by
  rw [spares_or]
  cases h : spares p all name with
  | false => rfl
  | true => rw [spares_filter h]

theorem spares_congr (h : ∀ n ∈ all, p n = q n) : spares p all name = spares q all name := by
  rw [Bool.eq_iff_iff, spares_eq_true_iff, spares_eq_true_iff]
  exact forall₂_congr fun n hn => by rw [h n hn]

theorem spares_of_forall_not (h : ∀ n, p n = false) : spares p all name = true :=
  spares_eq_true_iff.2 fun n _ hp => absurd hp (by simp [h n])

end

variable {nodes : List Node} {pairs : List (String × String)} {g rest : Graph}

/-- Has the form of what some nodes and dependencies come to without the names that a test takes. -/
def IsLeft (nodes : List Node) (pairs : List (String × String)) (p : Node → Bool) (rest : Graph) :
    Prop :=
  Canonical (nodes.filter fun n => spares p nodes n.name)
    (pairs.filter fun e => spares p nodes e.1) rest

theorem IsLeft.eq {p q : Node → Bool} {other : Graph} (h : IsLeft nodes pairs p rest)
    (h' : IsLeft nodes pairs q other) (heq : ∀ n ∈ nodes, p n = q n) : rest = other := by
  have hspares : ∀ name, spares p nodes name = spares q nodes name := fun _ => spares_congr heq
  simp only [IsLeft, hspares] at h
  exact (Canonical.eq_build h).trans (Canonical.eq_build h').symm

theorem isLeft_of_forall_not {p : Node → Bool} (h : Canonical nodes pairs g)
    (hp : ∀ n, p n = false) : IsLeft nodes pairs p g := by
  have hkept : ∀ name, spares p nodes name = true := fun _ => spares_of_forall_not hp
  simpa [IsLeft, hkept] using h

theorem IsLeft.trans {p q : Node → Bool} {last : Graph} (hlast : IsLeft
      (nodes.filter fun n => spares p nodes n.name) (pairs.filter fun e => spares p nodes e.1)
      q last) :
    IsLeft nodes pairs (fun n => p n || q n) last := by
  simp only [IsLeft, List.filter_filter, Bool.and_comm (spares q _ _),
    spares_and_spares_filter] at hlast
  exact hlast

def takes (t : Node → Except Failure Bool) (n : Node) : Bool := (t n).toOption.getD false

def AnswersOn (nodes : List Node) (t : Node → Except Failure Bool) : Prop :=
  ∀ n ∈ nodes, ∃ b, t n = .ok b

theorem AnswersOn.eq_takes {t : Node → Except Failure Bool} (h : AnswersOn nodes t) {n : Node}
    (hn : n ∈ nodes) : t n = .ok (takes t n) := by
  obtain ⟨b, hb⟩ := h n hn
  rw [takes, hb]
  rfl

theorem answersOn_pure (nodes : List Node) (p : Node → Bool) :
    AnswersOn nodes fun n => .ok (p n) :=
  fun n _ => ⟨p n, rfl⟩

theorem exists_isLeft {t : Node → Except Failure Bool} (h : Canonical nodes pairs g)
    (ht : AnswersOn nodes t) :
    ∃ rest, g.excluding t = .ok rest ∧ IsLeft nodes pairs (takes t) rest := by
  obtain ⟨rest, hrest, hleft⟩ := h.excluding (takes t)
  have hasked : ∀ n ∈ g.nodes, t n = .ok (takes t n) := fun n hn =>
    ht.eq_takes (h.sorted.perm.mem_iff.1 hn)
  refine ⟨rest, ?_, hleft⟩
  rw [excluding, select_eq_ok hasked, ← select_pure]
  exact hrest

/-- What is left of a graph after one turn for each test. -/
def excludingEach (g : Graph) (tests : List (Node → Except Failure Bool)) : Except Failure Graph :=
  tests.foldlM excluding g

/-- All turns together leave what one of them leaves that takes whatever any test does. -/
theorem exists_isLeft_each (h : Canonical nodes pairs g)
    {tests : List (Node → Except Failure Bool)} (ht : ∀ t ∈ tests, AnswersOn nodes t) :
    ∃ rest, g.excludingEach tests = .ok rest ∧
      IsLeft nodes pairs (fun n => tests.any (takes · n)) rest := by
  induction tests generalizing nodes pairs g with
  | nil => exact ⟨g, rfl, isLeft_of_forall_not h fun _ => rfl⟩
  | cons t tests ih =>
    obtain ⟨hfirst, hothers⟩ := List.forall_mem_cons.1 ht
    obtain ⟨rest, hrest, hleft⟩ := exists_isLeft h hfirst
    obtain ⟨last, hlast, hform⟩ := ih hleft fun t ht n hn =>
      hothers t ht n (List.mem_filter.1 hn).1
    refine ⟨last, ?_, ?_⟩
    · rw [excludingEach, List.foldlM_cons, hrest]
      exact hlast
    · simpa only [List.any_cons] using hform.trans

theorem excludingEach_eq (h : Canonical nodes pairs g)
    {tests others : List (Node → Except Failure Bool)} (ht : ∀ t ∈ tests, AnswersOn nodes t)
    (ho : ∀ t ∈ others, AnswersOn nodes t)
    (heq : ∀ n ∈ nodes, tests.any (takes · n) = others.any (takes · n)) :
    ∃ rest, g.excludingEach tests = .ok rest ∧ g.excludingEach others = .ok rest := by
  obtain ⟨rest, hrest, hleft⟩ := exists_isLeft_each h ht
  obtain ⟨other, hother, hform⟩ := exists_isLeft_each h ho
  exact ⟨rest, hrest, hleft.eq hform heq ▸ hother⟩

theorem excludingEach_pure (h : Canonical nodes pairs g) {ps qs : List (Node → Bool)}
    (heq : ∀ n, ps.any (· n) = qs.any (· n)) :
    ∃ rest, g.excludingEach (ps.map fun p n => .ok (p n)) = .ok rest ∧
      g.excludingEach (qs.map fun q n => .ok (q n)) = .ok rest := by
  have hanswers : ∀ ps : List (Node → Bool), ∀ t ∈ ps.map fun p (n : Node) => .ok (p n),
      AnswersOn nodes t := by
    intro ps t ht
    obtain ⟨p, _, rfl⟩ := List.mem_map.1 ht
    exact answersOn_pure nodes p
  refine excludingEach_eq h (hanswers ps) (hanswers qs) fun n _ => ?_
  rw [List.any_map, List.any_map]
  exact heq n

theorem excludingEach_singleton (g : Graph) (t : Node → Except Failure Bool) :
    g.excludingEach [t] = g.excluding t := by
  rw [excludingEach, List.foldlM_cons]
  exact bind_pure _

theorem excludingEach_pair (g : Graph) (s t : Node → Except Failure Bool) :
    g.excludingEach [s, t] = g.excluding s >>= fun rest => rest.excluding t := by
  rw [excludingEach, List.foldlM_cons]
  exact bind_congr fun rest => rest.excludingEach_singleton t

theorem excluding_excluding (h : Canonical nodes pairs g) (p q : Node → Bool) :
    ∃ rest, (g.excluding (fun n => .ok (p n)) >>= fun g => g.excluding fun n => .ok (q n))
        = .ok rest ∧ g.excluding (fun n => .ok (p n || q n)) = .ok rest := by
  have hany : ∀ n, [p, q].any (· n) = [fun n => p n || q n].any (· n) := by simp
  have heach := excludingEach_pure h hany
  simpa only [List.map_cons, List.map_nil, excludingEach_pair, excludingEach_singleton] using heach

end Facts.Graph

namespace Predicate

def onNode (p : Predicate) (n : Node) : Except Failure Bool := p.test (.node n)

theorem answersOn_inPackage (nodes : List Node) (pattern : String) :
    Graph.AnswersOn nodes (ofNode (.inPackage pattern)).onNode :=
  fun n _ => ⟨(NodeProperty.inPackage pattern).holds n, by rw [onNode, test]; rfl⟩

end Predicate

namespace Facts.Graph

section
variable {nodes : List Node} {pairs : List (String × String)} {g : Graph}

theorem excludingEach_eq_excluding_disj (h : Canonical nodes pairs g) {ps turns : List Predicate}
    (hps : ∀ p ∈ ps, AnswersOn nodes p.onNode) (hturns : ∀ p, p ∈ turns ↔ p ∈ ps) :
    ∃ rest, g.excludingEach (turns.map Predicate.onNode) = .ok rest ∧
      g.excluding (Predicate.disj ps).onNode = .ok rest := by
  have hdisj : ∀ n ∈ nodes, (Predicate.disj ps).onNode n
      = .ok (ps.any (·.satisfiedBy (.node n))) := by
    intro n hn
    rw [Predicate.onNode, Predicate.test]
    exact Predicate.testAny_of_answers fun p hp => hps p hp n hn
  rw [← excludingEach_singleton]
  apply excludingEach_eq h
  · intro t ht
    obtain ⟨p, hp, rfl⟩ := List.mem_map.1 ht
    exact hps p ((hturns p).1 hp)
  · intro t ht n hn
    rw [List.mem_singleton.1 ht]
    exact ⟨_, hdisj n hn⟩
  · intro n hn
    have htakes : takes (Predicate.disj ps).onNode n = ps.any (·.satisfiedBy (.node n)) := by
      rw [takes, hdisj n hn]
      rfl
    rw [List.any_cons, List.any_nil, Bool.or_false, htakes, List.any_map, Bool.eq_iff_iff,
      List.any_eq_true, List.any_eq_true]
    exact exists_congr fun p => and_congr_left fun _ => hturns p

theorem excludingEach_eq_restrict (h : Canonical nodes pairs g) (s : RuleSet)
    {patterns : List String} (hpatterns : ∀ x, x ∈ patterns ↔ x ∈ s.exclude) :
    ∃ rest, g.excludingEach (patterns.map fun x => (Predicate.ofNode (.inPackage x)).onNode)
        = .ok rest ∧ s.restrict g = .ok rest := by
  cases hexclude : s.exclude with
  | nil =>
    have hnone : patterns = [] := by
      simpa [hexclude, List.eq_nil_iff_forall_not_mem] using hpatterns
    exact ⟨g, by rw [hnone]; rfl, by rw [RuleSet.restrict, hexclude]; rfl⟩
  | cons x others =>
    let inPackage (x : String) : Predicate := .ofNode (.inPackage x)
    have hanswers : ∀ p ∈ s.exclude.map inPackage, AnswersOn nodes p.onNode := by
      intro p hp
      obtain ⟨x, _, rfl⟩ := List.mem_map.1 hp
      exact Predicate.answersOn_inPackage nodes x
    have hturns : ∀ p, p ∈ patterns.map inPackage ↔ p ∈ s.exclude.map inPackage := by
      simp [hpatterns]
    have hmap := excludingEach_eq_excluding_disj h hanswers hturns
    rw [List.map_map] at hmap
    rw [RuleSet.restrict, hexclude]
    exact hmap

end

/-- Of a graph with its nodes and dependencies in any number and order, leaving out nodes by one test
and then by another leaves what leaving them out by either leaves. So exclusions commute, a repeated
one changes nothing, and the patterns of a rule set can be taken one after the other in any order. -/
theorem exclusions_compose (nodes : List Node) (pairs : List (String × String)) :
    (∀ p q : Node → Bool, ∃ rest,
      ((build nodes pairs).excluding (fun n => .ok (p n)) >>= fun g =>
        g.excluding fun n => .ok (q n)) = .ok rest ∧
      ((build nodes pairs).excluding (fun n => .ok (q n)) >>= fun g =>
        g.excluding fun n => .ok (p n)) = .ok rest ∧
      (build nodes pairs).excluding (fun n => .ok (p n || q n)) = .ok rest) ∧
    (∀ p : Node → Bool, ∃ rest, (build nodes pairs).excluding (fun n => .ok (p n)) = .ok rest ∧
      rest.excluding (fun n => .ok (p n)) = .ok rest) ∧
    (∀ ps turns : List Predicate, (∀ p ∈ ps, AnswersOn nodes p.onNode) →
      (∀ p, p ∈ turns ↔ p ∈ ps) → ∃ rest,
        (build nodes pairs).excludingEach (turns.map Predicate.onNode) = .ok rest ∧
        (build nodes pairs).excluding (Predicate.disj ps).onNode = .ok rest) ∧
    ∀ (s : RuleSet) (patterns : List String), (∀ x, x ∈ patterns ↔ x ∈ s.exclude) → ∃ rest,
      (build nodes pairs).excludingEach
        (patterns.map fun x => (Predicate.ofNode (.inPackage x)).onNode) = .ok rest ∧
      s.restrict (build nodes pairs) = .ok rest := by
  have hform := canonical_of_build nodes pairs
  refine ⟨fun p q => ?_, fun p => ?_, fun ps turns => excludingEach_eq_excluding_disj hform,
    fun s patterns => excludingEach_eq_restrict hform s⟩
  · obtain ⟨rest, hturns, hone⟩ := excluding_excluding hform p q
    obtain ⟨other, hswapped, hsame⟩ := excluding_excluding hform q p
    simp only [Bool.or_comm (q _)] at hsame
    obtain rfl : other = rest := Except.ok.inj (hsame.symm.trans hone)
    exact ⟨other, hturns, hswapped, hone⟩
  · obtain ⟨rest, htwice, honce⟩ := excluding_excluding hform p p
    simp only [Bool.or_self] at honce
    rw [honce] at htwice
    exact ⟨rest, honce, htwice⟩

def crowded : List Node :=
  [.known "app.log.Writer", { Node.known "app.log.Writer" with package := "app" }, .known "app.Main",
    .external "lib.Text"]

def crowdedGraph : Graph :=
  build crowded [("app.Main", "app.log.Writer"), ("lib.Text", "app.Main")]

def logsAndOthers : List Predicate :=
  [.ofNode (.inPackage "..log.."), .neg (.ofNode (.inPackage "app.."))]

theorem exclusions_compose_crowded :
    (∀ p ∈ logsAndOthers, AnswersOn crowded p.onNode) ∧
    (∃ rest, crowdedGraph.excludingEach (logsAndOthers.reverse.map Predicate.onNode) = .ok rest ∧
      crowdedGraph.excluding (Predicate.disj logsAndOthers).onNode = .ok rest) ∧
    (∀ x, x ∈ ["lib", "..log..", "lib"] ↔ x ∈ ["..log..", "lib"]) ∧
    ∃ rest, crowdedGraph.excludingEach
        (["lib", "..log..", "lib"].map fun x => (Predicate.ofNode (.inPackage x)).onNode) = .ok rest ∧
      (⟨[], ["..log..", "lib"]⟩ : RuleSet).restrict crowdedGraph = .ok rest := by
  have hanswers : ∀ p ∈ logsAndOthers, AnswersOn crowded p.onNode := by
    intro p hp n hn
    obtain ⟨b, hb⟩ := Predicate.answersOn_inPackage crowded "app.." n hn
    rcases List.mem_pair.1 hp with rfl | rfl
    · exact Predicate.answersOn_inPackage crowded "..log.." n hn
    · refine ⟨!b, ?_⟩
      rw [Predicate.onNode] at hb ⊢
      rw [Predicate.test, hb]
      rfl
  have hpatterns : ∀ x, x ∈ ["lib", "..log..", "lib"] ↔ x ∈ ["..log..", "lib"] := by
    intro x
    simp only [List.mem_cons, List.not_mem_nil, or_false]
    tauto
  have hcompose := exclusions_compose crowded
    [("app.Main", "app.log.Writer"), ("lib.Text", "app.Main")]
  exact ⟨hanswers, hcompose.2.2.1 _ _ hanswers fun _ => List.mem_reverse, hpatterns,
    hcompose.2.2.2 ⟨[], ["..log..", "lib"]⟩ _ hpatterns⟩

end Facts.Graph

end Conformance
