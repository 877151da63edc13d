import Conformance.Facts.Graph

/-! How methods are numbered. Selecting methods counts them along the way, whether they are selected
or not, so that the ordinals come out as if there were no selection. -/
namespace Conformance.Facts

theorem select_append {α : Type} (p : α → Except Failure Bool) (xs ys : List α) :
    select p (xs ++ ys) = do return (← select p xs) ++ (← select p ys) := by
  induction xs with
  | nil =>
    rw [List.nil_append, select]
    cases select p ys <;> rfl
  | cons x rest ih =>
    rw [List.cons_append, select, select, ih]
    rcases p x with failure | keep
    · rfl
    · cases select p rest with
      | error failure => rfl
      | ok others => cases select p ys <;> cases keep <;> rfl

namespace Graph

/-- The methods of one node with their ordinals; `before` holds the signatures passed so far. -/
def methodRefs (owner : Node) (before : List String) : List Method → List MethodRef
  | [] => []
  | m :: rest =>
    let signature := m.signature
    let total := (owner.methods.map Method.signature).count signature
    let ordinal := if 1 < total then before.count signature + 1 else 0
    ⟨owner, m, ordinal⟩ :: methodRefs owner (signature :: before) rest

def methods (g : Graph) : List MethodRef := g.nodes.flatMap fun n => methodRefs n [] n.methods

/-- The counters hold the number of signatures passed, for those that repeat. -/
theorem selectMethods_eq_select (p : MethodRef → Except Failure Bool) {owner : Node}
    {counts seen : Tally} {before : List String}
    (hcounts : ∀ s, counts.count s = (owner.methods.map Method.signature).count s)
    (hseen : ∀ s, 1 < counts.count s → seen.count s = before.count s) (ms : List Method) :
    selectMethods p owner counts seen ms = select p (methodRefs owner before ms) := by
  induction ms generalizing seen before with
  | nil => rfl
  | cons m rest ih =>
    have hrest : ∀ s, 1 < counts.count s →
        (if 1 < counts.count m.signature then seen.add m.signature else seen).count s
          = (m.signature :: before).count s := by
      intro s hs
      rw [List.count_cons]
      split
      · rw [Tally.count_add, hseen s hs]
        simp only [beq_iff_eq]
      · next hm =>
        have hne : m.signature ≠ s := fun heq => hm (heq ▸ hs)
        simp [hseen s hs, hne]
    have hordinal : (if 1 < counts.count m.signature
          then (if 1 < counts.count m.signature then seen.add m.signature else seen).count
            m.signature else 0)
        = if 1 < (owner.methods.map Method.signature).count m.signature
          then before.count m.signature + 1 else 0 := by
      rw [hcounts]
      split
      · next hm =>
        rw [Tally.count_add, hseen _ (hcounts _ ▸ hm), if_pos rfl]
      · rfl
    rw [selectMethods, methodRefs, select]
    simp only [hordinal, ih hrest]

theorem selectMethodsOf_eq_select (p : MethodRef → Except Failure Bool) (nodes : List Node) :
    selectMethodsOf p nodes = select p (nodes.flatMap fun n => methodRefs n [] n.methods) := by
  induction nodes with
  | nil => rfl
  | cons n rest ih =>
    have hseen : ∀ s, 1 < (Tally.ofList (n.methods.map Method.signature)).count s →
        Tally.count [] s = ([] : List String).count s := fun _ _ => rfl
    rw [selectMethodsOf, List.flatMap_cons, select_append, ih,
      selectMethods_eq_select p (Tally.count_ofList _) hseen]

/-- Filtering while counting comes to filtering what is counted. -/
theorem methodsWhere_eq (g : Graph) (p : MethodRef → Except Failure Bool) :
    g.methodsWhere p = g.validate.bind fun _ => select p g.methods := by
  rw [methodsWhere, selectMethodsOf_eq_select, methods]
  rfl

variable {owner : Node} {before : List String} {ms : List Method}

theorem of_mem_methodRefs {r : MethodRef} (h : r ∈ methodRefs owner before ms) :
    r.owner = owner ∧ r.method ∈ ms := by
  induction ms generalizing before with
  | nil => simp [methodRefs] at h
  | cons m rest ih =>
    rw [methodRefs] at h
    rcases List.mem_cons.1 h with rfl | h
    · exact ⟨rfl, List.mem_cons_self⟩
    · obtain ⟨howner, hmethod⟩ := ih h
      exact ⟨howner, List.mem_cons_of_mem m hmethod⟩

/-- The ordinal of a repeated signature is past the number of those before. -/
theorem count_lt_ordinal {r : MethodRef} (h : r ∈ methodRefs owner before ms)
    (hrepeated : 1 < (owner.methods.map Method.signature).count r.method.signature) :
    before.count r.method.signature < r.ordinal := by
  induction ms generalizing before with
  | nil => simp [methodRefs] at h
  | cons m rest ih =>
    rw [methodRefs] at h
    rcases List.mem_cons.1 h with rfl | h
    · simp only at hrepeated ⊢
      rw [if_pos hrepeated]
      exact Nat.lt_succ_self _
    · exact Nat.lt_of_le_of_lt (List.count_le_count_cons) (ih h)

theorem pairwise_ordinal_methodRefs
    (h : owner.methods.map Method.signature = before.reverse ++ ms.map Method.signature) :
    (methodRefs owner before ms).Pairwise fun a b =>
      a.method.signature = b.method.signature → a.ordinal < b.ordinal := by
  induction ms generalizing before with
  | nil => exact .nil
  | cons m rest ih =>
    rw [methodRefs]
    refine List.pairwise_cons.2 ⟨fun b hb hsignature => ?_, ih (by simpa using h)⟩
    -- the signature stands here and again further on, so both ordinals are counted
    have hrepeated : 1 < (owner.methods.map Method.signature).count m.signature := by
      have hmem : m.signature ∈ rest.map Method.signature :=
        List.mem_map.2 ⟨b.method, (of_mem_methodRefs hb).2, hsignature.symm⟩
      have hpos := List.count_pos_iff.2 hmem
      rw [h, List.map_cons, List.count_append, List.count_cons_self]
      omega
    simp only at hsignature
    have hlt := count_lt_ordinal hb (hsignature ▸ hrepeated)
    rw [← hsignature, List.count_cons_self] at hlt
    simpa only [if_pos hrepeated] using hlt

end Graph

end Conformance.Facts
