import Conformance.Proofs.Predicate.Denotation

/-! The order of the entries of predicates. What a document means does not depend on the order in
which its entries stand, at any depth; only the words in which it is described do. -/
namespace Conformance

open Facts

def HoldsPredicates (key : Scalar) : Prop :=
  key ∈ ["not", "any_of", "all_of", "from", "to", "declared_in"].map Scalar.text

instance (key : Scalar) : Decidable (HoldsPredicates key) := inferInstanceAs (Decidable (_ ∈ _))

/-- The same predicate with the entries of its mappings in another order. Each entry is told with
what stands under its key before and after. -/
inductive Rearranged : Datum → Datum → Prop
  | same (d : Datum) : Rearranged d d
  | list {items : List (Datum × Datum)} (h : ∀ i ∈ items, Rearranged i.1 i.2) :
      Rearranged (.list (items.map (·.1))) (.list (items.map (·.2)))
  | mapping {entries others : List (Scalar × Datum × Datum)} (horder : entries.Perm others)
      (h : ∀ e ∈ entries, HoldsPredicates e.1 → Rearranged e.2.1 e.2.2)
      (hrest : ∀ e ∈ entries, ¬ HoldsPredicates e.1 → e.2.1 = e.2.2) :
      Rearranged (.mapping (entries.map fun e => (e.1, e.2.1)))
        (.mapping (others.map fun e => (e.1, e.2.2)))

theorem Rearranged.symm {d d' : Datum} (h : Rearranged d d') : Rearranged d' d := by
  induction h with
  | same d => exact .same d
  | @list items _ ih =>
    have hback := @Rearranged.list (items.map Prod.swap) (List.forall_mem_map.2 ih)
    simpa [Function.comp_def] using hback
  | @mapping entries others horder _ hrest ih =>
    have hback := @Rearranged.mapping (others.map fun e => (e.1, e.2.2, e.2.1))
      (entries.map fun e => (e.1, e.2.2, e.2.1)) (horder.symm.map _)
      (List.forall_mem_map.2 fun e he => ih e (horder.mem_iff.2 he))
      (List.forall_mem_map.2 fun e he hkey => (hrest e (horder.mem_iff.2 he) hkey).symm)
    simpa [Function.comp_def] using hback

namespace Predicate

/-! A document has one meaning. -/

theorem Means.unique {scope : Scope} {p : Predicate} {m m' : scope.Subject → Prop}
    (h : Means scope p m) (h' : Means scope p m') : m = m' := by
  funext x
  obtain ⟨b, hb, hm⟩ := h x
  obtain ⟨b', hb', hm'⟩ := h' x
  obtain rfl : b = b' := Except.ok.inj (hb.symm.trans hb')
  exact propext (hm.symm.trans hm')

theorem Denotes.unique {scope : Scope} {d : Datum} {m m' : scope.Subject → Prop}
    (h : Denotes scope d m) (h' : Denotes scope d m') : m = m' := by
  obtain ⟨p, hp, hm⟩ := (read_agrees scope "" d).complete m h
  obtain ⟨p', hp', hm'⟩ := (read_agrees scope "" d).complete m' h'
  obtain rfl : p = p' := Except.ok.inj (hp.symm.trans hp')
  exact hm.unique hm'

theorem EntryDenotes.unique {scope : Scope} {key : Scalar} {value : Datum}
    {m m' : scope.Subject → Prop} (h : EntryDenotes scope key value m)
    (h' : EntryDenotes scope key value m') : m = m' := by
  have hall : ∀ {m : scope.Subject → Prop}, EntryDenotes scope key value m →
      Denotes scope (.mapping [(key, value)]) fun x => ∀ e ∈ [(key, value)], m x := by
    intro m h
    exact @Denotes.all scope [(key, value)] (fun _ => m) (by simpa using h)
  simpa [funext_iff] using (hall h).unique (hall h')

/-! Rearranged documents. -/

theorem exists_meaning {ι β M : Type} [Nonempty M] (denotes : β → M → Prop)
    (hunique : ∀ {b a a'}, denotes b a → denotes b a' → a = a') {xs : List ι} (f : ι → β)
    (m : ι → M) (h : ∀ x ∈ xs, denotes (f x) (m x)) :
    ∃ meaning : β → M, (∀ b ∈ xs.map f, denotes b (meaning b)) ∧
      ∀ x ∈ xs, meaning (f x) = m x := by
  have hsome : ∀ b ∈ xs.map f, ∃ a, denotes b a :=
    List.forall_mem_map.2 fun x hx => ⟨m x, h x hx⟩
  choose! meaning hmeaning using hsome
  exact ⟨meaning, hmeaning, fun x hx => hunique (hmeaning _ (List.mem_map_of_mem hx)) (h x hx)⟩

/-- The second document means what the first one does, and so do its items one by one. -/
structure Keeps (d d' : Datum) : Prop where
  meaning : ∀ scope m, Denotes scope d m → Denotes scope d' m
  items : ∀ items, d = .list items → ∃ pairs : List (Datum × Datum), pairs.map (·.1) = items ∧
    d' = .list (pairs.map (·.2)) ∧
      ∀ p ∈ pairs, ∀ scope m, Denotes scope p.1 m → Denotes scope p.2 m

theorem Keeps.refl (d : Datum) : Keeps d d where
  meaning _ _ h := h
  items items hd := ⟨items.map fun i => (i, i), by simp [Function.comp_def],
    by simp [Function.comp_def, hd], by simp⟩

section
variable {scope : Scope} {items : List Datum} {value value' : Datum}
  {meaning : Datum → scope.Subject → Prop}

theorem Keeps.choices (h : Keeps (.list items) value')
    (hmeaning : ∀ d ∈ items, Denotes scope d (meaning d)) :
    ∃ (others : List Datum) (meaning' : Datum → scope.Subject → Prop), value' = .list others ∧
      (∀ d ∈ others, Denotes scope d (meaning' d)) ∧ others.map meaning' = items.map meaning := by
  obtain ⟨pairs, rfl, hvalue, hpairs⟩ := h.items items rfl
  obtain ⟨meaning', hmeaning', heq⟩ := exists_meaning (Denotes scope) Denotes.unique (·.2)
    (fun p => meaning p.1) fun p hp => hpairs p hp _ _ (hmeaning p.1 (List.mem_map_of_mem hp))
  refine ⟨_, meaning', hvalue, hmeaning', ?_⟩
  rw [List.map_map, List.map_map]
  exact List.map_congr_left heq

theorem exists_meaning_iff (x : scope.Subject) :
    (∃ d ∈ items, meaning d x) ↔ ∃ m ∈ items.map meaning, m x := by
  simp

theorem forall_meaning_iff (x : scope.Subject) :
    (∀ d ∈ items, meaning d x) ↔ ∀ m ∈ items.map meaning, m x := by
  simp

theorem EntryDenotes.rearrange {key : Scalar} {m : scope.Subject → Prop}
    (hkey : HoldsPredicates key) (hkeeps : Keeps value value')
    (h : EntryDenotes scope key value m) : EntryDenotes scope key value' m := by
  cases h with
  | neg h => exact .neg (hkeeps.meaning _ _ h)
  | @anyOf _ items meaning hne h =>
    obtain ⟨others, meaning', rfl, hmeaning', heq⟩ := hkeeps.choices h
    have hne' : others ≠ [] := by
      rintro rfl
      exact hne (List.map_eq_nil_iff.1 heq.symm)
    simp only [exists_meaning_iff, ← heq]
    simp only [← exists_meaning_iff]
    exact .anyOf hne' hmeaning'
  | @allOf _ items meaning hne h =>
    obtain ⟨others, meaning', rfl, hmeaning', heq⟩ := hkeeps.choices h
    have hne' : others ≠ [] := by
      rintro rfl
      exact hne (List.map_eq_nil_iff.1 heq.symm)
    simp only [forall_meaning_iff, ← heq]
    simp only [← forall_meaning_iff]
    exact .allOf hne' hmeaning'
  | node h => cases h <;> exact absurd hkey (by decide)
  | source h => exact .source (hkeeps.meaning _ _ h)
  | target h => exact .target (hkeeps.meaning _ _ h)
  | owner h => exact .owner (hkeeps.meaning _ _ h)
  | method h => cases h <;> exact absurd hkey (by decide)

end

theorem keeps_of_rearranged {d d' : Datum} (h : Rearranged d d') : Keeps d d' := by
  induction h with
  | same d => exact .refl d
  | @list items _ ih =>
    refine ⟨fun scope m hm => (nomatch hm), fun _ hitems => ?_⟩
    obtain rfl := Datum.list.inj hitems
    exact ⟨items, rfl, rfl, fun i hi => (ih i hi).meaning⟩
  | @mapping entries others horder _ hrest ih =>
    refine ⟨fun scope m hm => ?_, fun _ hitems => nomatch hitems⟩
    cases hm with
    | @all _ _ meaning hmeaning =>
      rw [List.forall_mem_map] at hmeaning
      have heach : ∀ e ∈ others, EntryDenotes scope e.1 e.2.2 (meaning (e.1, e.2.1)) := by
        intro e he
        have hmem := horder.mem_iff.2 he
        by_cases hkey : HoldsPredicates e.1
        · exact (hmeaning e hmem).rearrange hkey (ih e hmem hkey)
        · exact hrest e hmem hkey ▸ hmeaning e hmem
      obtain ⟨meaning', hmeaning', heq⟩ := exists_meaning
        (fun b : Scalar × Datum => EntryDenotes scope b.1 b.2) EntryDenotes.unique
        (fun e : Scalar × Datum × Datum => (e.1, e.2.2)) (fun e => meaning (e.1, e.2.1)) heach
      have hsame : (fun x => ∀ b ∈ others.map fun e => (e.1, e.2.2), meaning' b x)
          = fun x => ∀ b ∈ entries.map fun e => (e.1, e.2.1), meaning b x := by
        funext x
        simp only [List.forall_mem_map, horder.mem_iff]
        exact propext (forall₂_congr fun e he => by rw [heq e he])
      exact hsame ▸ .all hmeaning'

/-- Two predicates give the same answers in a scope. -/
def AnswersAlike (scope : Scope) (p q : Predicate) : Prop :=
  ∀ x, p.test (scope.item x) = q.test (scope.item x)

/-- A rearranged document is read as well, as a predicate with the same answers. -/
theorem read_rearranged {d d' : Datum} (h : Rearranged d d') (scope : Scope) (context : String) :
    Covers (AnswersAlike scope) (read scope context d) (read scope context d') := by
  intro p hp
  obtain ⟨m, hm⟩ := (read_agrees scope context d).sound p hp
  obtain ⟨p', hp', hmeans⟩ := (read_agrees scope context d).complete m hm
  obtain rfl : p = p' := Except.ok.inj (hp.symm.trans hp')
  obtain ⟨q, hq, hmeans'⟩ := (read_agrees scope context d').complete m
    ((keeps_of_rearranged h).meaning scope m hm)
  refine ⟨q, hq, fun x => ?_⟩
  obtain ⟨b, hb, hiff⟩ := hmeans x
  obtain ⟨b', hb', hiff'⟩ := hmeans' x
  rw [hb, hb', Bool.eq_iff_iff.2 (hiff.trans hiff'.symm)]

end Predicate

end Conformance
