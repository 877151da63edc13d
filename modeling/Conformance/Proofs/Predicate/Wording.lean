import Mathlib.Data.List.Nodup
import Mathlib.Data.Set.Function
import Conformance.Predicate.Basic

/-! What the wording of a predicate tells of its meaning. Parentheses around what `or` joins keep it
apart from what stands beside it, and what `and` joins can be regrouped freely. But nothing tells
whether `not` is about the first part of what `and` joins or about all of it. -/
namespace Conformance

namespace Wording

/-! Meanings. -/

abbrev Meaning := Item → Except Failure Bool

def negation (m : Meaning) : Meaning := fun item => return !(← m item)

def both (m n : Meaning) : Meaning := fun item => do if ← m item then n item else return false

def either (m n : Meaning) : Meaning := fun item => do if ← m item then return true else n item

theorem both_assoc (l m n : Meaning) : both (both l m) n = both l (both m n) := by
  funext item
  unfold both
  rcases l item with e | _ | _ <;> rfl

/-! Words. -/

/-- A word occurs in a text, apart from what is around it. -/
def HoldsWord (text word : List Char) : Prop := (' ' :: word ++ [' ']) <:+: (' ' :: text ++ [' '])

instance (text word : List Char) : Decidable (HoldsWord text word) :=
  inferInstanceAs (Decidable (_ <:+: _))

/-- Nothing in the text can be taken for a part of the grammar. -/
structure IsPlain (d : String) : Prop where
  opening : '(' ∉ d.toList
  closing : ')' ∉ d.toList
  words : ∀ w ∈ ["and", "or", "not"], ¬ HoldsWord d.toList w.toList

instance (d : String) : Decidable (IsPlain d) :=
  decidable_of_iff (_ ∧ _ ∧ _) ⟨fun h => ⟨h.1, h.2.1, h.2.2⟩, fun h => ⟨h.1, h.2, h.3⟩⟩

theorem HoldsWord.infix {text word : List Char} (h : HoldsWord text word) : word <:+: text := by
  obtain ⟨front, rest, h⟩ := h
  have hdrop : ∀ l, (l ++ ' ' :: rest).dropLast = l ++ (' ' :: rest).dropLast := fun l =>
    List.dropLast_append_of_ne_nil (List.cons_ne_nil _ _)
  have htext : text = (front ++ ' ' :: word ++ ' ' :: rest).tail.dropLast := by
    have hends := congrArg (fun l => l.tail.dropLast) h
    simpa using hends.symm
  cases front with
  | nil => exact ⟨[], (' ' :: rest).dropLast, by simp [htext, hdrop]⟩
  | cons c front =>
    refine ⟨front ++ [' '], (' ' :: rest).dropLast, ?_⟩
    rw [htext, List.cons_append, List.cons_append, List.tail_cons, hdrop]
    simp

theorem isPlain_of_free {d : String}
    (h : ∀ mark ∈ ["and", "or", "not", "(", ")"], ¬ mark.toList <:+: d.toList) : IsPlain d := by
  have hmark : ∀ c ∈ d.toList, [c] <:+: d.toList := fun c hc => by
    obtain ⟨front, rest, hd⟩ := List.append_of_mem hc
    exact ⟨front, rest, by simp [hd]⟩
  refine ⟨fun hc => h "(" (by simp) (hmark _ hc), fun hc => h ")" (by simp) (hmark _ hc),
    fun w hw hword => h w ?_ hword.infix⟩
  exact List.mem_append_left ["(", ")"] hw

/-- How closely the parts of a wording are bound: a part by itself, parts joined by `and`, or those
joined by `or`. -/
inductive Rank
  | part
  | all
  | any

def Rank.marks : Rank → List String
  | part => [" and ", " or ", ")"]
  | all => [" or ", ")"]
  | any => [")"]

def Ends (r : Rank) (k : List Char) : Prop := k = [] ∨ ∃ mark ∈ r.marks, mark.toList <+: k

theorem Ends.mono {r r' : Rank} {k : List Char} (h : Ends r k) (hr : r.marks ⊆ r'.marks) :
    Ends r' k :=
  h.imp_right fun ⟨mark, hmark, hk⟩ => ⟨mark, hr hmark, hk⟩

theorem Ends.part {r : Rank} {k : List Char} (h : Ends r k) : Ends .part k :=
  h.mono (by cases r <;> simp [Rank.marks])

theorem Ends.all {k : List Char} (h : Ends .any k) : Ends .all k := h.mono (by simp [Rank.marks])

theorem Ends.head {r : Rank} {c : Char} {k : List Char} (h : Ends r (c :: k)) :
    c = ' ' ∨ c = ')' := by
  rcases h.part with h | ⟨mark, hmark, k', hk⟩
  · contradiction
  · simp only [Rank.marks, List.mem_cons, List.not_mem_nil, or_false] at hmark
    rcases hmark with rfl | rfl | rfl
    · exact .inl (List.head_eq_of_cons_eq hk).symm
    · exact .inl (List.head_eq_of_cons_eq hk).symm
    · exact .inr (List.head_eq_of_cons_eq hk).symm

theorem ends_and (text : List Char) : Ends .part (" and ".toList ++ text) :=
  .inr ⟨_, by simp [Rank.marks], List.prefix_append _ _⟩

theorem ends_or (text : List Char) : Ends .all (" or ".toList ++ text) :=
  .inr ⟨_, by simp [Rank.marks], List.prefix_append _ _⟩

theorem ends_close (text : List Char) : Ends .any (')' :: text) :=
  .inr ⟨")", by simp [Rank.marks], List.prefix_append [')'] _⟩

theorem Ends.not_and {k : List Char} (h : Ends .all k) (text : List Char) :
    k ≠ " and ".toList ++ text := by
  rintro rfl
  rcases h with h | ⟨mark, hmark, k', hk⟩
  · contradiction
  · simp only [Rank.marks, List.mem_cons, List.not_mem_nil, or_false] at hmark
    rcases hmark with rfl | rfl
    · simp at hk
    · simp at hk

theorem Ends.not_or {k : List Char} (h : Ends .any k) (text : List Char) :
    k ≠ " or ".toList ++ text := by
  rintro rfl
  rcases h with h | ⟨mark, hmark, k', hk⟩
  · contradiction
  · obtain rfl := List.mem_singleton.1 hmark
    simp at hk

def IsApart (c : List Char) : Prop := c = [] ∨ ∃ rest, c = ' ' :: rest

theorem holdsWord_start {word c : List Char} (hc : IsApart c) : HoldsWord (word ++ c) word := by
  rcases hc with rfl | ⟨rest, rfl⟩
  · exact ⟨[], [], by simp⟩
  · exact ⟨[], rest ++ [' '], by simp⟩

theorem holdsWord_later (front : List Char) {word c : List Char} (hc : IsApart c) :
    HoldsWord (front ++ ' ' :: (word ++ c)) word := by
  rcases hc with rfl | ⟨rest, rfl⟩
  · exact ⟨' ' :: front, [], by simp⟩
  · exact ⟨' ' :: front, rest ++ [' '], by simp⟩

theorem word_of_append {word text d k : List Char} (hword : ∀ c ∈ word, c ≠ ' ' ∧ c ≠ ')')
    (hk : Ends .part k) (h : d ++ k = word ++ ' ' :: text) : ∃ c, d = word ++ c ∧ IsApart c := by
  rcases List.append_eq_append_iff.1 h with ⟨c, hc, hk'⟩ | ⟨c, hc, hk'⟩
  · cases c with
    | nil => exact ⟨[], by simpa using hc.symm, .inl rfl⟩
    | cons x c =>
      have hx := hword x (by simp [hc])
      subst hk'
      exact (hk.head.elim hx.1 hx.2).elim
  · cases c with
    | nil => exact ⟨[], hc, .inl rfl⟩
    | cons x c =>
      obtain rfl := List.head_eq_of_cons_eq hk'
      exact ⟨' ' :: c, hc, .inr ⟨c, rfl⟩⟩

namespace IsPlain

variable {d d' : String} {k k' : List Char}

theorem not_neg (hd : IsPlain d) (hk : Ends .part k) {text : List Char} :
    d.toList ++ k ≠ "not ".toList ++ text := by
  intro h
  obtain ⟨c, hc, hapart⟩ := @word_of_append "not".toList _ _ _ (by simp) hk h
  exact hd.words "not" (by simp) (hc ▸ holdsWord_start hapart)

theorem not_group (hd : IsPlain d) (hk : Ends .part k) {text : List Char} :
    d.toList ++ k ≠ '(' :: text := by
  intro h
  rcases List.append_eq_cons_iff.1 h with ⟨-, rfl⟩ | ⟨rest, hrest, -⟩
  · exact absurd hk.head (by decide)
  · exact hd.opening (by simp [hrest])

theorem eq_nil_of_ends (hd : IsPlain d) (hk' : Ends .part k') {front c : List Char}
    (hfront : d.toList = front ++ c) (hk : Ends .part (c ++ k')) : c = [] := by
  cases c with
  | nil => rfl
  | cons x c =>
    have hword : ∀ word : String, word ∈ ["and", "or", "not"] →
        (∀ y ∈ word.toList, y ≠ ' ' ∧ y ≠ ')') →
        ∀ text, x :: c ++ k' ≠ ' ' :: word.toList ++ ' ' :: text := by
      intro word hmem hletters text h
      obtain rfl := List.head_eq_of_cons_eq h
      obtain ⟨e, rfl, hapart⟩ := word_of_append hletters hk' (List.tail_eq_of_cons_eq h)
      exact hd.words word hmem (hfront ▸ holdsWord_later front hapart)
    rcases hk with h | ⟨mark, hmark, text, h⟩
    · contradiction
    · simp only [Rank.marks, List.mem_cons, List.not_mem_nil, or_false] at hmark
      rcases hmark with rfl | rfl | rfl
      · exact (hword "and" (by simp) (by simp) text h.symm).elim
      · exact (hword "or" (by simp) (by simp) text h.symm).elim
      · have hx : ')' = x := List.head_eq_of_cons_eq h
        exact (hd.closing (hfront ▸ hx ▸ List.mem_append_right _ List.mem_cons_self)).elim

theorem eq_of_append (hd : IsPlain d) (hd' : IsPlain d') (hk : Ends .part k) (hk' : Ends .part k')
    (h : d.toList ++ k = d'.toList ++ k') : d = d' := by
  rw [← String.toList_inj]
  rcases List.append_eq_append_iff.1 h with ⟨c, hc, rfl⟩ | ⟨c, hc, rfl⟩
  · rw [hc, hd'.eq_nil_of_ends hk' hc hk, List.append_nil]
  · rw [hc, hd.eq_nil_of_ends hk hc hk', List.append_nil]

end IsPlain

/-! Wordings. -/

variable {atoms : Set Predicate}

/-- A wording of a rank with what it means, over given parts. -/
inductive Says (atoms : Set Predicate) : Rank → List Char → Meaning → Prop
  | atom {p : Predicate} (h : p ∈ atoms) : Says atoms .part p.description.toList (p.test ·)
  | neg {t : List Char} {m : Meaning} (h : Says atoms .part t m) :
      Says atoms .part ("not ".toList ++ t) (negation m)
  | group {t u : List Char} {m n : Meaning} (h : Says atoms .all t m) (h' : Says atoms .any u n) :
      Says atoms .part ('(' :: (t ++ (" or ".toList ++ (u ++ [')'])))) (either m n)
  | single {t : List Char} {m : Meaning} (h : Says atoms .part t m) : Says atoms .all t m
  | both {t u : List Char} {m n : Meaning} (h : Says atoms .part t m) (h' : Says atoms .all u n) :
      Says atoms .all (t ++ (" and ".toList ++ u)) (both m n)
  | only {t : List Char} {m : Meaning} (h : Says atoms .all t m) : Says atoms .any t m
  | either {t u : List Char} {m n : Meaning} (h : Says atoms .all t m) (h' : Says atoms .any u n) :
      Says atoms .any (t ++ (" or ".toList ++ u)) (either m n)

/-- The parts that predicates are put together from have words of their own, and these are no part
of the grammar. -/
structure Legible (atoms : Set Predicate) : Prop where
  plain : ∀ p ∈ atoms, IsPlain p.description
  distinct : Set.InjOn Predicate.description atoms

namespace Says

open Predicate

variable {r : Rank} {t t' : List Char} {m m' : Meaning} {k k' : List Char}

theorem unique (hatoms : Legible atoms) (h : Says atoms r t m) (h' : Says atoms r t' m')
    (hk : Ends r k) (hk' : Ends r k') (heq : t ++ k = t' ++ k') : t = t' ∧ m = m' := by
  induction h generalizing t' m' k k' with
  | @atom p hp =>
    cases h' with
    | @atom q hq =>
      have hd := (hatoms.plain p hp).eq_of_append (hatoms.plain q hq) hk hk' heq
      obtain rfl := hatoms.distinct hp hq hd
      exact ⟨rfl, rfl⟩
    | neg _ =>
      rw [List.append_assoc] at heq
      exact ((hatoms.plain p hp).not_neg hk heq).elim
    | group _ _ => exact ((hatoms.plain p hp).not_group hk heq).elim
  | neg h ih =>
    rw [List.append_assoc] at heq
    cases h' with
    | @atom q hq => exact ((hatoms.plain q hq).not_neg hk' heq.symm).elim
    | neg h' =>
      rw [List.append_assoc] at heq
      obtain ⟨rfl, rfl⟩ := ih h' hk hk' (List.append_cancel_left heq)
      exact ⟨rfl, rfl⟩
    | group _ _ => exact absurd (List.head_eq_of_cons_eq heq) (by decide)
  | group h h' ih ih' =>
    cases h' with
    | @atom q hq => exact ((hatoms.plain q hq).not_group hk' heq.symm).elim
    | neg _ => exact absurd (List.head_eq_of_cons_eq heq) (by decide)
    | group h' h'' =>
      simp only [List.cons_append, List.append_assoc, List.cons.injEq, true_and] at heq
      obtain ⟨rfl, rfl⟩ := ih h' (ends_or _) (ends_or _) heq
      obtain ⟨rfl, rfl⟩ := ih' h'' (ends_close _) (ends_close _)
        (List.append_cancel_left (List.append_cancel_left heq))
      exact ⟨rfl, rfl⟩
  | single h ih =>
    cases h' with
    | single h' => exact ih h' hk.part hk'.part heq
    | both h' _ =>
      simp only [List.append_assoc] at heq
      obtain ⟨rfl, -⟩ := ih h' hk.part (ends_and _) heq
      exact (hk.not_and _ (List.append_cancel_left heq)).elim
  | both h h' ih ih' =>
    simp only [List.append_assoc] at heq
    cases h' with
    | single h' =>
      obtain ⟨rfl, -⟩ := ih h' (ends_and _) hk'.part heq
      exact (hk'.not_and _ (List.append_cancel_left heq).symm).elim
    | both h' h'' =>
      simp only [List.append_assoc] at heq
      obtain ⟨rfl, rfl⟩ := ih h' (ends_and _) (ends_and _) heq
      obtain ⟨rfl, rfl⟩ := ih' h'' hk hk'
        (List.append_cancel_left (List.append_cancel_left heq))
      exact ⟨rfl, rfl⟩
  | only h ih =>
    cases h' with
    | only h' => exact ih h' hk.all hk'.all heq
    | either h' _ =>
      simp only [List.append_assoc] at heq
      obtain ⟨rfl, -⟩ := ih h' hk.all (ends_or _) heq
      exact (hk.not_or _ (List.append_cancel_left heq)).elim
  | either h h' ih ih' =>
    simp only [List.append_assoc] at heq
    cases h' with
    | only h' =>
      obtain ⟨rfl, -⟩ := ih h' (ends_or _) hk'.all heq
      exact (hk'.not_or _ (List.append_cancel_left heq).symm).elim
    | either h' h'' =>
      simp only [List.append_assoc] at heq
      obtain ⟨rfl, rfl⟩ := ih h' (ends_or _) (ends_or _) heq
      obtain ⟨rfl, rfl⟩ := ih' h'' hk hk'
        (List.append_cancel_left (List.append_cancel_left heq))
      exact ⟨rfl, rfl⟩

theorem and {u : List Char} {n : Meaning} (h : Says atoms .all t m) (h' : Says atoms .all u n) :
    Says atoms .all (t ++ (" and ".toList ++ u)) (Wording.both m n) := by
  generalize hr : Rank.all = r at h
  induction h with
  | atom _ => contradiction
  | neg _ _ => contradiction
  | group _ _ _ _ => contradiction
  | single h _ => exact .both h h'
  | @both t₁ t₂ m₁ m₂ h _ _ ih =>
    rw [both_assoc, List.append_assoc, List.append_assoc]
    exact .both h (ih rfl)
  | only _ _ => contradiction
  | either _ _ _ _ => contradiction

variable {p : Predicate} {rest : List Predicate}

theorem of_all (h : ∀ q ∈ p :: rest, Says atoms .all q.description.toList (q.test ·)) :
    Says atoms .all (" and ".intercalate (p.description :: descriptions rest)).toList
      (testAll · (p :: rest)) := by
  induction rest generalizing p with
  | nil =>
    have hmeaning : (testAll · [p]) = (p.test ·) := by
      funext item
      rw [← test_conj_singleton, test]
    rw [hmeaning, descriptions, String.intercalate_singleton]
    exact h p List.mem_cons_self
  | cons q rest ih =>
    obtain ⟨hp, hrest⟩ := List.forall_mem_cons.1 h
    have hmeaning : (testAll · (p :: q :: rest))
        = Wording.both (p.test ·) (testAll · (q :: rest)) := rfl
    rw [hmeaning, descriptions, String.intercalate_cons_cons, String.toList_append,
      String.toList_append, List.append_assoc]
    exact hp.and (ih hrest)

theorem of_any (h : ∀ q ∈ p :: rest, Says atoms .all q.description.toList (q.test ·)) :
    Says atoms .any (" or ".intercalate (p.description :: descriptions rest)).toList
      (testAny · (p :: rest)) := by
  induction rest generalizing p with
  | nil =>
    have hmeaning : (testAny · [p]) = (p.test ·) := by
      funext item
      rw [← test_disj_singleton, test]
    rw [hmeaning, descriptions, String.intercalate_singleton]
    exact .only (h p List.mem_cons_self)
  | cons q rest ih =>
    obtain ⟨hp, hrest⟩ := List.forall_mem_cons.1 h
    have hmeaning : (testAny · (p :: q :: rest))
        = Wording.either (p.test ·) (testAny · (q :: rest)) := rfl
    rw [hmeaning, descriptions, String.intercalate_cons_cons, String.toList_append,
      String.toList_append, List.append_assoc]
    exact .either hp (ih hrest)

end Says

end Wording

namespace Predicate

/-- The description stands for parts that `and` joins, with nothing around them. -/
inductive IsJoined : Predicate → Prop
  | conj (p q : Predicate) (rest : List Predicate) : IsJoined (conj (p :: q :: rest))
  | conjSingleton {p : Predicate} (h : IsJoined p) : IsJoined (conj [p])
  | disjSingleton {p : Predicate} (h : IsJoined p) : IsJoined (disj [p])

/-- Put together by `and`, `or` and, from some predicates only, by `not`. -/
inductive Composed (atoms negatable : Set Predicate) : Predicate → Prop
  | atom {p : Predicate} (h : p ∈ atoms) : Composed atoms negatable p
  | neg {p : Predicate} (h : Composed atoms negatable p) (hp : p ∈ negatable) :
      Composed atoms negatable (neg p)
  | conj {ps : List Predicate} (h : ∀ p ∈ ps, Composed atoms negatable p) :
      Composed atoms negatable (conj ps)
  | disj {ps : List Predicate} (h : ∀ p ∈ ps, Composed atoms negatable p) :
      Composed atoms negatable (disj ps)

theorem Composed.mono {atoms atoms' negatable : Set Predicate} (hatoms : atoms ⊆ atoms')
    {p : Predicate} (h : Composed atoms negatable p) : Composed atoms' negatable p := by
  induction h with
  | atom h => exact .atom (hatoms h)
  | neg _ hp ih => exact .neg ih hp
  | conj _ ih => exact .conj ih
  | disj _ ih => exact .disj ih

open Wording

/-- Every predicate has its wording, and this is a single part unless `and` joins it. -/
theorem Composed.wording {atoms : Set Predicate} (hanything : anything ∈ atoms)
    (hnothing : nothing ∈ atoms) {p : Predicate}
    (h : Composed atoms {p | ¬ p.IsJoined} p) :
    Says atoms .all p.description.toList (p.test ·) ∧
      (¬ p.IsJoined → Says atoms .part p.description.toList (p.test ·)) := by
  induction h with
  | atom h => exact ⟨.single (.atom h), fun _ => .atom h⟩
  | @neg p h hp ih =>
    have hpart : Says atoms .part p.neg.description.toList (p.neg.test ·) := by
      rw [description, negDescription, String.toList_append]
      exact .neg (ih.2 hp)
    exact ⟨.single hpart, fun _ => hpart⟩
  | @conj ps h ih =>
    rcases ps with _ | ⟨p, _ | ⟨q, rest⟩⟩
    · have hpart : Says atoms .part anything.description.toList (anything.test ·) := .atom hanything
      exact ⟨.single hpart, fun _ => hpart⟩
    · obtain ⟨hall, hpart⟩ := ih p List.mem_cons_self
      simp only [description_conj_singleton, test_conj_singleton]
      exact ⟨hall, fun hjoined => hpart fun h => hjoined (.conjSingleton h)⟩
    · refine ⟨?_, fun hjoined => (hjoined (.conj p q rest)).elim⟩
      exact .of_all fun p hp => (ih p hp).1
  | @disj ps h ih =>
    rcases ps with _ | ⟨p, _ | ⟨q, rest⟩⟩
    · have hpart : Says atoms .part nothing.description.toList (nothing.test ·) := .atom hnothing
      exact ⟨.single hpart, fun _ => hpart⟩
    · obtain ⟨hall, hpart⟩ := ih p List.mem_cons_self
      simp only [description_disj_singleton, test_disj_singleton]
      exact ⟨hall, fun hjoined => hpart fun h => hjoined (.disjSingleton h)⟩
    · obtain ⟨hp, hrest⟩ := List.forall_mem_cons.1 ih
      have hpart : Says atoms .part (Predicate.disj (p :: q :: rest)).description.toList
          ((Predicate.disj (p :: q :: rest)).test ·) := by
        have htext : (Predicate.disj (p :: q :: rest)).description.toList
            = '(' :: (p.description.toList ++ (" or ".toList ++
              ((" or ".intercalate (descriptions (q :: rest))).toList ++ [')']))) := by
          simp [description, descriptions, disjDescription, String.intercalate_cons_cons]
        rw [htext]
        exact .group hp.1 (.of_any fun q hq => (hrest q hq).1)
      exact ⟨.single hpart, fun _ => hpart⟩

theorem legible_of_free {atoms : Set Predicate}
    (hfree : ∀ a ∈ atoms, ∀ mark ∈ ["and", "or", "not", "(", ")"],
      ¬ mark.toList <:+: a.description.toList)
    (hdistinct : Set.InjOn description ({anything, nothing} ∪ atoms)) :
    Legible ({anything, nothing} ∪ atoms) := by
  refine ⟨?_, hdistinct⟩
  rintro p ((rfl | rfl) | hp)
  · change IsPlain "anything"
    decide +kernel
  · change IsPlain "nothing"
    decide +kernel
  · exact isPlain_of_free (hfree p hp)

/-! Two parts to put predicates together from. -/

def calledA : Predicate := .ofNode (.simpleName "A")

def interfaces : Predicate := .ofNode .isInterface

theorem free_samples : ∀ a ∈ ({calledA, interfaces} : Set Predicate), a.description ≠ "" ∧
    ∀ mark ∈ ["and", "or", "not", "(", ")"], ¬ mark.toList <:+: a.description.toList := by
  have hfree : ∀ d ∈ [calledA, interfaces].map description, d ≠ "" ∧
      ∀ mark ∈ ["and", "or", "not", "(", ")"], ¬ mark.toList <:+: d.toList := by
    decide +kernel
  rintro a (rfl | rfl)
  · exact hfree _ (by simp)
  · exact hfree _ (by simp)

theorem injOn_samples :
    Set.InjOn description ({anything, nothing} ∪ {calledA, interfaces}) := by
  have hmem : ∀ p : Predicate, p ∈ ({anything, nothing} ∪ {calledA, interfaces} : Set Predicate) →
      p ∈ [anything, nothing, calledA, interfaces] := by
    rintro p ((rfl | rfl) | (rfl | rfl))
    · simp
    · simp
    · simp
    · simp
  intro p hp q hq
  exact List.inj_on_of_nodup_map (by decide +kernel) (hmem p hp) (hmem q hq)

theorem legible_samples : Legible ({anything, nothing} ∪ {calledA, interfaces}) :=
  legible_of_free (fun a ha => (free_samples a ha).2) injOn_samples

section
variable {negatable : Set Predicate}

theorem composed_calledA : Composed {calledA, interfaces} negatable calledA := .atom (by simp)

theorem composed_interfaces : Composed {calledA, interfaces} negatable interfaces := .atom (by simp)

theorem Composed.pair {atoms : Set Predicate} {p q : Predicate} (hp : Composed atoms negatable p)
    (hq : Composed atoms negatable q) : Composed atoms negatable (.conj [p, q]) :=
  .conj (by simp [hp, hq])

end

def groupedRight : Predicate :=
  conj [calledA, conj [neg interfaces, disj [calledA, interfaces]]]

def groupedLeft : Predicate :=
  conj [conj [calledA, neg interfaces], disj [calledA, interfaces]]

theorem composed_negation :
    Composed {calledA, interfaces} {p | ¬ p.IsJoined} interfaces.neg :=
  .neg composed_interfaces nofun

theorem composed_alternatives :
    Composed {calledA, interfaces} {p | ¬ p.IsJoined} (disj [calledA, interfaces]) :=
  .disj (by simp [composed_calledA, composed_interfaces])

theorem composed_groupedRight : Composed {calledA, interfaces} {p | ¬ p.IsJoined} groupedRight :=
  composed_calledA.pair (composed_negation.pair composed_alternatives)

theorem composed_groupedLeft : Composed {calledA, interfaces} {p | ¬ p.IsJoined} groupedLeft :=
  (composed_calledA.pair composed_negation).pair composed_alternatives

/-- Predicates that are put together from legible parts and negate nothing that `and` joins have the
same answer on every item if they are described in the same words. -/
theorem test_eq_of_description_eq {atoms : Set Predicate}
    (hatoms : Legible ({anything, nothing} ∪ atoms)) {p q : Predicate}
    (hp : Composed atoms {p | ¬ p.IsJoined} p) (hq : Composed atoms {p | ¬ p.IsJoined} q)
    (h : p.description = q.description) (item : Item) : p.test item = q.test item := by
  have hanything : anything ∈ {anything, nothing} ∪ atoms := by simp
  have hnothing : nothing ∈ {anything, nothing} ∪ atoms := by simp
  have hwording := ((hp.mono Set.subset_union_right).wording hanything hnothing).1
  have hwording' := ((hq.mono Set.subset_union_right).wording hanything hnothing).1
  have htext : p.description.toList ++ [] = q.description.toList ++ [] := by rw [h]
  have hmeaning := (hwording.unique hatoms hwording' (.inl rfl) (.inl rfl) htext).2
  exact congrFun hmeaning item

theorem test_eq_of_description_eq_regrouped :
    Legible ({anything, nothing} ∪ {calledA, interfaces}) ∧
      Composed {calledA, interfaces} {p | ¬ p.IsJoined} groupedRight ∧
      Composed {calledA, interfaces} {p | ¬ p.IsJoined} groupedLeft ∧
      groupedRight.description = groupedLeft.description ∧
      ∀ item, groupedRight.test item = groupedLeft.test item := by
  have h : groupedRight.description = groupedLeft.description := by decide +kernel
  exact ⟨legible_samples, composed_groupedRight, composed_groupedLeft, h,
    test_eq_of_description_eq legible_samples composed_groupedRight composed_groupedLeft h⟩

/-- What `not` is about cannot be told from the words. -/
theorem description_hides_meaning : ¬ ∀ (atoms : Set Predicate) (p q : Predicate),
    Set.InjOn description atoms →
    (∀ a ∈ atoms, a.description ≠ "" ∧
      ∀ mark ∈ ["and", "or", "not", "(", ")"], ¬ mark.toList <:+: a.description.toList) →
    Composed atoms Set.univ p → Composed atoms Set.univ q →
    p.description = q.description → ∀ item, p.test item = q.test item := by
  intro h
  have htest := h {calledA, interfaces} (neg (conj [calledA, interfaces]))
    (conj [neg calledA, interfaces]) (injOn_samples.mono Set.subset_union_right) free_samples
    (.neg (composed_calledA.pair composed_interfaces) (Set.mem_univ _))
    ((Composed.neg composed_calledA (Set.mem_univ _)).pair composed_interfaces)
    (by decide +kernel) (.node (Facts.Node.external "B"))
  exact absurd htest (by decide +kernel)

end Predicate

end Conformance
