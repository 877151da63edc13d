import Mathlib.Data.List.Forall2
import Conformance.Datum.Basic

/-! Mappings beside others that say the same under the same keys, and what is found in them. -/
namespace Conformance

theorem Scalar.same_text_iff {k : Scalar} {s : String} : k.same (.text s) = true ↔ k = .text s := by
  cases k with
  | float x =>
    cases hx : x.toInt? <;> simp [same, integer?, hx]
  | _ => simp [same, integer?]

def Entrywise (r : Scalar → Datum → Datum → Prop) : List (Scalar × Datum) →
    List (Scalar × Datum) → Prop :=
  List.Forall₂ fun e e' => e.1 = e'.1 ∧ r e.1 e.2 e'.2

/-- Entry by entry under the same keys, but that entries under optional keys may be left out where
they say null. No key that is left out occurs once more. -/
inductive Trimmed (optional : String → Prop) (r : Scalar → Datum → Datum → Prop) :
    List (Scalar × Datum) → List (Scalar × Datum) → Prop
  | nil : Trimmed optional r [] []
  | keep {key : Scalar} {d d' : Datum} {entries others : List (Scalar × Datum)} (h : r key d d')
      (hrest : Trimmed optional r entries others) :
      Trimmed optional r ((key, d) :: entries) ((key, d') :: others)
  | leave {key : String} {entries others : List (Scalar × Datum)} (hkey : optional key)
      (hlast : Datum.lookup? key entries = none) (hrest : Trimmed optional r entries others) :
      Trimmed optional r ((.text key, .null) :: entries) others

section
variable {optional : String → Prop} {r : Scalar → Datum → Datum → Prop}
  {entries others : List (Scalar × Datum)} {key : String}

theorem eq_of_rel {q : Datum → Datum → Prop} (hq : ∀ d d', q d d' → d' = d)
    {found found' : Option Datum} (h : Option.Rel q found found') : found' = found := by
  cases h with
  | none => rfl
  | some hd => rw [hq _ _ hd]

theorem Datum.lookup?_cons_of_eq (d : Datum) :
    lookup? key ((.text key, d) :: entries) = some d := by
  simp [lookup?]

theorem Datum.lookup?_cons_of_ne {k : Scalar} (h : k ≠ .text key) (d : Datum) :
    lookup? key ((k, d) :: entries) = lookup? key entries := by
  have hk : ¬ k.same (.text key) = true := fun hsame => h (Scalar.same_text_iff.1 hsame)
  simp [lookup?, hk]

theorem Entrywise.lookup? (h : Entrywise r entries others) (key : String) :
    Option.Rel (r (.text key)) (Datum.lookup? key entries) (Datum.lookup? key others) := by
  induction h with
  | nil => exact .none
  | @cons e e' _ _ he _ ih =>
    obtain ⟨k, d⟩ := e
    obtain ⟨_, d'⟩ := e'
    obtain ⟨rfl, hr⟩ := he
    by_cases hk : k = .text key
    · subst hk
      rw [Datum.lookup?_cons_of_eq, Datum.lookup?_cons_of_eq]
      exact .some hr
    · rw [Datum.lookup?_cons_of_ne hk, Datum.lookup?_cons_of_ne hk]
      exact ih

theorem Entrywise.lookup?_eq (h : Entrywise r entries others)
    (hr : ∀ d d', r (.text key) d d' → d' = d) :
    Datum.lookup? key others = Datum.lookup? key entries :=
  eq_of_rel hr (h.lookup? key)

theorem Entrywise.symm (h : Entrywise r entries others) (hr : ∀ {k d d'}, r k d d' → r k d' d) :
    Entrywise r others entries := by
  refine List.Forall₂.flip (h.imp fun e e' he => ?_)
  exact ⟨he.1.symm, he.1 ▸ hr he.2⟩

theorem Trimmed.lookup? (h : Trimmed optional r entries others) (key : String) :
    Option.Rel (r (.text key)) (Datum.lookup? key entries) (Datum.lookup? key others) ∨
      optional key ∧ Datum.lookup? key entries = some .null ∧ Datum.lookup? key others = none := by
  induction h with
  | nil => exact .inl .none
  | @keep k d d' _ _ hr _ ih =>
    by_cases hk : k = .text key
    · subst hk
      rw [Datum.lookup?_cons_of_eq, Datum.lookup?_cons_of_eq]
      exact .inl (.some hr)
    · rw [Datum.lookup?_cons_of_ne hk, Datum.lookup?_cons_of_ne hk]
      exact ih
  | @leave k entries others hkey hlast _ ih =>
    by_cases hk : k = key
    · subst hk
      rcases ih with hrel | ⟨_, hnull, _⟩
      · rw [hlast] at hrel
        generalize Datum.lookup? k others = found at hrel
        cases hrel
        exact .inr ⟨hkey, Datum.lookup?_cons_of_eq _, rfl⟩
      · rw [hlast] at hnull
        contradiction
    · rw [Datum.lookup?_cons_of_ne (by simpa using hk)]
      exact ih

theorem Trimmed.lookup?_eq_or (h : Trimmed optional r entries others)
    (hr : ∀ d d', r (.text key) d d' → d' = d) :
    Datum.lookup? key others = Datum.lookup? key entries ∨
      optional key ∧ Datum.lookup? key entries = some .null ∧ Datum.lookup? key others = none :=
  (h.lookup? key).imp_left (eq_of_rel hr)

theorem Trimmed.lookup?_eq (h : Trimmed optional r entries others)
    (hr : ∀ d d', r (.text key) d d' → d' = d) (hkey : ¬ optional key) :
    Datum.lookup? key others = Datum.lookup? key entries :=
  (h.lookup?_eq_or hr).resolve_right fun hleft => hkey hleft.1

theorem Trimmed.refl (hr : ∀ key d, r key d d) :
    ∀ entries : List (Scalar × Datum), Trimmed optional r entries entries
  | [] => .nil
  | (key, d) :: entries => .keep (hr key d) (refl hr entries)

end

end Conformance
