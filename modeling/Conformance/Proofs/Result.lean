import Mathlib.Data.List.Forall2

/-! Computations that give a value or fail: when several in a row succeed and with what, what they
can fail with, and when the success of one brings that of another with it. -/
namespace Conformance

variable {ε α β γ δ : Type}

theorem bind_eq_ok {x : Except ε α} {f : α → Except ε β} {b : β} :
    (x >>= f) = .ok b ↔ ∃ a, x = .ok a ∧ f a = .ok b := by
  cases x with
  | error e =>
    refine ⟨fun h => ?_, fun ⟨a, ha, _⟩ => ?_⟩
    · contradiction
    · contradiction
  | ok a => exact ⟨fun h => ⟨a, rfl, h⟩, fun ⟨_, ha, hb⟩ => Except.ok.inj ha ▸ hb⟩

theorem map_eq_ok {x : Except ε α} {f : α → β} {b : β} :
    f <$> x = .ok b ↔ ∃ a, x = .ok a ∧ f a = b := by
  cases x with
  | error e =>
    refine ⟨fun h => ?_, fun ⟨a, ha, _⟩ => ?_⟩
    · contradiction
    · contradiction
  | ok a =>
    refine ⟨fun h => ⟨a, rfl, Except.ok.inj h⟩, fun ⟨c, hc, hb⟩ => ?_⟩
    obtain rfl := Except.ok.inj hc
    exact congrArg Except.ok hb

theorem seq_eq_ok {x : Except ε Unit} {y : Except ε β} {b : β} :
    (x >>= fun _ => y) = .ok b ↔ x = .ok () ∧ y = .ok b := by
  rw [bind_eq_ok]
  exact ⟨fun ⟨(), h⟩ => h, fun h => ⟨(), h⟩⟩

theorem exists_eq_error_iff {x : Except ε Unit} : (∃ e, x = .error e) ↔ ¬ x = .ok () := by
  cases x with
  | error e => simp
  | ok _ => simp

theorem mapM_eq_ok_iff {f : α → Except ε β} {as : List α} {bs : List β} :
    as.mapM f = .ok bs ↔ List.Forall₂ (fun a b => f a = .ok b) as bs := by
  induction as generalizing bs with
  | nil =>
    rw [List.mapM_nil, List.forall₂_nil_left_iff]
    exact ⟨fun h => (Except.ok.inj h).symm, fun h => h ▸ rfl⟩
  | cons a as ih =>
    simp only [List.mapM_cons, bind_eq_ok, ih, List.forall₂_cons_left_iff]
    constructor
    · rintro ⟨b, hb, bs, hbs, h⟩
      exact ⟨b, bs, hb, hbs, (Except.ok.inj h).symm⟩
    · rintro ⟨b, bs, hb, hbs, rfl⟩
      exact ⟨b, hb, bs, hbs, rfl⟩

theorem mapM_eq_ok_iff_marked {f : α → Except ε β} {as : List α} {bs : List β} :
    as.mapM f = .ok bs ↔ ∃ marked : List (α × β), marked.map (·.1) = as ∧ marked.map (·.2) = bs ∧
      ∀ x ∈ marked, f x.1 = .ok x.2 := by
  rw [mapM_eq_ok_iff]
  constructor
  · intro h
    induction h with
    | nil => exact ⟨[], rfl, rfl, by simp⟩
    | @cons a b as bs hab _ ih =>
      obtain ⟨marked, rfl, rfl, hmarked⟩ := ih
      exact ⟨(a, b) :: marked, rfl, rfl, List.forall_mem_cons.2 ⟨hab, hmarked⟩⟩
  · rintro ⟨marked, rfl, rfl, hmarked⟩
    rw [List.forall₂_map_left_iff, List.forall₂_map_right_iff, List.forall₂_same]
    exact hmarked

theorem forall_mem_of_forall₂ {r : α → β → Prop} {p : β → Prop} (hr : ∀ a b, r a b → p b)
    {as : List α} {bs : List β} (h : List.Forall₂ r as bs) : ∀ b ∈ bs, p b := by
  induction h with
  | nil => simp
  | cons hab _ ih => exact List.forall_mem_cons.2 ⟨hr _ _ hab, ih⟩

theorem forall_mem_of_mapM_eq_ok {f : α → Except ε β} {p : β → Prop}
    (hf : ∀ a b, f a = .ok b → p b) {as : List α} {bs : List β} (h : as.mapM f = .ok bs) :
    ∀ b ∈ bs, p b :=
  forall_mem_of_forall₂ hf (mapM_eq_ok_iff.1 h)

theorem exists_mapM_eq_ok {f : α → Except ε β} {p : α → β → Prop} {as : List α}
    (h : ∀ a ∈ as, ∃ b, f a = .ok b ∧ p a b) : ∃ bs, as.mapM f = .ok bs ∧ List.Forall₂ p as bs := by
  induction as with
  | nil => exact ⟨[], rfl, .nil⟩
  | cons a as ih =>
    obtain ⟨⟨b, hb, hp⟩, has⟩ := List.forall_mem_cons.1 h
    obtain ⟨bs, hbs, hps⟩ := ih has
    exact ⟨b :: bs, mapM_eq_ok_iff.2 (.cons hb (mapM_eq_ok_iff.1 hbs)), .cons hp hps⟩

/-! What a computation can fail with. -/

section
variable {bad : ε → Prop}

/-- Whatever a computation fails with is of one kind. -/
def FailsOnlyBy (bad : ε → Prop) (x : Except ε α) : Prop := ∀ e, x = .error e → bad e

namespace FailsOnlyBy

theorem ok (a : α) : FailsOnlyBy bad (.ok a) := by
  intro e h
  contradiction

theorem error {e : ε} (h : bad e) : FailsOnlyBy (α := α) bad (.error e) := by
  intro _ he
  exact Except.error.inj he ▸ h

theorem bind {x : Except ε α} {f : α → Except ε β} (hx : FailsOnlyBy bad x)
    (hf : ∀ a, x = .ok a → FailsOnlyBy bad (f a)) : FailsOnlyBy bad (x >>= f) := by
  cases x with
  | error e => exact error (hx e rfl)
  | ok a => exact hf a rfl

theorem map {x : Except ε α} (h : FailsOnlyBy bad x) (f : α → β) : FailsOnlyBy bad (f <$> x) := by
  cases x with
  | error e => exact error (h e rfl)
  | ok a => exact ok (f a)

theorem ite {c : Prop} [Decidable c] {x y : Except ε α} (hx : c → FailsOnlyBy bad x)
    (hy : ¬ c → FailsOnlyBy bad y) : FailsOnlyBy bad (if c then x else y) := by
  by_cases hc : c
  · simpa only [if_pos hc] using hx hc
  · simpa only [if_neg hc] using hy hc

theorem weaken {worse : ε → Prop} {x : Except ε α} (h : FailsOnlyBy bad x)
    (hbad : ∀ e, bad e → worse e) : FailsOnlyBy worse x := by
  intro e he
  exact hbad e (h e he)

theorem mapM {f : α → Except ε β} {as : List α} (h : ∀ a ∈ as, FailsOnlyBy bad (f a)) :
    FailsOnlyBy bad (as.mapM f) := by
  induction as with
  | nil => exact ok []
  | cons a as ih =>
    obtain ⟨ha, has⟩ := List.forall_mem_cons.1 h
    rw [List.mapM_cons]
    exact ha.bind fun b _ => (ih has).bind fun bs _ => ok (b :: bs)

theorem exists_ok {x : Except ε α} (h : FailsOnlyBy (fun _ => False) x) : ∃ a, x = .ok a := by
  cases x with
  | error e => exact (h e rfl).elim
  | ok a => exact ⟨a, rfl⟩

end FailsOnlyBy

end

/-! What a computation gives, if it succeeds. -/

section
variable {r : α → Prop} {s : β → Prop}

/-- Whatever a computation gives is of one kind. -/
def Gives (r : α → Prop) (x : Except ε α) : Prop := ∀ a, x = .ok a → r a

namespace Gives

theorem ok {a : α} (h : r a) : Gives (ε := ε) r (.ok a) := by
  intro _ ha
  exact Except.ok.inj ha ▸ h

theorem error (e : ε) : Gives r (.error e) := by
  intro _ ha
  contradiction

theorem bind {x : Except ε α} {f : α → Except ε β} (hx : Gives r x)
    (hf : ∀ a, r a → Gives s (f a)) : Gives s (x >>= f) := by
  cases x with
  | error e => exact error e
  | ok a => exact hf a (hx a rfl)

theorem bind_any {x : Except ε α} {f : α → Except ε β} (hf : ∀ a, Gives s (f a)) :
    Gives s (x >>= f) :=
  bind (r := fun _ => True) (fun _ _ => trivial) fun a _ => hf a

theorem map {x : Except ε α} {f : α → β} (hx : Gives r x) (hf : ∀ a, r a → s (f a)) :
    Gives s (x.map f) := by
  cases x with
  | error e => exact error e
  | ok a => exact ok (hf a (hx a rfl))

theorem ite {c : Prop} [Decidable c] {x y : Except ε α} (hx : c → Gives r x)
    (hy : ¬ c → Gives r y) : Gives r (if c then x else y) :=
  iteInduction hx hy

theorem mapM {f : α → Except ε β} {as : List α} (h : ∀ a ∈ as, Gives s (f a)) :
    Gives (∀ b ∈ ·, s b) (as.mapM f) := by
  induction as with
  | nil => exact ok (by simp)
  | cons a as ih =>
    obtain ⟨ha, has⟩ := List.forall_mem_cons.1 h
    rw [List.mapM_cons]
    exact ha.bind fun b hb => (ih has).bind fun bs hbs => ok (List.forall_mem_cons.2 ⟨hb, hbs⟩)

end Gives

end

/-! What a computation succeeds on, and with what. -/

section
variable {p q : Prop} {r : α → Prop} {s : β → Prop}

/-- It succeeds exactly where `p` holds, with a result of which `r` holds. -/
structure Yields (x : Except ε α) (p : Prop) (r : α → Prop) : Prop where
  ok_iff : (∃ a, x = .ok a) ↔ p
  result : ∀ a, x = .ok a → r a

namespace Yields

theorem ok {a : α} (hp : p) (h : r a) : Yields (ε := ε) (.ok a) p r :=
  ⟨⟨fun _ => hp, fun _ => ⟨a, rfl⟩⟩, fun _ hb => Except.ok.inj hb ▸ h⟩

theorem error {e : ε} (hp : ¬ p) : Yields (.error e) p r := by
  refine ⟨⟨fun ⟨_, h⟩ => ?_, fun h => (hp h).elim⟩, fun _ h => ?_⟩
  · contradiction
  · contradiction

theorem congr {x : Except ε α} (h : Yields x p r) (hpq : p ↔ q) : Yields x q r :=
  ⟨h.ok_iff.trans hpq, h.result⟩

theorem bind {x : Except ε α} {f : α → Except ε β} (hx : Yields x p r)
    (hf : ∀ a, r a → Yields (f a) q s) : Yields (x >>= f) (p ∧ q) s := by
  cases x with
  | error e =>
    refine error fun h => ?_
    obtain ⟨a, ha⟩ := hx.ok_iff.2 h.1
    contradiction
  | ok a => exact (hf a (hx.result a rfl)).congr (and_iff_right (hx.ok_iff.1 ⟨a, rfl⟩)).symm

theorem mapM {f : α → Except ε β} {p : α → Prop} {t : α → β → Prop} {as : List α}
    (h : ∀ a ∈ as, Yields (f a) (p a) (t a)) :
    Yields (as.mapM f) (∀ a ∈ as, p a) (List.Forall₂ t as) := by
  induction as with
  | nil => exact ok (by simp) .nil
  | cons a as ih =>
    obtain ⟨ha, has⟩ := List.forall_mem_cons.1 h
    rw [List.mapM_cons]
    refine congr (.bind ha fun b hb => .bind (ih has) fun bs hbs => .ok trivial (.cons hb hbs)) ?_
    rw [and_true, List.forall_mem_cons]

end Yields

end

/-! One computation beside another. -/

section
variable {R : α → β → Prop} {S : γ → δ → Prop}

/-- Where the first result is a success so is the second, with related values. -/
def Covers (R : α → β → Prop) (x : Except ε α) (y : Except ε β) : Prop :=
  ∀ a, x = .ok a → ∃ b, y = .ok b ∧ R a b

namespace Covers

theorem refl (x : Except ε α) : Covers Eq x x := fun a h => ⟨a, h, rfl⟩

theorem ok {a : α} {b : β} (h : R a b) : Covers (ε := ε) R (.ok a) (.ok b) := by
  intro _ ha
  exact ⟨b, rfl, Except.ok.inj ha ▸ h⟩

theorem error (e : ε) (y : Except ε β) : Covers R (.error e) y := by
  intro _ ha
  contradiction

theorem bind {x : Except ε α} {y : Except ε β} {f : α → Except ε γ} {g : β → Except ε δ}
    (h : Covers R x y) (hf : ∀ a b, R a b → Covers S (f a) (g b)) :
    Covers S (x >>= f) (y >>= g) := by
  cases x with
  | error e => exact error e _
  | ok a =>
    obtain ⟨b, rfl, hR⟩ := h a rfl
    exact hf a b hR

theorem map {x : Except ε α} {y : Except ε β} {f : α → γ} {g : β → δ} (h : Covers R x y)
    (hf : ∀ a b, R a b → S (f a) (g b)) : Covers S (x.map f) (y.map g) := by
  cases x with
  | error e => exact error e _
  | ok a =>
    obtain ⟨b, rfl, hR⟩ := h a rfl
    exact ok (hf a b hR)

theorem ite {c : Prop} [Decidable c] {x x' : Except ε α} {y y' : Except ε β}
    (h : c → Covers R x y) (h' : ¬ c → Covers R x' y') :
    Covers R (if c then x else x') (if c then y else y') := by
  by_cases hc : c
  · simpa only [if_pos hc] using h hc
  · simpa only [if_neg hc] using h' hc

end Covers

/-- Where the first result is a success so is the second, with related values; where it is a failure
the second is the same one, unless failures may be mended. -/
structure Follows (mended : Prop) (R : α → β → Prop) (x : Except ε α) (y : Except ε β) :
    Prop where
  covers : Covers R x y
  error_eq : ¬ mended → ∀ e, x = .error e → y = .error e

namespace Follows

variable {mended : Prop}

theorem ok {a : α} {b : β} (h : R a b) : Follows (ε := ε) mended R (.ok a) (.ok b) := by
  refine ⟨.ok h, fun _ e he => ?_⟩
  contradiction

theorem error (e : ε) : Follows mended R (.error e) (.error e) := by
  refine ⟨.error e _, fun _ e' he => ?_⟩
  rw [Except.error.inj he]

theorem mend (h : mended) (e : ε) (y : Except ε β) : Follows mended R (.error e) y :=
  ⟨.error e y, fun hnot => absurd h hnot⟩

theorem refl {R : α → α → Prop} (hR : ∀ a, R a a) (x : Except ε α) : Follows mended R x x :=
  ⟨fun a ha => ⟨a, ha, hR a⟩, fun _ _ he => he⟩

theorem bind {x : Except ε α} {y : Except ε β} {f : α → Except ε γ} {g : β → Except ε δ}
    (h : Follows mended R x y) (hf : ∀ a b, R a b → Follows mended S (f a) (g b)) :
    Follows mended S (x >>= f) (y >>= g) := by
  refine ⟨h.covers.bind fun a b hab => (hf a b hab).covers, fun hnot e he => ?_⟩
  cases x with
  | error e' =>
    rw [h.error_eq hnot e' rfl]
    exact congrArg Except.error (Except.error.inj he)
  | ok a =>
    obtain ⟨b, rfl, hab⟩ := h.covers a rfl
    exact (hf a b hab).error_eq hnot e he

theorem bind_same (x : Except ε α) {f : α → Except ε γ} {g : α → Except ε δ}
    (hf : ∀ a, Follows mended S (f a) (g a)) : Follows mended S (x >>= f) (x >>= g) := by
  refine (refl (fun _ => rfl) x).bind ?_
  rintro a _ rfl
  exact hf a

theorem mapM {f : α → Except ε γ} {g : β → Except ε δ} {as : List α} {bs : List β}
    (h : List.Forall₂ R as bs) (hf : ∀ a b, R a b → Follows mended S (f a) (g b)) :
    Follows mended (List.Forall₂ S) (as.mapM f) (bs.mapM g) := by
  induction h with
  | nil => exact ok .nil
  | cons hab _ ih =>
    rw [List.mapM_cons, List.mapM_cons]
    exact (hf _ _ hab).bind fun c d hcd => ih.bind fun cs ds hcds => ok (.cons hcd hcds)

end Follows

end

end Conformance
