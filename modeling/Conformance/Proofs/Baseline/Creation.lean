import Conformance.Failure
import Conformance.Proofs.Baseline.Canonical
import Conformance.Proofs.Baseline.Steady

/-! Freezers that may not create baselines. Such a freezer leaves a store as it is and fails where
there is no baseline, unless it refreezes; then it records under the names that it is given, and no
other name comes by a baseline. -/
namespace Conformance.Baseline

def HasBaseline {σ : Type} [Store σ] (s : σ) (n : String) : Prop :=
  ∃ e : Entries, Store.load s n = .ok (some e)

/-- Whether storing under one name gives no other name a baseline. -/
def Confines (σ : Type) [Store σ] : Prop :=
  ∀ (s : σ) {m n : String} (signatures : List Signature), m ≠ n →
    HasBaseline (Store.store s n signatures).2 m → HasBaseline s m

section
variable {σ : Type} [Store σ]

theorem HasBaseline.of_load_eq {s t : σ} {n : String} (h : HasBaseline t n)
    (hload : Store.load t n = Store.load s n) : HasBaseline s n := by
  rwa [HasBaseline, hload] at h

theorem not_hasBaseline {s : σ} {n : String} (h : Store.load s n = .ok none) :
    ¬ HasBaseline s n := by
  rintro ⟨e, hload⟩
  simp [h] at hload

theorem Slots.confines (k : Slots σ Set.univ) : Confines σ := by
  intro s m n signatures hne h
  exact h.of_load_eq (k.load_congr
    (k.store_other s (Set.mem_univ m) (Set.mem_univ n) hne signatures))

end

theorem Directory.confines : Confines Directory := by
  intro d m n signatures hne h
  change HasBaseline (d.store n signatures).2 m at h
  cases he : Entries.ofSignatures n signatures with
  | error fault => rwa [d.store_eq_error he] at h
  | ok e =>
    by_cases hfile : fileName m = fileName n
    · have hslot := slot_store (d := d) he hfile
      cases hwritable : (d.slot m).isWritable with
      | true =>
        have hoccupant : (d.store n signatures).2.place.occupant? (fileName m)
            = some (.file (e.text n).toUTF8) :=
          (congrArg Slot.occupant hslot).trans (Slot.occupant_filled hwritable _)
        have hforeign : (d.store n signatures).2.load m
            = .error (.foreignFile m ((d.store n signatures).2.pathFor m)) := by
          simp only [load, Place.content?_eq_bind, hoccupant, Option.bind_some,
            Occupant.content?, Entries.ofContent_text_of_ne hne]
          rfl
        obtain ⟨_, hload⟩ := h
        exact absurd (hforeign.symm.trans hload) (by simp)
      | false =>
        rw [Slot.filled, if_neg (by simp [hwritable])] at hslot
        exact h.of_load_eq (filed.load_congr hslot)
    · exact h.of_load_eq (filed.load_congr (slot_store_of_ne he hfile))

theorem Impaired.confines {σ : Type} [Store σ] (address : String → String) (h : Confines σ) :
    Confines (Impaired σ address) := by
  intro s m n signatures hne ⟨e, hload⟩
  cases hread : s.unreadable (address m) with
  | some fault =>
    have hstill : (Store.store s n signatures).2.unreadable = s.unreadable := by
      cases hwrite : s.unwritable (address n) with
      | some fault => rw [store_of_unwritable hwrite]
      | none => rw [store_of_writable hwrite]
    rw [load_of_unreadable (hstill ▸ hread)] at hload
    contradiction
  | none =>
    cases hwrite : s.unwritable (address n) with
    | some fault =>
      rw [store_of_unwritable hwrite] at hload
      exact ⟨e, hload⟩
    | none =>
      rw [store_of_writable hwrite, load_of_readable (by exact hread)] at hload
      obtain ⟨found, hfound⟩ := h s.store signatures hne ⟨e, hload⟩
      exact ⟨found, (load_of_readable hread).trans hfound⟩

namespace Freezer

section
variable {σ : Type} [Store σ] {f : Freezer} (hcreates : f.allowsCreation = false)

def applyEach (f : Freezer) (s : σ) : List (String × List Violation) → σ
  | [] => s
  | c :: rest => f.applyEach (f.apply s c.1 c.2).2 rest

include hcreates

theorem records_iff_refreezes {s : σ} {n : String} : f.Records s n ↔ f.refreezes = true := by
  simp [Records, hcreates]

theorem hasBaseline_of_apply (hconfines : Confines σ) {s : σ} {m n : String}
    {violations : List Violation} (h : HasBaseline (f.apply s n violations).2 m) :
    HasBaseline s m ∨ f.refreezes = true ∧ m = n := by
  by_cases hrecords : f.Records s n
  · by_cases hname : m = n
    · exact .inr ⟨(records_iff_refreezes hcreates).1 hrecords, hname⟩
    · rw [apply_of_records hrecords, record_eq] at h
      exact .inl (hconfines s _ hname h)
  · rw [apply_of_not_records hrecords] at h
    exact .inl h

theorem hasBaseline_of_applyEach (hconfines : Confines σ) {s : σ} {n : String}
    {calls : List (String × List Violation)} (h : HasBaseline (f.applyEach s calls) n) :
    HasBaseline s n ∨ f.refreezes = true ∧ n ∈ calls.map Prod.fst := by
  induction calls generalizing s with
  | nil => exact .inl h
  | cons c rest ih =>
    rcases ih h with hfirst | ⟨hrefreezes, hrest⟩
    · rcases hasBaseline_of_apply hcreates hconfines hfirst with hbefore | ⟨hrefreezes, rfl⟩
      · exact .inl hbefore
      · exact .inr ⟨hrefreezes, List.mem_cons_self⟩
    · exact .inr ⟨hrefreezes, List.mem_cons_of_mem _ hrest⟩

variable (hrefreezes : f.refreezes = false)

include hrefreezes

theorem apply_eq_self (s : σ) (n : String) (violations : List Violation) :
    (f.apply s n violations).2 = s := by
  apply apply_of_not_records
  simp [records_iff_refreezes hcreates, hrefreezes]

theorem applyEach_eq_self (s : σ) (calls : List (String × List Violation)) :
    f.applyEach s calls = s := by
  induction calls with
  | nil => rfl
  | cons c rest ih => rw [applyEach, apply_eq_self hcreates hrefreezes, ih]

theorem apply_of_not_hasBaseline {s : σ} {n : String} (h : ¬ HasBaseline s n)
    (violations : List Violation) :
    ∃ fault, f.apply s n violations = (.error fault, s) ∧
      (Store.load s n = .ok none → fault = .creationDisabled n) := by
  cases hload : Store.load s n with
  | error fault => exact ⟨fault, by simp [apply, hload, hrefreezes], fun heq => by contradiction⟩
  | ok found =>
    cases found with
    | none =>
      exact ⟨.creationDisabled n, by simp [apply, hload, hrefreezes, hcreates], fun _ => rfl⟩
    | some e => exact absurd ⟨e, hload⟩ h

end

/-- What a freezer without leave to create keeps from happening in a store, whatever state that is
in: names come by a baseline only where they are refrozen. Without refreezing nothing changes at
all, and a name whose baseline is missing, or cannot be loaded, is refused. -/
structure Withholds (σ : Type) [Store σ] (f : Freezer) (calls : List (String × List Violation)) :
    Prop where
  hadBaseline : ∀ (s : σ) (n : String), HasBaseline (f.applyEach s calls) n →
    HasBaseline s n ∨ f.refreezes = true ∧ n ∈ calls.map Prod.fst
  unchanged : f.refreezes = false → ∀ s : σ, f.applyEach s calls = s
  refused : f.refreezes = false → ∀ (s : σ) (n : String) (violations : List Violation),
    ¬ HasBaseline s n → ∃ fault, f.apply s n violations = (.error fault, s) ∧
      (Store.load s n = .ok none → fault = .creationDisabled n)

/-- The same even if baselines at some addresses cannot be read or written. -/
def WithholdsImpaired (σ : Type) [Store σ] (address : String → String) (f : Freezer)
    (calls : List (String × List Violation)) : Prop :=
  f.Withholds σ calls ∧ f.Withholds (Impaired σ address) calls

section
variable {f : Freezer} (hcreates : f.allowsCreation = false)
  (calls : List (String × List Violation))

include hcreates

theorem withholds_of_confines {σ : Type} [Store σ] (hconfines : Confines σ) :
    f.Withholds σ calls where
  hadBaseline _ _ h := hasBaseline_of_applyEach hcreates hconfines h
  unchanged hrefreezes s := applyEach_eq_self hcreates hrefreezes s calls
  refused hrefreezes _ _ violations h := apply_of_not_hasBaseline hcreates hrefreezes h violations

theorem withholdsImpaired_of_confines {σ : Type} [Store σ] (address : String → String)
    (hconfines : Confines σ) : f.WithholdsImpaired σ address calls :=
  ⟨withholds_of_confines hcreates calls hconfines,
    withholds_of_confines hcreates calls (Impaired.confines address hconfines)⟩

/-- A freezer that may create no baseline creates none in memory, in a database and in a directory,
even if two names have the same file, but for the names that it refreezes. -/
theorem withholds_everywhere :
    (∀ fault, (Failure.baseline fault).kind = .baselineStore) ∧
      f.WithholdsImpaired Memory id calls ∧ f.WithholdsImpaired Database id calls ∧
      f.WithholdsImpaired Directory fileName calls := by
  refine ⟨fun _ => rfl, ?_, ?_, ?_⟩
  · exact withholdsImpaired_of_confines hcreates calls id (Memory.slots Set.univ).confines
  · exact withholdsImpaired_of_confines hcreates calls id (Database.slots Set.univ).confines
  · exact withholdsImpaired_of_confines hcreates calls fileName Directory.confines

end

def crossing : Violation := ⟨"layers", "app.a", "uses app.b"⟩

def layersFrozen : Memory := ⟨[("layers", .empty)]⟩

theorem withholds_crossing :
    (⟨false, false⟩ : Freezer).allowsCreation = false ∧
      apply ⟨false, false⟩ Memory.empty "layers" [crossing]
        = (.error (.creationDisabled "layers"), Memory.empty) ∧
      (⟨false, true⟩ : Freezer).allowsCreation = false ∧
      ¬ HasBaseline (applyEach ⟨false, true⟩ layersFrozen [("layers", [crossing])]) "cycles" := by
  obtain ⟨_, hmemory, _⟩ :=
    withholds_everywhere (f := ⟨false, false⟩) rfl [("layers", [crossing])]
  obtain ⟨_, hrefreezing, _⟩ :=
    withholds_everywhere (f := ⟨false, true⟩) rfl [("layers", [crossing])]
  refine ⟨rfl, ?_, rfl, fun h => ?_⟩
  · obtain ⟨_, happly, hfault⟩ := hmemory.1.refused rfl Memory.empty "layers" [crossing]
      (not_hasBaseline rfl)
    rw [happly, hfault rfl]
  · rcases hrefreezing.1.hadBaseline layersFrozen "cycles" h with hbefore | ⟨_, hmem⟩
    · exact not_hasBaseline rfl hbefore
    · exact absurd hmem (by decide)

/-- A freezer that refreezes does not ask whether it may create. -/
theorem refreezing_creates :
    ¬ ∀ (f : Freezer), f.allowsCreation = false →
      ∀ (m : Memory) (calls : List (String × List Violation)) (n : String),
        HasBaseline (f.applyEach m calls) n → HasBaseline m n := by
  intro h
  have hbefore : HasBaseline Memory.empty "layers" :=
    h ⟨false, true⟩ rfl Memory.empty [("layers", [])] "layers" ⟨.empty, rfl⟩
  exact not_hasBaseline rfl hbefore

end Freezer

end Conformance.Baseline
