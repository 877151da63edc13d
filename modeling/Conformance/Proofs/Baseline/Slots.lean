import Conformance.Baseline.Freezer
import Conformance.Proofs.Baseline.Database
import Conformance.Proofs.Baseline.Directory

/-! Stores name by name, in whatever state they are. What a store does under a name goes by the
slot of that name alone, and the slots of the other names in use stay as they are. So it is for
memory, for files under different names and for a database, and so for what a freezer does. -/
namespace Conformance.Baseline

/-- How a store falls into slots, one for each name in use. -/
structure Slots (σ : Type) [Store σ] (names : Set String) where
  Slot : Type
  slot : σ → String → Slot
  load_congr : ∀ {s t : σ} {n}, slot s n = slot t n → Store.load s n = Store.load t n
  store_congr : ∀ {s t : σ} {n}, slot s n = slot t n → ∀ signatures,
    (Store.store s n signatures).1 = (Store.store t n signatures).1 ∧
      slot (Store.store s n signatures).2 n = slot (Store.store t n signatures).2 n
  store_other : ∀ (s : σ) {m n}, m ∈ names → n ∈ names → m ≠ n → ∀ signatures,
    slot (Store.store s n signatures).2 m = slot s m

structure Slots.Same {σ : Type} [Store σ] {names : Set String} (k : Slots σ names) (s t : σ)
    (n : String) : Prop where
  slot : k.slot t n = k.slot s n
  load : Store.load t n = Store.load s n

theorem Slots.same_of_slot {σ : Type} [Store σ] {names : Set String} (k : Slots σ names) {s t : σ}
    {n : String} (h : k.slot t n = k.slot s n) : k.Same s t n := ⟨h, k.load_congr h⟩

def Memory.slots (names : Set String) : Slots Memory names where
  Slot := Option Entries
  slot m n := m.kept.find? n
  load_congr h := congrArg Except.ok h
  store_congr {s t n} h signatures := by
    cases he : Entries.ofSignatures n signatures with
    | error fault => simpa [Store.store, Memory.store_eq_error _ he] using h
    | ok e => simp [Store.store, Memory.store_eq_ok _ he]
  store_other s {m n} _ _ hne signatures := by
    cases he : Entries.ofSignatures n signatures with
    | error fault => simp [Store.store, s.store_eq_error he]
    | ok e => simp [Store.store, s.store_eq_ok he, Named.find?_put_of_ne hne]

/-! The slot of a name in a directory is its file, with all that decides whether it can be
written. -/

structure Directory.Slot where
  path : Path
  trouble : Option WriteStep
  usable : Bool
  occupant : Option Occupant

def Directory.slot (d : Directory) (n : String) : Directory.Slot :=
  ⟨d.path, d.trouble, d.place.make?.isSome, d.place.occupant? (fileName n)⟩

def Directory.slots {names : Set String} (apart : names.InjOn fileName) : Slots Directory names where
  Slot := Directory.Slot
  slot := Directory.slot
  load_congr {s t n} h := by
    obtain ⟨hpath, _, _, hoccupant⟩ := Directory.Slot.mk.inj h
    simp [Store.load, Directory.load, Place.content?_eq_bind, hoccupant, Directory.pathFor, hpath]
  store_congr {s t n} h signatures := by
    obtain ⟨hpath, htrouble, husable, hoccupant⟩ := Directory.Slot.mk.inj h
    cases he : Entries.ofSignatures n signatures with
    | error fault => simpa [Store.store, Directory.store_eq_error _ he] using h
    | ok e =>
      have hdone : ∀ content, (s.place.write t.trouble (fileName n) content).1
          = (t.place.write t.trouble (fileName n) content).1 := by
        intro content
        simp only [Place.write_done, husable, hoccupant]
      simp [Store.store, Directory.store, he, Directory.slot, Place.isSome_make?_write,
        Place.occupant?_write, hdone, hpath, htrouble, husable, hoccupant, Directory.pathFor]
  store_other s {m n} hm hn hne signatures := by
    have hfile : fileName m ≠ fileName n := fun heq => hne (apart hm hn heq)
    cases he : Entries.ofSignatures n signatures with
    | error fault => simp [Store.store, s.store_eq_error he]
    | ok e =>
      simp [Store.store, Directory.store, he, Directory.slot, Place.isSome_make?_write,
        Place.occupant?_write, hfile]

/-! The slot of a name in a database is its share of the tables. -/

theorem none_or_some_of_map_eq {α β : Type} {f : α → β} {x y : Option α}
    (h : x.map f = y.map f) :
    x = none ∧ y = none ∨ ∃ a b, x = some a ∧ y = some b ∧ f a = f b := by
  cases x <;> cases y <;> simp_all

structure Database.Slot where
  isOpen : Bool
  trouble : Option Nat
  share : Option Tables.Share

def Database.slot (d : Database) (n : String) : Database.Slot :=
  ⟨d.isOpen, d.trouble, (tables? d.file).map (·.share n)⟩

@[simp] theorem Database.tables?_tables (t : Tables) : tables? (.tables t) = some t := rfl

def Database.written? (d : Database) (n : String) (e : Entries) : Option Tables :=
  (tables? d.file).bind (Tables.executeAll d.trouble · (Tables.replacement n e.pairs))

theorem Database.store_of_entries (d : Database) {n : String} {signatures : List Signature}
    {e : Entries} (h : Entries.ofSignatures n signatures = .ok e) :
    d.store n signatures =
      if d.isOpen = false then (.error .notOpen, d)
      else match d.written? n e with
        | some t => (.ok (), { d with file := .tables t })
        | none => (.error (.cannotWrite n), d) := by
  simp only [Database.store, h, Bool.not_eq_true']
  rfl

theorem Database.map_share_written? {d t : Database} {n : String} (h : d.slot n = t.slot n)
    (e : Entries) : (d.written? n e).map (·.share n) = (t.written? n e).map (·.share n) := by
  obtain ⟨_, htrouble, hshare⟩ := Database.Slot.mk.inj h
  rw [written?, written?, htrouble]
  rcases none_or_some_of_map_eq hshare with ⟨hd, ht⟩ | ⟨u, v, hd, ht, huv⟩
  · rw [hd, ht]
  · rw [hd, ht, Option.bind_some, Option.bind_some,
      Tables.map_share_executeAll _ u n e.nodup_pairs,
      Tables.map_share_executeAll _ v n e.nodup_pairs, huv]

def Database.slots (names : Set String) : Slots Database names where
  Slot := Database.Slot
  slot := Database.slot
  load_congr {s t n} h := by
    obtain ⟨hopen, _, hshare⟩ := Database.Slot.mk.inj h
    simp only [Store.load, Database.load, hopen]
    rcases none_or_some_of_map_eq hshare with ⟨hs, ht⟩ | ⟨u, v, hs, ht, huv⟩
    · rw [hs, ht]
    · rw [hs, ht, Option.bind_some, Option.bind_some, Tables.lookup_congr huv]
  store_congr {s t n} h signatures := by
    obtain ⟨hopen, htrouble, _⟩ := Database.Slot.mk.inj h
    cases he : Entries.ofSignatures n signatures with
    | error fault => simpa [Store.store, Database.store_eq_error _ he] using h
    | ok e =>
      have hwritten := Database.map_share_written? h e
      simp only [Store.store, Database.store_of_entries _ he, hopen]
      split
      · exact ⟨rfl, h⟩
      · rcases none_or_some_of_map_eq hwritten with ⟨hs, ht⟩ | ⟨u, v, hs, ht, huv⟩
        · rw [hs, ht]
          exact ⟨rfl, h⟩
        · simp [hs, ht, Database.slot, htrouble, huv]
  store_other s {m n} _ _ hne signatures := by
    cases he : Entries.ofSignatures n signatures with
    | error fault => simp [Store.store, s.store_eq_error he]
    | ok e =>
      simp only [Store.store, s.store_of_entries he]
      split
      · rfl
      · cases hwritten : s.written? n e with
        | none => rfl
        | some u =>
          obtain ⟨t, ht, hu⟩ := Option.bind_eq_some_iff.1 hwritten
          simp [Database.slot, ht, Tables.share_of_executeAll hne e.nodup_pairs hu]

/-! What a freezer does to a store. -/

namespace Freezer

variable {σ : Type} [Store σ] {f : Freezer} {s : σ} {n : String}

theorem record_eq (s : σ) (n : String) (violations : List Violation) :
    record s n violations =
      ((Store.store s n (violations.map Violation.signature)).1.map fun _ => [],
        (Store.store s n (violations.map Violation.signature)).2) := by
  rw [record, freeze]
  rcases Store.store s n (violations.map Violation.signature) with ⟨_ | _, t⟩ <;> rfl

/-- Freezing records a baseline where it refreezes, or where there is none and it may create one. -/
def Records (f : Freezer) (s : σ) (n : String) : Prop :=
  f.refreezes = true ∨ f.allowsCreation = true ∧ Store.load s n = .ok none

theorem apply_of_records (h : f.Records s n) (violations : List Violation) :
    f.apply s n violations = record s n violations := by
  rw [apply]
  split
  · rfl
  · next hnot =>
    obtain ⟨hallows, hload⟩ := h.resolve_left hnot
    rw [hload]
    exact if_pos hallows

theorem apply_cases (h : ¬ f.Records s n) :
    (∃ fault, ∀ violations, f.apply s n violations = (.error fault, s)) ∨
      ∃ e : Entries, ∀ violations, f.apply s n violations =
        (.ok (violations.filter fun v => !e.accepts n v.signature), s) := by
  obtain ⟨hrefreezes, hcreates⟩ := not_or.1 h
  cases hload : Store.load s n with
  | error fault => exact .inl ⟨fault, fun _ => by rw [apply, if_neg hrefreezes, hload]⟩
  | ok found =>
    cases found with
    | some e => exact .inr ⟨e, fun _ => by rw [apply, if_neg hrefreezes, hload]⟩
    | none =>
      have hallows : ¬ f.allowsCreation = true := fun hallows => hcreates ⟨hallows, hload⟩
      refine .inl ⟨.creationDisabled n, fun _ => ?_⟩
      rw [apply, if_neg hrefreezes, hload]
      exact if_neg hallows

theorem apply_of_not_records (h : ¬ f.Records s n) (violations : List Violation) :
    (f.apply s n violations).2 = s := by
  rcases apply_cases h with ⟨_, happly⟩ | ⟨_, happly⟩ <;> rw [happly]

end Freezer

namespace Slots

variable {σ : Type} [Store σ] {names : Set String} (k : Slots σ names)

theorem record_congr {s t : σ} {n : String} (h : k.slot s n = k.slot t n)
    (violations : List Violation) :
    (Freezer.record s n violations).1 = (Freezer.record t n violations).1 ∧
      k.slot (Freezer.record s n violations).2 n = k.slot (Freezer.record t n violations).2 n := by
  obtain ⟨hresult, hslot⟩ := k.store_congr h (violations.map Violation.signature)
  rw [Freezer.record_eq, Freezer.record_eq, hresult]
  exact ⟨rfl, hslot⟩

theorem apply_congr (f : Freezer) {s t : σ} {n : String} (h : k.slot s n = k.slot t n)
    (violations : List Violation) :
    (f.apply s n violations).1 = (f.apply t n violations).1 ∧
      k.slot (f.apply s n violations).2 n = k.slot (f.apply t n violations).2 n := by
  have hrecord := k.record_congr h violations
  rw [Freezer.apply, Freezer.apply, k.load_congr h]
  split
  · exact hrecord
  · rcases Store.load t n with _ | _ | e
    · exact ⟨rfl, h⟩
    · dsimp only
      split
      · exact hrecord
      · exact ⟨rfl, h⟩
    · exact ⟨rfl, h⟩

theorem apply_other (f : Freezer) (s : σ) {m n : String} (hm : m ∈ names) (hn : n ∈ names)
    (hne : m ≠ n) (violations : List Violation) :
    k.slot (f.apply s n violations).2 m = k.slot s m := by
  by_cases hrecords : f.Records s n
  · rw [Freezer.apply_of_records hrecords, Freezer.record_eq]
    exact k.store_other s hm hn hne _
  · rw [Freezer.apply_of_not_records hrecords]

end Slots

end Conformance.Baseline
