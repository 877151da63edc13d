import Conformance.Proofs.Baseline.Slots

/-! Stores that answer in the same way when they are asked again. What was stored is loaded and can
be stored once more; what could not be stored has changed nothing. Memory, directories and databases
are like that in every state, also with names that cannot be read or written. In a directory two
names may have the same file: then a baseline of the one is foreign to the other, and either both
can be written or neither. -/
namespace Conformance.Baseline

theorem Entries.accepts_of_ofSignatures {rule : String} {signatures : List Signature} {e : Entries}
    (h : ofSignatures rule signatures = .ok e) : ∀ s ∈ signatures, e.accepts rule s = true := by
  intro s hs
  cases hfind : signatures.find? fun s => s.rule != rule with
  | some other =>
    rw [ofSignatures_eq_error hfind] at h
    contradiction
  | none =>
    have hrule : ∀ x ∈ signatures, x.rule = rule := by simpa using hfind
    rw [ofSignatures_eq_ok hrule] at h
    obtain rfl := Except.ok.inj h
    rw [accepts_iff, signatureSet_ofPairs hrule, List.mem_toFinset]
    exact hs

section
variable {σ : Type} [Store σ] {names : Set String}

/-- Whether names of one address share a slot, what is stored under a name is found there and can be
stored again, also after something was stored under another name of the address, and what cannot be
stored changes nothing. -/
structure Slots.Steady (k : Slots σ names) (address : String → String) : Prop where
  slot_eq : ∀ (s : σ) {m n}, address m = address n → k.slot s m = k.slot s n
  slot_other : ∀ (s : σ) {m n x e}, address m ≠ address n → Entries.ofSignatures n x = .ok e →
    k.slot (Store.store s n x).2 m = k.slot s m
  load_eq_none : ∀ {s : σ} {m n}, address m = address n → Store.load s m = .ok none →
    Store.load s n = .ok none
  slot_of_failed : ∀ {s : σ} {n x e}, Entries.ofSignatures n x = .ok e →
    (Store.store s n x).1 ≠ .ok () → k.slot (Store.store s n x).2 n = k.slot s n
  load_of_stored : ∀ {s : σ} {n x e}, Entries.ofSignatures n x = .ok e →
    (Store.store s n x).1 = .ok () → Store.load s n = .ok none →
    Store.load (Store.store s n x).2 n = .ok (some e)
  stored_of_stored : ∀ {s : σ} {m n x y e f}, address m = address n → m ≠ n →
    Entries.ofSignatures m x = .ok e → Entries.ofSignatures n y = .ok f →
    (Store.store s m x).1 = .ok () → (Store.store s n y).1 = .ok ()
  store_store : ∀ (s : σ) {m n x y e f}, address m = address n → (m = n → x = y) →
    Entries.ofSignatures m x = .ok e → Entries.ofSignatures n y = .ok f →
    (Store.store (Store.store s m x).2 n y).1 = (Store.store s n y).1 ∧
      k.slot (Store.store (Store.store s m x).2 n y).2 n = k.slot (Store.store s n y).2 n

theorem Slots.steady_id (k : Slots σ Set.univ)
    (slot_of_failed : ∀ {s : σ} {n x e}, Entries.ofSignatures n x = .ok e →
      (Store.store s n x).1 ≠ .ok () → k.slot (Store.store s n x).2 n = k.slot s n)
    (load_of_stored : ∀ {s : σ} {n x e}, Entries.ofSignatures n x = .ok e →
      (Store.store s n x).1 = .ok () → Store.load s n = .ok none →
      Store.load (Store.store s n x).2 n = .ok (some e))
    (store_again : ∀ {s : σ} {n x e}, Entries.ofSignatures n x = .ok e →
      (Store.store s n x).1 = .ok () → (Store.store (Store.store s n x).2 n x).1 = .ok () ∧
        k.slot (Store.store (Store.store s n x).2 n x).2 n = k.slot (Store.store s n x).2 n) :
    k.Steady id where
  slot_eq := by
    rintro s m n rfl
    rfl
  slot_other s {m n x e} hne _ := k.store_other s (Set.mem_univ m) (Set.mem_univ n) hne x
  load_eq_none := by
    rintro s m n rfl h
    exact h
  slot_of_failed := slot_of_failed
  load_of_stored := load_of_stored
  stored_of_stored h hne := absurd h hne
  store_store s {m n x y e f} h hsame he _ := by
    obtain rfl : m = n := h
    obtain rfl := hsame rfl
    by_cases hstored : (Store.store s m x).1 = .ok ()
    · obtain ⟨hagain, hslot⟩ := store_again he hstored
      exact ⟨hagain.trans hstored.symm, hslot⟩
    · exact k.store_congr (slot_of_failed he hstored) x

end

theorem Memory.steady : (Memory.slots Set.univ).Steady id := by
  refine Slots.steady_id _ ?_ ?_ ?_
  · intro m n x e he hfailed
    exact absurd (congrArg Prod.fst (m.store_eq_ok he)) hfailed
  · intro m n x e he _ _
    change Except.ok ((m.store n x).2.kept.find? n) = _
    rw [m.store_eq_ok he]
    exact congrArg Except.ok (Named.find?_put_self n e m.kept)
  · intro m n x e he _
    simp [Store.store, Memory.store_eq_ok _ he, Memory.slots]

namespace Directory

def written (d : Directory) (n : String) (e : Entries) : Bool × Place :=
  d.place.write d.trouble (fileName n) (e.text n).toUTF8

def Slot.isWritable (x : Slot) : Bool :=
  x.trouble.isNone && x.usable && !x.occupant.any Occupant.isDirectory

def Slot.filled (x : Slot) (content : ByteArray) : Slot :=
  if x.isWritable then { x with occupant := some (.file content) } else x

@[simp] theorem Slot.isWritable_filled (x : Slot) (content : ByteArray) :
    (x.filled content).isWritable = x.isWritable := by
  cases h : x.isWritable with
  | false => rw [filled, if_neg (by simp [h]), h]
  | true =>
    rw [filled, if_pos h]
    simp only [isWritable, Bool.and_eq_true] at h ⊢
    exact ⟨h.1, rfl⟩

theorem Slot.occupant_filled {x : Slot} (h : x.isWritable = true) (content : ByteArray) :
    (x.filled content).occupant = some (.file content) := by
  rw [filled, if_pos h]

@[simp] theorem Slot.filled_filled (x : Slot) (content later : ByteArray) :
    (x.filled content).filled later = x.filled later := by
  rw [filled, isWritable_filled]
  cases h : x.isWritable <;> simp [filled, h]

theorem slot_eq {m n : String} (h : fileName m = fileName n) (d : Directory) :
    d.slot m = d.slot n := by
  rw [slot, slot, h]

section
variable {d : Directory} {m n : String} {x : List Signature} {e : Entries}
  (he : Entries.ofSignatures n x = .ok e)

include he

theorem store_eq : d.store n x =
    (if (d.slot n).isWritable then .ok () else .error (.cannotWriteFile n (d.pathFor n)),
      { d with place := (d.written n e).2 }) := by
  have hdone : (d.written n e).1 = (d.slot n).isWritable := Place.write_done _ _ _ _
  rw [Directory.store, he, ← hdone]
  rfl

theorem stored_iff : (d.store n x).1 = .ok () ↔ (d.slot n).isWritable = true := by
  rw [store_eq he]
  cases (d.slot n).isWritable <;> simp

theorem slot_store (hfile : fileName m = fileName n) :
    (d.store n x).2.slot m = (d.slot m).filled (e.text n).toUTF8 := by
  have husable : (d.written n e).2.make?.isSome = d.place.make?.isSome :=
    Place.isSome_make?_write _ _ _ _
  have hoccupant : (d.written n e).2.occupant? (fileName m) =
      if (d.written n e).1 = true ∧ fileName m = fileName n then some (.file (e.text n).toUTF8)
      else d.place.occupant? (fileName m) := Place.occupant?_write _ _ _ _ _
  have hdone : (d.written n e).1 = (d.slot m).isWritable := by
    rw [slot_eq hfile]
    exact Place.write_done _ _ _ _
  rw [hdone] at hoccupant
  rw [store_eq he, Slot.filled]
  cases hwritable : (d.slot m).isWritable with
  | false =>
    rw [hwritable, if_neg (by simp)] at hoccupant
    simp [slot, husable, hoccupant]
  | true =>
    rw [hwritable, if_pos ⟨rfl, hfile⟩] at hoccupant
    simp [slot, husable, hoccupant]

theorem slot_store_of_ne (hfile : fileName m ≠ fileName n) : (d.store n x).2.slot m = d.slot m := by
  simp [store_eq he, written, slot, Place.isSome_make?_write, Place.occupant?_write, hfile]

end

theorem load_eq_none_iff {d : Directory} {n : String} :
    d.load n = .ok none ↔ d.place.content? (fileName n) = none := by
  rw [load]
  cases d.place.content? (fileName n) with
  | none => simp
  | some content =>
    dsimp only
    cases Entries.ofContent n (d.pathFor n) content <;> simp [bind, Except.bind, pure, Except.pure]

def filed : Slots Directory ∅ := Directory.slots (Set.injOn_empty fileName)

theorem steady : filed.Steady fileName where
  slot_eq d _ _ h := d.slot_eq h
  slot_other d _ _ _ _ hne he := slot_store_of_ne he hne
  load_eq_none {d m n} h hload := load_eq_none_iff.2 (h ▸ load_eq_none_iff.1 hload)
  slot_of_failed {d n x e} he hfailed := by
    have hnot : ¬ (d.slot n).isWritable = true := fun h => hfailed ((stored_iff he).2 h)
    exact (slot_store he rfl).trans (if_neg hnot)
  load_of_stored {d n x e} he hstored _ := by
    have hoccupant := congrArg Slot.occupant (slot_store (d := d) he (m := n) rfl)
    rw [Slot.occupant_filled ((stored_iff he).1 hstored)] at hoccupant
    exact load_eq_of_file hoccupant
  stored_of_stored {d m n x y e f} hfile _ he hf hstored := by
    have hwritable := (stored_iff he).1 hstored
    exact (stored_iff hf).2 (slot_eq hfile d ▸ hwritable)
  store_store d {m n x y e f} hfile _ he hf := by
    have hslot : (d.store m x).2.slot n = (d.slot n).filled (e.text m).toUTF8 :=
      slot_store he hfile.symm
    have hpath : (d.store m x).2.pathFor n = d.pathFor n := by
      rw [store_eq he]
      rfl
    constructor
    · change ((d.store m x).2.store n y).1 = (d.store n y).1
      rw [store_eq hf, store_eq hf, hslot, Slot.isWritable_filled, hpath]
    · change ((d.store m x).2.store n y).2.slot n = (d.store n y).2.slot n
      rw [slot_store hf rfl, slot_store hf rfl, hslot, Slot.filled_filled]

end Directory

namespace Tables

theorem share_of_executeAll_self {trouble : Option Nat} {t u : Tables} {n : String} {e : Entries}
    (h : executeAll trouble t (replacement n e.pairs) = some u) :
    u.share n = ⟨some true, some (rowsOf n e.pairs)⟩ ∧
      trouble.any (· ≤ (replacement n e.pairs).length) = false := by
  have hshare := map_share_executeAll trouble t n e.nodup_pairs
  rw [h] at hshare
  split at hshare
  · contradiction
  · next hnot =>
    simp only [Bool.or_eq_true, not_or, Bool.not_eq_true] at hnot
    exact ⟨Option.some.inj hshare, hnot.1.1⟩

theorem exists_executeAll_again {trouble : Option Nat} {t u : Tables} {n : String} {e : Entries}
    (h : executeAll trouble t (replacement n e.pairs) = some u) :
    ∃ v, executeAll trouble u (replacement n e.pairs) = some v ∧ v.share n = u.share n := by
  obtain ⟨hshare, hspared⟩ := share_of_executeAll_self h
  have hmap := map_share_executeAll trouble u n e.nodup_pairs
  rw [hspared, hshare] at hmap
  obtain ⟨v, hv, _⟩ := Option.map_eq_some_iff.1 hmap
  exact ⟨v, hv, (share_of_executeAll_self hv).1.trans hshare.symm⟩

end Tables

namespace Database

section
variable {d : Database} {n : String} {x : List Signature} {e : Entries}
  (he : Entries.ofSignatures n x = .ok e)

include he

theorem store_of_written? (hopen : d.isOpen = true) {t : Tables} (h : d.written? n e = some t) :
    d.store n x = (.ok (), { d with file := .tables t }) := by
  rw [store_of_entries d he, hopen, h]
  rfl

theorem store_cases : (d.isOpen = true ∧ ∃ t, d.written? n e = some t ∧
    d.store n x = (.ok (), { d with file := .tables t })) ∨
    ∃ fault, d.store n x = (.error fault, d) := by
  have hstore := store_of_entries d he
  cases hopen : d.isOpen with
  | false => exact .inr ⟨.notOpen, by rw [hstore, if_pos hopen]⟩
  | true =>
    cases hwritten : d.written? n e with
    | none => exact .inr ⟨.cannotWrite n, by rw [hstore, if_neg (by simp [hopen]), hwritten]⟩
    | some t => exact .inl ⟨rfl, t, rfl, by rw [store_of_written? he hopen hwritten, hopen]⟩

end

theorem steady : (Database.slots Set.univ).Steady id := by
  refine Slots.steady_id _ ?_ ?_ ?_
  · intro d n x e he hfailed
    rcases store_cases (d := d) he with ⟨_, _, _, hstore⟩ | ⟨fault, hstore⟩
    · exact absurd (congrArg Prod.fst hstore) hfailed
    · exact congrArg (fun r => Database.slot r.2 n) hstore
  · intro d n x e he hstored _
    rcases store_cases (d := d) he with ⟨hopen, t, hwritten, hstore⟩ | ⟨fault, hstore⟩
    · obtain ⟨_, _, hall⟩ := Option.bind_eq_some_iff.1 hwritten
      have hlookup := Tables.lookup_of_share (Tables.share_of_executeAll_self hall).1
      change (d.store n x).2.load n = _
      simp [hstore, load, hopen, hlookup]
    · exact absurd ((congrArg Prod.fst hstore).symm.trans hstored) (by simp)
  · intro d n x e he hstored
    rcases store_cases (d := d) he with ⟨hopen, t, hwritten, hstore⟩ | ⟨fault, hstore⟩
    · obtain ⟨_, _, hall⟩ := Option.bind_eq_some_iff.1 hwritten
      obtain ⟨u, hu, hshare⟩ := Tables.exists_executeAll_again hall
      have hagain := store_of_written? (d := { d with file := .tables t }) he hopen hu
      change ((d.store n x).2.store n x).1 = .ok () ∧
        ((d.store n x).2.store n x).2.slot n = (d.store n x).2.slot n
      rw [hstore, hagain]
      exact ⟨rfl, by simp [slot, hshare]⟩
    · exact absurd ((congrArg Prod.fst hstore).symm.trans hstored) (by simp)

end Database

/-! Names that cannot be read or written. -/

/-- A store where some addresses cannot be read or cannot be written. Every name kept at such an
address meets with a fault, the same one each time, and nothing is changed by it. -/
structure Impaired (σ : Type) (address : String → String) where
  store : σ
  unreadable : String → Option (String → Fault)
  unwritable : String → Option (String → Fault)

namespace Impaired

variable {σ : Type} [Store σ] {names : Set String} {address : String → String}

instance : Store (Impaired σ address) where
  prepare s := ((Store.prepare s.store).1, { s with store := (Store.prepare s.store).2 })
  release s := { s with store := Store.release s.store }
  load s n :=
    match s.unreadable (address n) with
    | some fault => .error (fault n)
    | none => Store.load s.store n
  store s n signatures :=
    match s.unwritable (address n) with
    | some fault => (.error (fault n), s)
    | none => ((Store.store s.store n signatures).1,
        { s with store := (Store.store s.store n signatures).2 })

section
variable {s : Impaired σ address} {n : String} {fault : String → Fault}

theorem load_of_unreadable (h : s.unreadable (address n) = some fault) :
    Store.load s n = .error (fault n) := by
  simp only [Store.load, h]

theorem load_of_readable (h : s.unreadable (address n) = none) :
    Store.load s n = Store.load s.store n := by
  simp only [Store.load, h]

theorem store_of_unwritable (h : s.unwritable (address n) = some fault)
    (signatures : List Signature) : Store.store s n signatures = (.error (fault n), s) := by
  simp only [Store.store, h]

theorem store_of_writable (h : s.unwritable (address n) = none) (signatures : List Signature) :
    Store.store s n signatures = ((Store.store s.store n signatures).1,
      { s with store := (Store.store s.store n signatures).2 }) := by
  simp only [Store.store, h]

end

def slots (address : String → String) (k : Slots σ names) : Slots (Impaired σ address) names where
  Slot := Option (String → Fault) × Option (String → Fault) × k.Slot
  slot s n := (s.unreadable (address n), s.unwritable (address n), k.slot s.store n)
  load_congr {s t n} h := by
    obtain ⟨hread, _, hslot⟩ : _ ∧ _ ∧ _ := by simpa using h
    cases hs : s.unreadable (address n) with
    | some fault => rw [load_of_unreadable hs, load_of_unreadable (hread ▸ hs)]
    | none => rw [load_of_readable hs, load_of_readable (hread ▸ hs), k.load_congr hslot]
  store_congr {s t n} h signatures := by
    obtain ⟨hread, hwrite, hslot⟩ : _ ∧ _ ∧ _ := by simpa using h
    cases hs : s.unwritable (address n) with
    | some fault =>
      rw [store_of_unwritable hs, store_of_unwritable (hwrite ▸ hs)]
      exact ⟨rfl, h⟩
    | none =>
      rw [store_of_writable hs, store_of_writable (hwrite ▸ hs)]
      obtain ⟨hresult, hslots⟩ := k.store_congr hslot signatures
      exact ⟨hresult, by simp [hread, hwrite, hslots]⟩
  store_other s {m n} hm hn hne signatures := by
    cases hs : s.unwritable (address n) with
    | some fault => rw [store_of_unwritable hs]
    | none =>
      rw [store_of_writable hs]
      simp [k.store_other s.store hm hn hne signatures]

theorem steady {k : Slots σ names} (h : k.Steady address) : (slots address k).Steady address where
  slot_eq s {m n} heq := by simp [slots, heq, h.slot_eq s.store heq]
  slot_other s {m n x e} hne he := by
    cases hs : s.unwritable (address n) with
    | some fault => rw [store_of_unwritable hs]
    | none =>
      rw [store_of_writable hs]
      simp [slots, h.slot_other s.store hne he]
  load_eq_none {s m n} heq hnone := by
    cases hs : s.unreadable (address m) with
    | some fault =>
      rw [load_of_unreadable hs] at hnone
      contradiction
    | none =>
      rw [load_of_readable hs] at hnone
      rw [load_of_readable (heq ▸ hs)]
      exact h.load_eq_none heq hnone
  slot_of_failed {s n x e} he hfailed := by
    cases hs : s.unwritable (address n) with
    | some fault => rw [store_of_unwritable hs]
    | none =>
      rw [store_of_writable hs] at hfailed ⊢
      simp [slots, h.slot_of_failed he hfailed]
  load_of_stored {s n x e} he hstored hnone := by
    cases hs : s.unwritable (address n) with
    | some fault =>
      rw [store_of_unwritable hs] at hstored
      contradiction
    | none =>
      cases hr : s.unreadable (address n) with
      | some fault =>
        rw [load_of_unreadable hr] at hnone
        contradiction
      | none =>
        rw [store_of_writable hs] at hstored ⊢
        rw [load_of_readable hr] at hnone
        have hload := h.load_of_stored he hstored hnone
        exact (load_of_readable (s := { s with store := (Store.store s.store n x).2 }) hr).trans hload
  stored_of_stored {s m n x y e f} heq hne he hf hstored := by
    cases hs : s.unwritable (address m) with
    | some fault =>
      rw [store_of_unwritable hs] at hstored
      contradiction
    | none =>
      rw [store_of_writable hs] at hstored
      rw [store_of_writable (heq ▸ hs)]
      exact h.stored_of_stored heq hne he hf hstored
  store_store s {m n x y e f} heq hsame he hf := by
    cases hs : s.unwritable (address m) with
    | some fault =>
      rw [store_of_unwritable hs, store_of_unwritable (heq ▸ hs)]
      exact ⟨rfl, rfl⟩
    | none =>
      have hs' : s.unwritable (address n) = none := heq ▸ hs
      obtain ⟨hresult, hslot⟩ := h.store_store s.store heq hsame he hf
      rw [store_of_writable hs, store_of_writable hs',
        store_of_writable (s := { s with store := (Store.store s.store m x).2 }) hs']
      exact ⟨hresult, by simp [slots, hslot]⟩

end Impaired

end Conformance.Baseline
