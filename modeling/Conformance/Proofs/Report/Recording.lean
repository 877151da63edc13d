import Conformance.Proofs.Report.Isolation

/-! What a check may write. A baseline changes only under the name of a freezing rule that was run
and evaluated, and only where the freezer refreezes, or where there was no baseline and one may be
created. Wherever else a run stops, every baseline is what it was. -/
namespace Conformance

open Facts Baseline

section
variable {σ : Type} [Store σ] {names : Set String} (k : Slots σ names)

namespace Rule

/-- The rule freezes, was evaluated, and its freezer records a baseline. -/
def Records (r : Rule) (g : Graph) (freezer : Option Freezer) (s : σ) : Prop :=
  r.freeze = true ∧ (∃ violations, r.evaluate g = .ok violations) ∧
    ∃ f, freezer = some f ∧ f.Records s r.name

theorem Records.of_load_eq {r : Rule} {g : Graph} {freezer : Option Freezer} {s t : σ}
    (h : r.Records g freezer t) (hload : Store.load t r.name = Store.load s r.name) :
    r.Records g freezer s := by
  obtain ⟨hfreeze, hevaluate, f, hfreezer, hrecords⟩ := h
  refine ⟨hfreeze, hevaluate, f, hfreezer, ?_⟩
  rwa [Freezer.Records, hload] at hrecords

theorem run_of_not_records {r : Rule} {g : Graph} {freezer : Option Freezer} {s : σ}
    (h : ¬ r.Records g freezer s) : (r.run g freezer s).2 = s := by
  rcases r.run_cases σ g freezer with hrun | ⟨f, violations, hfreeze, hsome, hevaluate, hrun⟩
  · rw [hrun s]
  · have hnot : ¬ f.Records s r.name := fun hrecords =>
      h ⟨hfreeze, ⟨violations, hevaluate⟩, f, hsome, hrecords⟩
    rw [hrun s, Freezer.apply_of_not_records hnot]

theorem records_of_run_ne {r : Rule} (hr : r.freeze = true → r.name ∈ names) {g : Graph}
    {freezer : Option Freezer} {s : σ} {n : String} (hn : n ∈ names)
    (h : k.slot (r.run g freezer s).2 n ≠ k.slot s n) :
    r.name = n ∧ r.Records g freezer s := by
  have hrecords : r.Records g freezer s := by
    by_contra hnot
    exact h (by rw [run_of_not_records hnot])
  refine ⟨?_, hrecords⟩
  by_contra hne
  exact h (r.run_other k g freezer s hn (hr hrecords.1) (Ne.symm hne))

end Rule

namespace Report

/-- One of the rules has the name, was not cancelled, and records a baseline. The cancellation is
asked about the first of the rules in the question `asked`. -/
def Records (g : Graph) (freezer : Option Freezer) (isCancelled : Nat → Bool) (asked : Nat) (s : σ)
    (rules : List Rule) (n : String) : Prop :=
  ∃ i r, rules[i]? = some r ∧ r.name = n ∧ isCancelled (asked + i) = false ∧ r.Records g freezer s

variable {g : Graph} {freezer : Option Freezer} {isCancelled : Nat → Bool} {n : String}

theorem records_of_runAll_ne (hn : n ∈ names) {rules : List Rule}
    (hrules : ∀ r ∈ rules, r.freeze = true → r.name ∈ names) {asked : Nat} {s : σ}
    (h : k.slot (runAll g freezer isCancelled asked s rules).2 n ≠ k.slot s n) :
    Records g freezer isCancelled asked s rules n := by
  induction rules generalizing asked s with
  | nil => exact absurd rfl h
  | cons r rest ih =>
    obtain ⟨hr, hrest⟩ := List.forall_mem_cons.1 hrules
    obtain ⟨o, t, hturn⟩ : ∃ o t, r.turn g freezer (isCancelled asked) s = (o, t) := ⟨_, _, rfl⟩
    rw [runAll_cons hturn] at h
    by_cases hfirst : k.slot t n = k.slot s n
    · obtain ⟨i, x, hx, hname, hasked, hrecords⟩ := ih hrest (hfirst ▸ h)
      refine ⟨i + 1, x, hx, hname, ?_, hrecords.of_load_eq ?_⟩
      · rwa [Nat.add_right_comm] at hasked
      · rw [hname]
        exact k.load_congr hfirst
    · cases hcancelled : isCancelled asked with
      | true =>
        rw [hcancelled] at hturn
        obtain ⟨_, rfl⟩ := Prod.mk.inj hturn
        exact absurd rfl hfirst
      | false =>
        rw [hcancelled] at hturn
        have hrun : (r.run g freezer s).2 = t := congrArg Prod.snd hturn
        obtain ⟨hname, hrecords⟩ := r.records_of_run_ne k hr hn (hrun ▸ hfirst)
        exact ⟨0, r, rfl, hname, hcancelled, hrecords⟩

/-- Whether a check changes a slot only if the rules are valid and one of them records a baseline
there. -/
def ChangesWhereRecorded (g : Graph) (rules : List Rule) (freezer : Option Freezer)
    (isCancelled : Nat → Bool) (n : String) : Prop :=
  ∀ s : σ, Rule.checkAll rules = .ok () ∧ Records g freezer isCancelled 0 s rules n ∨
    k.Same s (check g rules freezer isCancelled s).2 n

theorem changesWhereRecorded_of_slots (hn : n ∈ names) {rules : List Rule}
    (hrules : ∀ r ∈ rules, r.freeze = true → r.name ∈ names) :
    ChangesWhereRecorded k g rules freezer isCancelled n := by
  intro s
  cases hvalid : Rule.checkAll rules with
  | error fault =>
    refine .inr (k.same_of_slot ?_)
    rw [check, hvalid]
  | ok _ =>
    rw [check_of_valid hvalid]
    by_cases h : k.slot (runAll g freezer isCancelled 0 s rules).2 n = k.slot s n
    · exact .inr (k.same_of_slot h)
    · exact .inl ⟨rfl, records_of_runAll_ne k hn hrules h⟩

end Report

end

namespace Report

/-- A check changes a baseline in memory, in a database, or in a directory where the names in use
have different files only if the rules are valid and one of them records it. -/
theorem changes_where_recorded {names : Set String} {n : String} (hn : n ∈ names)
    {rules : List Rule} (hrules : ∀ r ∈ rules, r.freeze = true → r.name ∈ names) (g : Graph)
    (freezer : Option Freezer) (isCancelled : Nat → Bool) :
    ChangesWhereRecorded (Memory.slots names) g rules freezer isCancelled n ∧
      ChangesWhereRecorded (Database.slots names) g rules freezer isCancelled n ∧
      ∀ apart : names.InjOn fileName,
        ChangesWhereRecorded (Directory.slots apart) g rules freezer isCancelled n := by
  refine ⟨?_, ?_, fun apart => ?_⟩
  · exact changesWhereRecorded_of_slots _ hn hrules
  · exact changesWhereRecorded_of_slots _ hn hrules
  · exact changesWhereRecorded_of_slots _ hn hrules

def frozenBefore : Memory :=
  ⟨[("broken", .ofPairs [("app.B", "app.B is in the way")]), ("empty", .empty)]⟩

def oneType : Graph := .ofSorted [.known "app.A"] []

/-- Under a freezer that refreezes, the baseline of the rule that fails is kept. -/
theorem changes_where_recorded_failingAndFinding :
    (∀ r ∈ failingAndFinding, r.freeze = true → r.name ∈ namesOf failingAndFinding) ∧
      (namesOf failingAndFinding).InjOn fileName ∧
      ChangesWhereRecorded (Memory.slots (namesOf failingAndFinding)) oneType failingAndFinding
        (some ⟨true, true⟩) (fun _ => false) "broken" ∧
      ChangesWhereRecorded (Directory.slots injOn_failingAndFinding) oneType failingAndFinding
        (some ⟨true, true⟩) (fun _ => false) "broken" ∧
      Store.load (check oneType failingAndFinding (some ⟨true, true⟩) (fun _ => false)
        frozenBefore).2 "broken" = Store.load frozenBefore "broken" ∧
      Store.load (check oneType failingAndFinding (some ⟨true, true⟩) (fun _ => false)
        frozenBefore).2 "empty" ≠ Store.load frozenBefore "empty" := by
  have hrules : ∀ r ∈ failingAndFinding, r.freeze = true → r.name ∈ namesOf failingAndFinding :=
    fun r hr _ => ⟨r, hr, rfl⟩
  have hbroken : "broken" ∈ namesOf failingAndFinding := ⟨_, List.mem_cons_self, rfl⟩
  have hfails : ∀ r ∈ failingAndFinding, r.name = "broken" →
      r.evaluate oneType = .error (.raised "no answer") := by
    intro r hr hname
    rcases List.mem_pair.1 hr with rfl | rfl
    · rfl
    · exact absurd hname (by decide)
  obtain ⟨hmemory, _, hdirectory⟩ := changes_where_recorded hbroken hrules oneType
    (some ⟨true, true⟩) (fun _ => false)
  refine ⟨hrules, injOn_failingAndFinding, hmemory, hdirectory injOn_failingAndFinding, ?_,
    by decide⟩
  rcases hmemory frozenBefore with ⟨_, _, r, hr, hname, _, _, ⟨_, hevaluate⟩, _⟩ | hsame
  · rw [hfails r (List.mem_of_getElem? hr) hname] at hevaluate
    contradiction
  · exact hsame.load

end Report

end Conformance
