import Mathlib.Data.Finset.Dedup
import Conformance.Proofs.Baseline.Directory
import Conformance.Proofs.Baseline.Database

/-! What a store is asked for and what it answers. The answers depend only on the calls before: a
load gives the signatures of the last store that was not refused, however often the store was
closed and opened in between. -/
namespace Conformance.Baseline

inductive Call
  | store (rule : String) (signatures : List Signature)
  | load (rule : String)
  deriving DecidableEq, Repr

inductive Event
  | call (c : Call)
  | prepare
  | release
  deriving DecidableEq, Repr

/-- What comes back, `refused` from a store that cannot be opened. -/
inductive Answer
  | stored (result : Except Fault Unit)
  | loaded (result : Except Fault (Option (Finset Signature)))
  | refused (fault : Fault)
  deriving DecidableEq

namespace Call

def rule : Call → String
  | store rule _ => rule
  | load rule => rule

def accepted? (rule : String) : Call → Option (List Signature)
  | store other signatures =>
    if other = rule ∧ ∀ s ∈ signatures, s.rule = other then some signatures else none
  | load _ => none

end Call

def lastStored (rule : String) (past : List Call) : Option (List Signature) :=
  (past.filterMap (Call.accepted? rule)).getLast?

/-- The answer to a call after others. -/
def Call.expected (past : List Call) : Call → Answer
  | store rule signatures =>
    match signatures.find? fun s => s.rule != rule with
    | some s => .stored (.error (.foreignSignature rule s.rule))
    | none => .stored (.ok ())
  | load rule => .loaded (.ok ((lastStored rule past).map List.toFinset))

def expected (past : List Call) : List Call → List Answer
  | [] => []
  | c :: calls => c.expected past :: expected (past ++ [c]) calls

section
variable {σ : Type} [Store σ]

def Call.ask (s : σ) : Call → Answer × σ
  | store rule signatures =>
    let (result, s) := Store.store s rule signatures
    (.stored result, s)
  | load rule => (.loaded (Baseline.loaded s rule), s)

def answers (s : σ) : List Event → List Answer
  | [] => []
  | .call c :: events => (c.ask s).1 :: answers (c.ask s).2 events
  | .prepare :: events =>
    match Store.prepare s with
    | (.ok (), s) => answers s events
    | (.error fault, s) => .refused fault :: answers s events
  | .release :: events => answers (Store.release s) events

end

def callsOf : List Event → List Call
  | [] => []
  | .call c :: events => c :: callsOf events
  | .prepare :: events => callsOf events
  | .release :: events => callsOf events

def namesOf (calls : List Call) : Set String := {n | ∃ c ∈ calls, c.rule = n}

def OpenAtCalls : Bool → List Event → Prop
  | _, [] => True
  | isOpen, .call _ :: events => isOpen = true ∧ OpenAtCalls isOpen events
  | _, .prepare :: events => OpenAtCalls true events
  | _, .release :: events => OpenAtCalls false events

theorem lastStored_concat (rule : String) (past : List Call) (c : Call) :
    lastStored rule (past ++ [c]) = (c.accepted? rule).or (lastStored rule past) := by
  rw [lastStored, List.filterMap_append]
  cases h : c.accepted? rule <;> simp [h, lastStored]

theorem Call.accepted?_eq_none {rule other : String} {signatures : List Signature}
    (h : ¬ (rule = other ∧ ∀ s ∈ signatures, s.rule = other)) :
    (Call.store other signatures).accepted? rule = none :=
  if_neg fun hall => h ⟨hall.1.symm, hall.2⟩

namespace Keeping

variable {σ : Type} [Store σ] {names : Set String} (k : Keeping σ names)

def Remembers (past : List Call) (s : σ) : Prop :=
  ∀ n ∈ names, k.baseline s n = (lastStored n past).map List.toFinset

/-- Whether a store can be read and written at each call of some events. -/
def Serves (s : σ) (events : List Event) : Prop :=
  (∀ t, k.Sound t → k.Ready t) ∨
    ∃ isOpen, (isOpen = true → k.Ready s) ∧ OpenAtCalls isOpen events

variable {k}

theorem Remembers.congr {past : List Call} {s t : σ} (h : k.Remembers past s)
    (hkept : ∀ n ∈ names, k.kept t n = k.kept s n) : k.Remembers past t := by
  intro n hn
  rw [baseline, hkept n hn]
  exact h n hn

theorem Serves.ready {s : σ} {c : Call} {events : List Event}
    (h : k.Serves s (.call c :: events)) (hs : k.Sound s) : k.Ready s := by
  rcases h with hall | ⟨_, hready, hopen, _⟩
  · exact hall s hs
  · exact hready hopen

theorem Serves.call {s t : σ} {c : Call} {events : List Event}
    (h : k.Serves s (.call c :: events)) (ht : k.Ready t) : k.Serves t events := by
  rcases h with hall | ⟨isOpen, _, _, hrest⟩
  · exact .inl hall
  · exact .inr ⟨isOpen, fun _ => ht, hrest⟩

theorem Serves.prepare {s t : σ} {events : List Event}
    (h : k.Serves s (.prepare :: events)) (ht : k.Ready t) : k.Serves t events := by
  rcases h with hall | ⟨_, _, hrest⟩
  · exact .inl hall
  · exact .inr ⟨true, fun _ => ht, hrest⟩

theorem Serves.release {s : σ} {events : List Event}
    (h : k.Serves s (.release :: events)) (t : σ) : k.Serves t events := by
  rcases h with hall | ⟨_, _, hrest⟩
  · exact .inl hall
  · exact .inr ⟨false, Bool.noConfusion, hrest⟩

theorem ask_eq {past : List Call} {s : σ} (hready : k.Ready s) (h : k.Remembers past s)
    {c : Call} (hc : c.rule ∈ names) :
    ∃ t, c.ask s = (c.expected past, t) ∧ k.Ready t ∧ k.Remembers (past ++ [c]) t := by
  cases c with
  | load rule =>
    have hname : rule ∈ names := hc
    refine ⟨s, ?_, hready, fun n hn => ?_⟩
    · rw [Call.ask, k.loaded_eq hready hname, Call.expected, h rule hname]
    · rw [lastStored_concat]
      exact h n hn
  | store rule signatures =>
    have hname : rule ∈ names := hc
    cases hfind : signatures.find? fun s => s.rule != rule with
    | some foreign =>
      have hall : ¬ ∀ s ∈ signatures, s.rule = rule := by
        intro hall
        have hforeign := List.find?_some hfind
        simp [hall foreign (List.mem_of_find?_eq_some hfind)] at hforeign
      refine ⟨s, ?_, hready, fun n hn => ?_⟩
      · rw [Call.ask, k.store_eq_error (Entries.ofSignatures_eq_error hfind), Call.expected, hfind]
      · rw [lastStored_concat, Call.accepted?_eq_none fun hboth => hall hboth.2]
        exact h n hn
    | none =>
      have hall : ∀ s ∈ signatures, s.rule = rule := by
        simpa [List.find?_eq_none] using hfind
      obtain ⟨t, hstore, ht, hkept⟩ :=
        k.store_eq_ok hready hname (Entries.ofSignatures_eq_ok hall)
      refine ⟨t, ?_, ht, fun n hn => ?_⟩
      · rw [Call.ask, hstore, Call.expected, hfind]
      · rw [lastStored_concat, baseline, hkept n hn]
        by_cases hrule : n = rule
        · rw [if_pos hrule, hrule, Call.accepted?, if_pos ⟨rfl, hall⟩]
          exact congrArg some (Entries.signatureSet_ofPairs hall)
        · rw [if_neg hrule, Call.accepted?_eq_none fun hboth => hrule hboth.1]
          exact h n hn

theorem answers_eq {past : List Call} {s : σ} {events : List Event} (hs : k.Sound s)
    (hserves : k.Serves s events) (h : k.Remembers past s)
    (hnames : ∀ c ∈ callsOf events, c.rule ∈ names) :
    answers s events = expected past (callsOf events) := by
  induction events generalizing past s with
  | nil => rfl
  | cons e events ih =>
    cases e with
    | call c =>
      have hc : c.rule ∈ names := hnames c (by simp [callsOf])
      obtain ⟨t, hask, ht, hrest⟩ := ask_eq (hserves.ready hs) h hc
      have hnext := ih (k.sound_of_ready ht) (hserves.call ht) hrest
        fun d hd => hnames d (by simp [callsOf, hd])
      rw [answers, hask, hnext, callsOf, expected]
    | prepare =>
      obtain ⟨t, hprepare, ht, hkept⟩ := k.prepare_eq hs
      rw [answers, hprepare]
      exact ih (k.sound_of_ready ht) (hserves.prepare ht) (h.congr hkept) hnames
    | release =>
      exact ih (k.sound_release hs) (hserves.release _) (h.congr (k.kept_release hs)) hnames

end Keeping

/-! Memory, files and a database answer alike. -/

theorem Directory.load_eq_none {d : Directory} {n : String}
    (h : d.place.occupant? (fileName n) = none) : d.load n = .ok none := by
  rw [Directory.load, Place.content?_eq_bind, h]
  rfl

theorem Directory.sound_ofPlace {names : Set String} (path : Path) {place : Place}
    (husable : place.IsUsable) (hnone : ∀ n ∈ names, place.occupant? (fileName n) = none) :
    Directory.Sound names (Directory.ofPlace path place) := by
  refine ⟨rfl, husable, fun n hn => ?_, fun n hn => ⟨none, load_eq_none (hnone n hn)⟩⟩
  rw [Place.HasRoom, Directory.ofPlace, hnone n hn]
  rfl

theorem answers_memory (events : List Event) :
    answers Memory.empty events = expected [] (callsOf events) :=
  (Memory.keeping Set.univ).answers_eq trivial (.inl fun _ _ => trivial) (fun _ _ => rfl)
    fun _ _ => trivial

theorem answers_directory {events : List Event} (hapart : (namesOf (callsOf events)).InjOn fileName)
    {place : Place} (hplace : place.IsUsable)
    (hnone : ∀ n ∈ namesOf (callsOf events), place.occupant? (fileName n) = none) (path : Path) :
    answers (Directory.ofPlace path place) events = expected [] (callsOf events) := by
  have hsound := Directory.sound_ofPlace path hplace hnone
  refine (Directory.keeping hapart).answers_eq hsound (.inl fun _ h => h) (fun n hn => ?_)
    fun c hc => ⟨c, hc, rfl⟩
  have hload : (Directory.ofPlace path place).load n = .ok none :=
    Directory.load_eq_none (hnone n hn)
  have hkept : Directory.kept (Directory.ofPlace path place) n = none := by
    rw [Directory.kept, hload]
  exact congrArg (Option.map (·.signatureSet n)) hkept

theorem answers_database {events : List Event} (hopen : OpenAtCalls false events)
    {file : DatabaseFile} {t : Tables} (hfile : Database.prepared? file = some t)
    (habsent : ∀ n ∈ namesOf (callsOf events), t.lookup n = some none) (path : Path) :
    answers (Database.ofFile path file) events = expected [] (callsOf events) := by
  refine (Database.keeping (namesOf (callsOf events))).answers_eq ⟨rfl, t, hfile⟩
    (.inr ⟨false, Bool.noConfusion, hopen⟩) (fun n hn => ?_) fun c hc => ⟨c, hc, rfl⟩
  have hkept : Database.kept (Database.ofFile path file) n = none := by
    rw [Database.kept, Database.ofFile, hfile, Option.bind_some, habsent n hn]
    rfl
  exact congrArg (Option.map (·.signatureSet n)) hkept

/-- Memory, a directory and a database that have none of the baselines in use give the same
answers to the same calls, those of the last stores, if the names in use have different files and
the database is open at each call. -/
theorem answers_eq_expected {calls : List Call} (hapart : (namesOf calls).InjOn fileName)
    {inMemory inFiles inTables : List Event} (hmemory : callsOf inMemory = calls)
    (hfiles : callsOf inFiles = calls) (htables : callsOf inTables = calls)
    (hopen : OpenAtCalls false inTables)
    {place : Place} (hplace : place.IsUsable)
    (hnone : ∀ n ∈ namesOf calls, place.occupant? (fileName n) = none)
    {file : DatabaseFile} {t : Tables} (hfile : Database.prepared? file = some t)
    (habsent : ∀ n ∈ namesOf calls, t.lookup n = some none) (directory path : Path) :
    answers Memory.empty inMemory = expected [] calls ∧
      answers (Directory.ofPlace directory place) inFiles = expected [] calls ∧
      answers (Database.ofFile path file) inTables = expected [] calls := by
  refine ⟨?_, ?_, ?_⟩
  · rw [answers_memory, hmemory]
  · rw [answers_directory (hfiles ▸ hapart) hplace (hfiles ▸ hnone), hfiles]
  · rw [answers_database hopen hfile (htables ▸ habsent), htables]

def twoRules : List Call :=
  [.load "layers", .store "layers" [⟨"layers", "app.a", "uses app.b"⟩],
    .store "cycles" [], .store "cycles" [⟨"layers", "app.a", "uses app.b"⟩],
    .load "layers", .load "cycles"]

example : expected [] twoRules = [.loaded (.ok none), .stored (.ok ()), .stored (.ok ()),
    .stored (.error (.foreignSignature "cycles" "layers")),
    .loaded (.ok (some {⟨"layers", "app.a", "uses app.b"⟩})), .loaded (.ok (some ∅))] := rfl

theorem mem_namesOf_twoRules {n : String} (h : n ∈ namesOf twoRules) :
    n = "layers" ∨ n = "cycles" := by
  obtain ⟨c, hc, rfl⟩ := h
  simp only [twoRules, List.mem_cons, List.not_mem_nil, or_false] at hc
  rcases hc with rfl | rfl | rfl | rfl | rfl | rfl <;> simp [Call.rule]

theorem injOn_twoRules : (namesOf twoRules).InjOn fileName := by
  have hne : fileName "layers" ≠ fileName "cycles" := fun h =>
    absurd (head?_slug_eq h) (by decide)
  intro m hm n hn heq
  rcases mem_namesOf_twoRules hm with rfl | rfl <;>
    rcases mem_namesOf_twoRules hn with rfl | rfl
  · rfl
  · exact absurd heq hne
  · exact absurd heq.symm hne
  · rfl

theorem answers_twoRules :
    answers Memory.empty (twoRules.map .call) = expected [] twoRules ∧
      answers (Directory.ofPlace ⟨"", ["baselines"]⟩ .absent) (twoRules.map .call)
        = expected [] twoRules ∧
      answers (Database.ofFile ⟨"", ["baselines.db"]⟩ .absent)
        (.prepare :: (twoRules.take 3).map .call ++
          .release :: .prepare :: (twoRules.drop 3).map .call) = expected [] twoRules :=
  answers_eq_expected injOn_twoRules rfl rfl rfl (by simp [OpenAtCalls, twoRules])
    ⟨[], rfl⟩ (fun _ _ => rfl) rfl (fun _ _ => rfl) _ _

end Conformance.Baseline
