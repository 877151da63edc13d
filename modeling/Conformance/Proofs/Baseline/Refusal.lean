import Conformance.Failure
import Conformance.Proofs.Baseline.Steady

/-! Baselines that cannot be stored. Whichever step of writing fails, the temporary file is gone
again and every file is as it was; whichever statement of a transaction fails, the tables are as
they were. So every baseline is loaded as before, and the fault tells what stood in the way. -/
namespace Conformance.Baseline

/-- Why signatures are not stored under a rule: one of them names another rule, and the first that
does is reported, or what they come to is blocked, for a reason that the store gives. -/
inductive Refused (rule : String) (signatures : List Signature) (blocked : Entries → Prop)
    (reason : Fault) : Fault → Prop
  | foreign {s : Signature} (h : signatures.find? (fun s => s.rule != rule) = some s) :
      Refused rule signatures blocked reason (.foreignSignature rule s.rule)
  | blocked {e : Entries} (he : Entries.ofSignatures rule signatures = .ok e) (h : blocked e) :
      Refused rule signatures blocked reason reason

theorem refused_iff {rule : String} {signatures : List Signature} {blocked : Entries → Prop}
    {reason fault : Fault} {r : Except Fault Unit}
    (hforeign : ∀ f, Entries.ofSignatures rule signatures = .error f → r = .error f)
    (hown : ∀ e, Entries.ofSignatures rule signatures = .ok e →
      blocked e ∧ r = .error reason ∨ ¬ blocked e ∧ r = .ok ()) :
    r = .error fault ↔ Refused rule signatures blocked reason fault := by
  cases hfind : signatures.find? fun s => s.rule != rule with
  | some s =>
    have he := Entries.ofSignatures_eq_error hfind
    rw [hforeign _ he]
    constructor
    · intro h
      obtain rfl := Except.error.inj h
      exact .foreign hfind
    · rintro (hother | ⟨hok, _⟩)
      · rw [hfind] at hother
        rw [Option.some.inj hother]
      · rw [he] at hok
        contradiction
  | none =>
    have he := Entries.ofSignatures_eq_ok (by simpa using hfind)
    rcases hown _ he with ⟨hblocked, hr⟩ | ⟨hfree, hr⟩ <;> rw [hr]
    · constructor
      · intro h
        obtain rfl := Except.error.inj h
        exact .blocked he hblocked
      · rintro (hother | _)
        · rw [hfind] at hother
          contradiction
        · rfl
    · constructor
      · intro h
        contradiction
      · rintro (hother | ⟨hok, hblocked⟩)
        · rw [hfind] at hother
          contradiction
        · obtain rfl := Except.ok.inj (he.symm.trans hok)
          contradiction

namespace Directory

variable {d : Directory} {rule : String} {signatures : List Signature} {fault : Fault}

/-- What stands in the way of a file: a step of writing that fails, a place where no directory can
be, or a directory under the name of the file. -/
inductive Blocked (d : Directory) (rule : String) : Prop
  | step {step : WriteStep} (h : d.trouble = some step)
  | noDirectory (h : d.place.make? = none)
  | inTheWay (h : d.place.occupant? (fileName rule) = some .directory)

def Refuses (d : Directory) (rule : String) (signatures : List Signature) : Fault → Prop :=
  Refused rule signatures (fun _ => d.Blocked rule) (.cannotWriteFile rule (d.pathFor rule))

theorem blocked_iff : d.Blocked rule ↔ (d.slot rule).isWritable = false := by
  have hway : (d.place.occupant? (fileName rule)).any Occupant.isDirectory = true ↔
      d.place.occupant? (fileName rule) = some .directory := by
    rcases d.place.occupant? (fileName rule) with _ | _ | _ <;> simp [Occupant.isDirectory]
  rw [← Bool.not_eq_true, slot, Slot.isWritable]
  simp only [Bool.and_eq_true, Bool.not_eq_true', ← Bool.not_eq_true, hway,
    Option.isNone_iff_eq_none, Option.isSome_iff_ne_none]
  constructor
  · rintro (h | h | h) ⟨⟨htrouble, hmake⟩, hfree⟩
    · simp [htrouble] at h
    · exact hmake h
    · exact hfree h
  · intro h
    by_contra hclear
    refine h ⟨⟨?_, fun hmake => hclear (.noDirectory hmake)⟩, fun hfree => hclear (.inTheWay hfree)⟩
    by_contra htrouble
    obtain ⟨step, hstep⟩ := Option.ne_none_iff_exists'.1 htrouble
    exact hclear (.step hstep)

theorem store_eq_error_iff : (d.store rule signatures).1 = .error fault ↔
    d.Refuses rule signatures fault := by
  refine refused_iff (fun f he => by rw [d.store_eq_error he]) fun e he => ?_
  rw [store_eq he, blocked_iff]
  cases (d.slot rule).isWritable with
  | true => exact .inr ⟨by simp, rfl⟩
  | false => exact .inl ⟨rfl, rfl⟩

theorem occupant?_written (h : d.Blocked rule) (e : Entries) (file : String) :
    (d.written rule e).2.occupant? file = d.place.occupant? file := by
  have hdone : (d.written rule e).1 = (d.slot rule).isWritable := Place.write_done _ _ _ _
  rw [written] at hdone ⊢
  rw [Place.occupant?_write, hdone, blocked_iff.1 h, if_neg (by simp)]

theorem occupant?_of_refuses (h : d.Refuses rule signatures fault) (file : String) :
    (d.store rule signatures).2.place.occupant? file = d.place.occupant? file := by
  cases h with
  | foreign hfind => rw [d.store_eq_error (Entries.ofSignatures_eq_error hfind)]
  | blocked he hblocked =>
    rw [store_eq he]
    exact occupant?_written hblocked _ file

theorem load_of_refuses (h : d.Refuses rule signatures fault) (n : String) :
    (d.store rule signatures).2.load n = d.load n := by
  cases h with
  | foreign hfind => rw [d.store_eq_error (Entries.ofSignatures_eq_error hfind)]
  | blocked he hblocked =>
    rw [store_eq he]
    exact load_congr (occupant?_written hblocked _ _)

end Directory

namespace Tables

theorem executeAll_eq_none_iff (trouble : Option Nat) (t : Tables) (rule : String) (e : Entries) :
    executeAll trouble t (replacement rule e.pairs) = none ↔
      (t.baselines = none ∨ t.entries = none) ∨
        ∃ k, trouble = some k ∧ k ≤ (replacement rule e.pairs).length := by
  have hmissing : ((t.share rule).frozen.isNone || (t.share rule).rows.isNone) = true ↔
      t.baselines = none ∨ t.entries = none := by
    simp [share]
  have hfails : trouble.any (· ≤ (replacement rule e.pairs).length) = true ↔
      ∃ k, trouble = some k ∧ k ≤ (replacement rule e.pairs).length := by
    cases trouble <;> simp
  rw [← Option.map_eq_none_iff (f := share rule), map_share_executeAll _ _ _ e.nodup_pairs,
    Bool.or_assoc, ← hmissing, ← hfails, ← Bool.or_eq_true, Bool.or_comm]
  simp only [ite_eq_left_iff, reduceCtorEq, imp_false, not_not]

end Tables

namespace Database

variable {d : Database} {rule : String} {signatures : List Signature} {fault : Fault}

/-- What stands in the way of a transaction: a file that is no database, a table that is missing, or
a statement that fails after `k` others, where the commit comes after all of them. -/
inductive Blocked (d : Database) (statements : List Statement) : Prop
  | noDatabase (h : tables? d.file = none)
  | noTable {t : Tables} (h : tables? d.file = some t)
      (hnone : t.baselines = none ∨ t.entries = none)
  | statement {k : Nat} (h : d.trouble = some k) (hk : k ≤ statements.length)

def Refuses (d : Database) (rule : String) (signatures : List Signature) : Fault → Prop :=
  Refused rule signatures (fun e => d.Blocked (Tables.replacement rule e.pairs)) (.cannotWrite rule)

theorem blocked_iff (e : Entries) :
    d.Blocked (Tables.replacement rule e.pairs) ↔ d.written? rule e = none := by
  cases htables : tables? d.file with
  | none => exact ⟨fun _ => by rw [written?, htables, Option.bind_none], fun _ => .noDatabase htables⟩
  | some t =>
    rw [written?, htables, Option.bind_some, Tables.executeAll_eq_none_iff]
    constructor
    · rintro (hnone | ⟨ht, hnone⟩ | ⟨htrouble, hk⟩)
      · rw [htables] at hnone
        contradiction
      · obtain rfl := Option.some.inj (htables.symm.trans ht)
        exact .inl hnone
      · exact .inr ⟨_, htrouble, hk⟩
    · rintro (hnone | ⟨k, htrouble, hk⟩)
      · exact .noTable htables hnone
      · exact .statement htrouble hk

theorem store_eq_error_iff (hopen : d.isOpen = true) :
    (d.store rule signatures).1 = .error fault ↔ d.Refuses rule signatures fault := by
  refine refused_iff (fun f he => by rw [d.store_eq_error he]) fun e he => ?_
  rw [store_of_entries d he, if_neg (by simp [hopen]), blocked_iff]
  cases d.written? rule e with
  | none => exact .inl ⟨rfl, rfl⟩
  | some t => exact .inr ⟨by simp, rfl⟩

theorem store_of_refuses (hopen : d.isOpen = true) (h : d.Refuses rule signatures fault) :
    (d.store rule signatures).2 = d := by
  cases h with
  | foreign hfind => rw [d.store_eq_error (Entries.ofSignatures_eq_error hfind)]
  | blocked he hblocked =>
    rw [store_of_entries d he, if_neg (by simp [hopen]), (blocked_iff _).1 hblocked]

end Database

/-- A baseline that cannot be stored leaves things as they were. What storing fails with is a fault
of the store, and there is one exactly if a signature is foreign or something stands in the way.
Then every rule is loaded as before, and a directory has the files that it had and no others. -/
theorem failed_store_undone (rule : String) (signatures : List Signature) (fault : Fault) :
    (Failure.baseline fault).kind = .baselineStore ∧
    (∀ d : Directory,
      ((d.store rule signatures).1 = .error fault ↔ d.Refuses rule signatures fault) ∧
      ((d.store rule signatures).1 = .error fault →
        (∀ n, (d.store rule signatures).2.load n = d.load n) ∧
        ∀ file, (d.store rule signatures).2.place.occupant? file = d.place.occupant? file)) ∧
    ∀ d : Database, d.isOpen = true →
      ((d.store rule signatures).1 = .error fault ↔ d.Refuses rule signatures fault) ∧
      ((d.store rule signatures).1 = .error fault →
        ∀ n, (d.store rule signatures).2.load n = d.load n) := by
  refine ⟨rfl, fun d => ⟨Directory.store_eq_error_iff, fun h => ?_⟩,
    fun d hopen => ⟨Database.store_eq_error_iff hopen, fun h n => ?_⟩⟩
  · have hrefuses := Directory.store_eq_error_iff.1 h
    exact ⟨Directory.load_of_refuses hrefuses, Directory.occupant?_of_refuses hrefuses⟩
  · rw [Database.store_of_refuses hopen ((Database.store_eq_error_iff hopen).1 h)]

/-! One accepted violation, kept in a directory where no file takes the place of another, and in a
database that fails once the old entries are deleted. -/

def accepted : Entries := Entries.ofPairs [("app.a", "uses app.b")]

def stuckDirectory : Directory :=
  ⟨⟨"", ["baselines"]⟩, .present [(fileName "layers", .file (accepted.text "layers").toUTF8)],
    some .replace⟩

def stuckDatabase : Database :=
  ⟨⟨"", ["baselines.db"]⟩, .tables ⟨some ["layers"], some [⟨"layers", "app.a", "uses app.b"⟩]⟩,
    true, some 1⟩

theorem failed_store_undone_stuck :
    ((stuckDirectory.store "layers" []).1
        = .error (.cannotWriteFile "layers" (stuckDirectory.pathFor "layers")) ∧
      (stuckDirectory.store "layers" []).2.load "layers" = .ok (some accepted)) ∧
    stuckDatabase.isOpen = true ∧
    (stuckDatabase.store "layers" []).1 = .error (.cannotWrite "layers") ∧
    (stuckDatabase.store "layers" []).2.load "layers" = .ok (some accepted) := by
  obtain ⟨hdirectory, hfiles⟩ := (failed_store_undone "layers" [] _).2.1 stuckDirectory
  obtain ⟨hdatabase, hrows⟩ := (failed_store_undone "layers" [] _).2.2 stuckDatabase rfl
  have hdirectory := hdirectory.2 (.blocked rfl (.step rfl))
  have hdatabase := hdatabase.2 (.blocked rfl (.statement rfl (by simp [Tables.replacement])))
  have hkept : stuckDirectory.load "layers" = .ok (some accepted) :=
    Directory.load_eq_of_file (by simp [stuckDirectory, Place.occupant?, Named.find?])
  exact ⟨⟨hdirectory, ((hfiles hdirectory).1 "layers").trans hkept⟩, rfl, hdatabase,
    (hrows hdatabase "layers").trans rfl⟩

end Conformance.Baseline
