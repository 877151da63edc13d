import Conformance.Baseline.Database
import Conformance.Proofs.Baseline.Keeping

/-! A database keeps all baselines in two tables. The statements that replace a baseline take away
the rows of its rule, see to it that the rule is there, and put in the new rows, so the rows of
other rules stay as they are. -/
namespace Conformance.Baseline

namespace Tables

def rowsOf (rule : String) (pairs : List Text.Pair) : List Row :=
  pairs.map fun p => ⟨rule, p.1, p.2⟩

def withRule (rule : String) (rules : List String) : List String :=
  if rules.contains rule then rules else rules ++ [rule]

theorem mem_withRule {rule other : String} {rules : List String} :
    other ∈ withRule rule rules ↔ other = rule ∨ other ∈ rules := by
  rw [withRule]
  split
  · next h =>
    have hrule : rule ∈ rules := by simpa using h
    exact ⟨.inr, fun hother => hother.elim (fun heq => heq ▸ hrule) id⟩
  · simp [or_comm]

theorem executeAll_insert {rule : String} {rules : List String} (hrule : rule ∈ rules)
    {pairs : List Text.Pair} (hpairs : pairs.Nodup) {rows : List Row}
    (hrows : ∀ p ∈ pairs, (⟨rule, p.1, p.2⟩ : Row) ∉ rows) :
    executeAll none ⟨some rules, some rows⟩ (pairs.map fun p => .insertEntry ⟨rule, p.1, p.2⟩)
      = some ⟨some rules, some (rows ++ rowsOf rule pairs)⟩ := by
  induction pairs generalizing rows with
  | nil => simp [executeAll, rowsOf]
  | cons p pairs ih =>
    obtain ⟨hfresh, hpairs⟩ := List.nodup_cons.1 hpairs
    have hinsert : execute ⟨some rules, some rows⟩ (.insertEntry ⟨rule, p.1, p.2⟩)
        = some ⟨some rules, some (rows ++ [⟨rule, p.1, p.2⟩])⟩ := by
      have hp : (⟨rule, p.1, p.2⟩ : Row) ∉ rows := hrows p (by simp)
      simp [execute, hp, hrule]
    have hrest : ∀ q ∈ pairs, (⟨rule, q.1, q.2⟩ : Row) ∉ rows ++ [⟨rule, p.1, p.2⟩] := by
      intro q hq hmem
      rcases List.mem_append.1 hmem with hmem | hmem
      · exact hrows q (by simp [hq]) hmem
      · obtain ⟨_, h₁, h₂⟩ := Row.mk.inj (List.mem_singleton.1 hmem)
        exact hfresh (Prod.ext h₁ h₂ ▸ hq)
    have hnext := ih hpairs hrest
    simp only [List.map_cons, executeAll, hinsert]
    simpa [rowsOf] using hnext

def replaced (rule : String) (pairs : List Text.Pair) (rules : List String) (rows : List Row) :
    Tables :=
  ⟨some (withRule rule rules), some (rows.filter (fun row => row.rule != rule) ++ rowsOf rule pairs)⟩

theorem executeAll_replacement (rule : String) (rules : List String) (rows : List Row)
    {pairs : List Text.Pair} (hpairs : pairs.Nodup) :
    executeAll none ⟨some rules, some rows⟩ (replacement rule pairs)
      = some (replaced rule pairs rules rows) := by
  have hrule : rule ∈ withRule rule rules := mem_withRule.2 (.inl rfl)
  have hrows : ∀ p ∈ pairs,
      (⟨rule, p.1, p.2⟩ : Row) ∉ rows.filter (fun row => row.rule != rule) := by
    intro p _ hmem
    simpa using (List.mem_filter.1 hmem).2
  exact executeAll_insert hrule hpairs hrows

/-- What the tables hold on one rule: whether it is frozen, and its rows. -/
structure Share where
  frozen : Option Bool
  rows : Option (List Row)

def share (n : String) (t : Tables) : Share :=
  ⟨t.baselines.map (·.contains n), t.entries.map (·.filter fun row => row.rule == n)⟩

theorem lookup_congr {n : String} {t u : Tables} (h : t.share n = u.share n) :
    t.lookup n = u.lookup n := by
  obtain ⟨_ | rules, _ | rows⟩ := t <;> obtain ⟨_ | rules', _ | rows'⟩ := u <;>
    simp_all [share, lookup]

theorem lookup_of_share {t : Tables} {n : String} {pairs : List Text.Pair}
    (h : t.share n = ⟨some true, some (rowsOf n pairs)⟩) : t.lookup n = some (some pairs) := by
  have hown : t.share n = share n ⟨some [n], some (rowsOf n pairs)⟩ := by
    rw [h]
    simp [share, rowsOf, List.filter_map, Function.comp_def]
  rw [lookup_congr hown]
  simp [lookup, rowsOf, List.filter_map, Function.comp_def]

theorem share_replaced_self (n : String) (rules : List String) (rows : List Row)
    (pairs : List Text.Pair) :
    (replaced n pairs rules rows).share n = ⟨some true, some (rowsOf n pairs)⟩ := by
  have hrule : n ∈ withRule n rules := mem_withRule.2 (.inl rfl)
  simp [share, replaced, hrule, rowsOf, List.filter_map, Function.comp_def]

theorem share_replaced_of_ne {m n : String} (h : m ≠ n) (rules : List String) (rows : List Row)
    (pairs : List Text.Pair) :
    (replaced n pairs rules rows).share m = share m ⟨some rules, some rows⟩ := by
  have hrule : m ∈ withRule n rules ↔ m ∈ rules := by simp [mem_withRule, h]
  have hold : (rows.filter fun row => row.rule != n).filter (fun row => row.rule == m)
      = rows.filter fun row => row.rule == m := by
    rw [List.filter_filter]
    apply List.filter_congr
    intro row _
    by_cases hrow : row.rule = m <;> simp [hrow, h]
  simp [share, replaced, hrule, hold, rowsOf, List.filter_map, Function.comp_def, Ne.symm h]

theorem lookup_replaced (rule other : String) (rules : List String) (rows : List Row)
    (pairs : List Text.Pair) :
    lookup (replaced rule pairs rules rows) other
      = if other = rule then some (some pairs)
        else lookup ⟨some rules, some rows⟩ other := by
  split
  · next h =>
    rw [h]
    exact lookup_of_share (share_replaced_self rule rules rows pairs)
  · next h => exact lookup_congr (share_replaced_of_ne h rules rows pairs)

theorem executeAll_eq_ite (trouble : Option Nat) (t : Tables) (statements : List Statement) :
    executeAll trouble t statements
      = if trouble.any (· ≤ statements.length) then none else executeAll none t statements := by
  induction statements generalizing trouble t with
  | nil => cases trouble <;> simp [executeAll]
  | cons s rest ih =>
    rcases trouble with _ | _ | k
    · simp
    · simp [executeAll]
    · cases hs : t.execute s with
      | none => simp [executeAll, hs]
      | some u => simp [executeAll, hs, ih (some k) u]

theorem executeAll_of_missing {t : Tables} (h : t.baselines = none ∨ t.entries = none) (n : String)
    (pairs : List Text.Pair) : executeAll none t (replacement n pairs) = none := by
  obtain ⟨rules, rows⟩ := t
  rcases h with rfl | rfl
  · cases rows <;> rfl
  · rfl

theorem map_share_executeAll (trouble : Option Nat) (t : Tables) (n : String)
    {pairs : List Text.Pair} (hpairs : pairs.Nodup) :
    (executeAll trouble t (replacement n pairs)).map (share n)
      = if trouble.any (· ≤ (replacement n pairs).length) || (t.share n).frozen.isNone
          || (t.share n).rows.isNone
        then none else some ⟨some true, some (rowsOf n pairs)⟩ := by
  rw [executeAll_eq_ite]
  cases trouble.any (· ≤ (replacement n pairs).length) with
  | true => simp
  | false =>
    obtain ⟨_ | rules, _ | rows⟩ := t
    · rw [executeAll_of_missing (.inl rfl)]
      rfl
    · rw [executeAll_of_missing (.inl rfl)]
      rfl
    · rw [executeAll_of_missing (.inr rfl)]
      rfl
    · rw [executeAll_replacement n rules rows hpairs, ← share_replaced_self n rules rows pairs]
      rfl

theorem share_of_executeAll {m n : String} (h : m ≠ n) {trouble : Option Nat} {t u : Tables}
    {pairs : List Text.Pair} (hpairs : pairs.Nodup)
    (hu : executeAll trouble t (replacement n pairs) = some u) : u.share m = t.share m := by
  rw [executeAll_eq_ite] at hu
  split at hu
  · contradiction
  · obtain ⟨_ | rules, _ | rows⟩ := t
    · rw [executeAll_of_missing (.inl rfl)] at hu
      contradiction
    · rw [executeAll_of_missing (.inl rfl)] at hu
      contradiction
    · rw [executeAll_of_missing (.inr rfl)] at hu
      contradiction
    · rw [executeAll_replacement n rules rows hpairs] at hu
      rw [← Option.some.inj hu, share_replaced_of_ne h]

theorem exists_lookup_eq (rules : List String) (rows : List Row) (n : String) :
    ∃ found, lookup ⟨some rules, some rows⟩ n = some found := by
  simp only [lookup, Option.bind_eq_bind, Option.bind_some]
  split <;> exact ⟨_, rfl⟩

end Tables

namespace Database

def kept (d : Database) (n : String) : Option Entries :=
  ((prepared? d.file).bind fun t => (t.lookup n).join).map Entries.ofPairs

structure Sound (d : Database) : Prop where
  trouble : d.trouble = none
  usable : ∃ t, prepared? d.file = some t

structure Ready (d : Database) : Prop where
  isOpen : d.isOpen = true
  trouble : d.trouble = none
  tables : ∃ rules rows, d.file = .tables ⟨some rules, some rows⟩

theorem kept_tables {d : Database} {t : Tables} (h : d.file = .tables t) (hwhole : t.create = t)
    (n : String) : d.kept n = (t.lookup n).join.map Entries.ofPairs := by
  rw [kept, h, prepared?, hwhole, Option.bind_some]

theorem store_eq_error (d : Database) {rule : String} {signatures : List Signature}
    {fault : Fault} (h : Entries.ofSignatures rule signatures = .error fault) :
    d.store rule signatures = (.error fault, d) := by
  rw [Database.store, h]

theorem store_eq_ok {d : Database} (hd : d.Ready) {rule : String} {signatures : List Signature}
    {e : Entries} (h : Entries.ofSignatures rule signatures = .ok e) :
    ∃ t : Database, d.store rule signatures = (.ok (), t) ∧ t.Ready ∧
      ∀ n, t.kept n = if n = rule then some e else d.kept n := by
  obtain ⟨rules, rows, hfile⟩ := hd.tables
  have hall := Tables.executeAll_replacement rule rules rows e.nodup_pairs
  refine ⟨{ d with file := .tables (Tables.replaced rule e.pairs rules rows) }, ?_,
    ⟨hd.isOpen, hd.trouble, _, _, rfl⟩, fun n => ?_⟩
  · rw [Database.store, h]
    simp [hd.isOpen, hd.trouble, hfile, tables?, hall]
  · rw [kept_tables rfl rfl, kept_tables hfile rfl, Tables.lookup_replaced]
    split
    · exact congrArg some e.ofPairs_pairs
    · rfl

def keeping (names : Set String) : Keeping Database names where
  Sound := Sound
  Ready := Ready
  kept := kept
  sound_of_ready h := by
    obtain ⟨rules, rows, hfile⟩ := h.tables
    exact ⟨h.trouble, _, by rw [hfile, prepared?]⟩
  prepare_eq {d} h := by
    obtain ⟨t, ht⟩ := h.usable
    have hcreate : t.create = t := by
      rcases hfile : d.file with _ | _ | _ | t' <;> rw [hfile] at ht <;>
        first | contradiction | (obtain rfl := Option.some.inj ht; rfl)
    refine ⟨{ d with file := .tables t, isOpen := true }, ?_, ⟨rfl, h.trouble, ?_⟩, fun n _ => ?_⟩
    · simp [Store.prepare, prepare, ht]
    · exact ⟨_, _, congrArg DatabaseFile.tables hcreate.symm⟩
    · have hagain : prepared? (.tables t) = prepared? d.file := by rw [prepared?, hcreate, ht]
      rw [kept, kept, hagain]
  sound_release h := ⟨h.trouble, h.usable⟩
  kept_release _ _ _ := rfl
  load_eq {d n} h _ := by
    obtain ⟨rules, rows, hfile⟩ := h.tables
    obtain ⟨found, hfound⟩ := Tables.exists_lookup_eq rules rows n
    rw [kept_tables hfile rfl, hfound]
    simp [Store.load, load, h.isOpen, hfile, tables?, hfound]
  store_eq_ok {d n signatures e} h _ he := by
    obtain ⟨t, hstore, hready, hkept⟩ := store_eq_ok h he
    exact ⟨t, hstore, hready, fun m _ => hkept m⟩
  store_eq_error {d _ _ _} h := d.store_eq_error h

end Database

end Conformance.Baseline
