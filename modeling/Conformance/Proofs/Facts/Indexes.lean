import Mathlib.Data.List.Sort
import Conformance.Facts.Graph

/-! The indexes of a graph. They are built beside the nodes and the edges, one dependency after the
other, and tell nothing else than these: a graph is known by its nodes and edges. -/
namespace Conformance

theorem eq_of_increasing {α : Type} (key : α → String) {xs ys : List α}
    (h : xs.Pairwise (key · < key ·)) (h' : ys.Pairwise (key · < key ·))
    (hmem : ∀ x, x ∈ xs ↔ x ∈ ys) : xs = ys := by
  have : Std.Irrefl fun a b : α => key a < key b := ⟨fun a => String.lt_irrefl (key a)⟩
  have : Std.Antisymm fun a b : α => key a < key b :=
    ⟨fun a _ hab hba => absurd (String.lt_trans hab hba) (String.lt_irrefl (key a))⟩
  exact h.eq_of_mem_iff h' hmem

theorem Named.Increasing.ext {α : Type} {entries others : Named α} (h : entries.Increasing)
    (h' : others.Increasing) (hfind : ∀ name, entries.find? name = others.find? name) :
    entries = others := by
  refine eq_of_increasing Prod.fst h h' fun e => ?_
  rw [← Prod.mk.eta (p := e), h.mem_iff, h'.mem_iff, hfind]

theorem Tally.increasing_foldl_add {t : Tally} (h : t.Increasing) (names : List String) :
    (names.foldl add t).Increasing := by
  induction names generalizing t with
  | nil => exact h
  | cons name rest ih => exact ih (h.put _ _)

theorem Tally.mem_ofList_iff {names : List String} {name : String} {n : Nat} (h : 0 < n) :
    (name, n) ∈ ofList names ↔ names.count name = n := by
  have hincreasing : (ofList names).Increasing := increasing_foldl_add .nil names
  rw [hincreasing.mem_iff, ← count_ofList, count]
  cases (ofList names).find? name with
  | none => simp [h.ne]
  | some m => simp

namespace Facts

def findNode? (nodes : List Node) (name : String) : Option Node := nodes.find? (·.name == name)

theorem NameSet.ofList_concat (names : List String) (name : String) :
    ofList (names ++ [name]) = (ofList names).insert name := by
  rw [ofList, List.foldl_append]
  rfl

namespace Graph

def resolve (nodes : List Node) (name : String) : Node :=
  (findNode? nodes name).getD (.external name)

@[simp] theorem name_resolve (nodes : List Node) (name : String) :
    (resolve nodes name).name = name := by
  rw [resolve, findNode?]
  cases hfind : nodes.find? (·.name == name) with
  | none => rfl
  | some n => simpa using List.find?_some hfind

def targetsAmong (edges : List Edge) (source : String) : Option NameSet :=
  let names := (edges.filter (·.source.name == source)).map (·.target.name)
  if names.isEmpty then none else some (.ofList names)

theorem targetsAmong_concat (edges : List Edge) (e : Edge) (source : String) :
    targetsAmong (edges ++ [e]) source = if e.source.name = source
      then some (((targetsAmong edges source).getD .empty).insert e.target.name)
      else targetsAmong edges source := by
  simp only [targetsAmong, List.filter_append, List.map_append]
  by_cases h : e.source.name = source
  · cases hnames : (edges.filter (·.source.name == source)).map (·.target.name) with
    | nil =>
      simp [h]
      rfl
    | cons name rest => simp [h, ← NameSet.ofList_concat]
  · simp [h]

theorem mem_targetsAmong {edges : List Edge} {source target : String} :
    target ∈ (targetsAmong edges source).getD .empty ↔ ∃ e ∈ edges, e.names = (source, target) := by
  have hmem : target ∈ (targetsAmong edges source).getD .empty
      ↔ target ∈ (edges.filter (·.source.name == source)).map (·.target.name) := by
    rw [targetsAmong]
    cases (edges.filter (·.source.name == source)).map (·.target.name) with
    | nil => rfl
    | cons name rest => exact NameSet.mem_ofList
  rw [hmem]
  simp [Edge.names, and_assoc]

/-- The indexes agree with the nodes and the edges. -/
structure Indexed (g : Graph) : Prop where
  byName_increasing : g.byName.Increasing
  find?_byName : ∀ name, g.byName.find? name = findNode? g.nodes name
  targets_increasing : g.targets.Increasing
  find?_targets : ∀ source, g.targets.find? source = targetsAmong g.edges source
  duplicates_increasing : g.duplicates.Pairwise (· < ·)
  mem_duplicates_iff : ∀ name, name ∈ g.duplicates ↔ 1 < (g.nodes.map (·.name)).count name

/-! Building. -/

theorem find?_foldl_putNew (index : Named Node) (nodes : List Node) (name : String) :
    (nodes.foldl (fun index n => index.putNew n.name n) index).find? name
      = (index.find? name).or (findNode? nodes name) := by
  induction nodes generalizing index with
  | nil => simp [findNode?]
  | cons n rest ih =>
    rw [List.foldl_cons, ih, Named.find?_putNew, Option.or_assoc]
    unfold findNode?
    by_cases h : name = n.name
    · rw [if_pos h, List.find?_cons_of_pos (by simp [h]), Option.some_or]
    · rw [if_neg h, List.find?_cons_of_neg (by simpa using Ne.symm h), Option.none_or]

theorem increasing_foldl_putNew {index : Named Node} (h : index.Increasing) (nodes : List Node) :
    (nodes.foldl (fun index n => index.putNew n.name n) index).Increasing := by
  induction nodes generalizing index with
  | nil => exact h
  | cons n rest ih => exact ih (h.putNew _ _)

theorem indexed_ofNodes (nodes : List Node) : (ofNodes nodes).Indexed where
  byName_increasing := increasing_foldl_putNew .nil nodes
  find?_byName := find?_foldl_putNew [] nodes
  targets_increasing := .nil
  find?_targets _ := rfl
  duplicates_increasing := (NameSet.ofList _).increasing
  mem_duplicates_iff := by
    intro name
    refine NameSet.mem_ofList.trans ?_
    simp only [List.mem_map, List.mem_filter, decide_eq_true_iff]
    constructor
    · rintro ⟨⟨_, n⟩, ⟨hmem, hn⟩, rfl⟩
      have hcount := (Tally.mem_ofList_iff (by omega)).1 hmem
      exact hcount ▸ hn
    · intro hcount
      exact ⟨(name, _), ⟨(Tally.mem_ofList_iff (Nat.zero_lt_of_lt hcount)).2 rfl, hcount⟩, rfl⟩

section
variable {g : Graph} {p : String × String}

theorem Indexed.endOf_eq (h : g.Indexed) (name : String) : g.endOf name = resolve g.nodes name := by
  rw [endOf, h.find?_byName, resolve]

/-- One more dependency is entered under its source. -/
theorem Indexed.link (h : g.Indexed) (p : String × String) : (g.link p).Indexed where
  byName_increasing := h.byName_increasing
  find?_byName := h.find?_byName
  targets_increasing := h.targets_increasing.put _ _
  find?_targets := by
    intro source
    have hnames : ∀ name, (g.endOf name).name = name := by simp [h.endOf_eq]
    rw [Graph.link, targetsAmong_concat, hnames, hnames]
    by_cases hsource : source = p.1
    · rw [hsource, Named.find?_put_self, if_pos rfl, targetsOf, h.find?_targets]
    · rw [Named.find?_put_of_ne hsource, if_neg (Ne.symm hsource), h.find?_targets]
  duplicates_increasing := h.duplicates_increasing
  mem_duplicates_iff := h.mem_duplicates_iff

theorem Indexed.foldl_link (h : g.Indexed) (pairs : List (String × String)) :
    (pairs.foldl Graph.link g).Indexed := by
  induction pairs generalizing g with
  | nil => exact h
  | cons p rest ih => exact ih (h.link p)

theorem nodes_foldl_link (g : Graph) (pairs : List (String × String)) :
    (pairs.foldl link g).nodes = g.nodes := by
  induction pairs generalizing g with
  | nil => rfl
  | cons p rest ih => exact ih (g.link p)

theorem edges_foldl_link (g : Graph) (pairs : List (String × String)) :
    (pairs.foldl link g).edges = g.edges ++ pairs.map fun p => ⟨g.endOf p.1, g.endOf p.2⟩ := by
  induction pairs generalizing g with
  | nil => simp
  | cons p rest ih =>
    rw [List.foldl_cons, ih, link, List.append_assoc]
    rfl

end

section
variable (nodes : List Node) (pairs : List (String × String))

theorem indexed_build : (build nodes pairs).Indexed := (indexed_ofNodes _).foldl_link _

@[simp] theorem nodes_build : (build nodes pairs).nodes = sortedNodes nodes := nodes_foldl_link _ _

theorem edges_build : (build nodes pairs).edges = (sortedPairs pairs).map fun p =>
    ⟨resolve (sortedNodes nodes) p.1, resolve (sortedNodes nodes) p.2⟩ := by
  rw [build, ofSorted, edges_foldl_link]
  simp only [(indexed_ofNodes _).endOf_eq]
  rfl

theorem map_names_edges_build :
    (build nodes pairs).edges.map Edge.names = sortedPairs pairs := by
  simp [edges_build, Edge.names, Function.comp_def]

end

/-! Using the indexes. -/

section
variable {g h : Graph}

theorem Indexed.ext (hg : g.Indexed) (hh : h.Indexed) (hnodes : g.nodes = h.nodes)
    (hedges : g.edges = h.edges) : g = h := by
  have hbyName : g.byName = h.byName :=
    hg.byName_increasing.ext hh.byName_increasing fun name => by
      rw [hg.find?_byName, hh.find?_byName, hnodes]
  have htargets : g.targets = h.targets :=
    hg.targets_increasing.ext hh.targets_increasing fun source => by
      rw [hg.find?_targets, hh.find?_targets, hedges]
  have hduplicates : g.duplicates = h.duplicates :=
    eq_of_increasing id hg.duplicates_increasing hh.duplicates_increasing fun name => by
      rw [hg.mem_duplicates_iff, hh.mem_duplicates_iff, hnodes]
  cases g
  cases h
  simp_all

theorem validate_eq_ok (h : g.duplicates = []) : g.validate = .ok () := by
  rw [validate, h]
  rfl

theorem validate_of_duplicates (h : g.duplicates ≠ []) :
    g.validate = .error (.duplicateNodes g.duplicates) := by
  rw [validate, if_neg (by simpa using h)]

theorem Indexed.duplicates_eq_nil_iff (h : g.Indexed) :
    g.duplicates = [] ↔ (g.nodes.map (·.name)).Nodup := by
  simp only [List.eq_nil_iff_forall_not_mem, h.mem_duplicates_iff, List.nodup_iff_count_le_one,
    Nat.not_lt]

theorem Indexed.validate_eq_ok_iff (h : g.Indexed) :
    g.validate = .ok () ↔ (g.nodes.map (·.name)).Nodup := by
  rw [← h.duplicates_eq_nil_iff]
  refine ⟨fun hvalidate => ?_, validate_eq_ok⟩
  by_contra hdup
  rw [validate_of_duplicates hdup] at hvalidate
  contradiction

theorem Indexed.hasEdge_iff (h : g.Indexed) {source target : String} :
    g.hasEdge source target = true ↔ ∃ e ∈ g.edges, e.names = (source, target) := by
  rw [hasEdge, decide_eq_true_iff, targetsOf, h.find?_targets, mem_targetsAmong]

end

end Graph

end Facts

end Conformance
