/-! Values under names, in order of the names. -/
namespace Conformance

abbrev Named (α : Type) := List (String × α)

namespace Named

variable {α : Type}

def find? (name : String) : Named α → Option α
  | [] => none
  | e :: rest => if e.1 = name then some e.2 else find? name rest

def put (name : String) (value : α) : Named α → Named α
  | [] => [(name, value)]
  | e :: rest =>
    if e.1 = name then (name, value) :: rest
    else if name < e.1 then (name, value) :: e :: rest
    else e :: put name value rest

def putNew (name : String) (value : α) (entries : Named α) : Named α :=
  if (entries.find? name).isSome then entries else entries.put name value

def erase (name : String) (entries : Named α) : Named α := entries.filter fun e => e.1 ≠ name

@[simp] theorem find?_put_self (name : String) (value : α) (entries : Named α) :
    (entries.put name value).find? name = some value := by
  induction entries with
  | nil => simp [put, find?]
  | cons e rest ih =>
    by_cases h : e.1 = name
    · simp [put, h, find?]
    · by_cases h' : name < e.1 <;> simp [put, h, h', find?, ih]

theorem find?_put_of_ne {name other : String} (h : other ≠ name) (value : α) (entries : Named α) :
    (entries.put name value).find? other = entries.find? other := by
  induction entries with
  | nil => simp [put, find?, Ne.symm h]
  | cons e rest ih =>
    by_cases he : e.1 = name
    · simp [put, he, find?, Ne.symm h]
    · by_cases h' : name < e.1
      · simp [put, he, h', find?, Ne.symm h]
      · simp [put, he, h', find?, ih]

theorem find?_putNew (name other : String) (value : α) (entries : Named α) :
    (entries.putNew name value).find? other
      = (entries.find? other).or (if other = name then some value else none) := by
  by_cases h : other = name
  · subst h
    cases hfind : entries.find? other <;> simp [putNew, hfind]
  · cases hfind : entries.find? name <;> simp [putNew, hfind, h, find?_put_of_ne]

@[simp] theorem find?_erase_self (name : String) (entries : Named α) :
    (entries.erase name).find? name = none := by
  induction entries with
  | nil => rfl
  | cons e rest ih =>
    by_cases h : e.1 = name <;> simp_all [erase, find?]

theorem find?_erase_of_ne {name other : String} (h : other ≠ name) (entries : Named α) :
    (entries.erase name).find? other = entries.find? other := by
  induction entries with
  | nil => rfl
  | cons e rest ih =>
    by_cases he : e.1 = name
    · simp_all [erase, find?, Ne.symm h]
    · by_cases ho : e.1 = other <;> simp_all [erase, find?]

def Increasing (entries : Named α) : Prop := entries.Pairwise (·.1 < ·.1)

theorem name_of_mem_put {name : String} {value : α} {entries : Named α} {e : String × α}
    (h : e ∈ entries.put name value) : e.1 = name ∨ e ∈ entries := by
  induction entries with
  | nil => exact .inl (by simp_all [put])
  | cons first rest ih =>
    rw [put] at h
    grind

theorem Increasing.put {entries : Named α} (h : entries.Increasing) (name : String) (value : α) :
    (entries.put name value).Increasing := by
  induction entries with
  | nil => simp [Named.put, Increasing]
  | cons first rest ih =>
    obtain ⟨hfirst, hrest⟩ := List.pairwise_cons.1 h
    rw [Named.put]
    split
    · next heq =>
      exact List.pairwise_cons.2 ⟨fun e he => heq ▸ hfirst e he, hrest⟩
    · next hne =>
      split
      · next hlt =>
        refine List.pairwise_cons.2 ⟨fun e he => ?_, h⟩
        rcases List.mem_cons.1 he with rfl | he
        · exact hlt
        · exact String.lt_trans hlt (hfirst e he)
      · next hlt =>
        refine List.pairwise_cons.2 ⟨fun e he => ?_, ih hrest⟩
        rcases name_of_mem_put he with hname | he
        · rw [hname]
          exact String.not_le.1 fun hle => hne (String.le_antisymm (String.not_lt.1 hlt) hle)
        · exact hfirst e he

theorem Increasing.putNew {entries : Named α} (h : entries.Increasing) (name : String)
    (value : α) : (entries.putNew name value).Increasing := by
  rw [Named.putNew]
  split
  · exact h
  · exact h.put name value

theorem Increasing.mem_iff {entries : Named α} (h : entries.Increasing) {name : String}
    {value : α} : (name, value) ∈ entries ↔ entries.find? name = some value := by
  induction entries with
  | nil => simp [find?]
  | cons e rest ih =>
    obtain ⟨he, hrest⟩ := List.pairwise_cons.1 h
    rw [List.mem_cons, ih hrest, find?]
    split
    · next hname =>
      have hlater : Named.find? name rest ≠ some value := by
        intro hfind
        have hlt := he (name, value) ((ih hrest).2 hfind)
        rw [hname] at hlt
        exact String.lt_irrefl name hlt
      simp [hlater, Prod.ext_iff, hname, eq_comm]
    · next hname =>
      have hne : (name, value) ≠ e := fun h => hname (h ▸ rfl)
      simp [hne]

end Named

/-- How often each of some texts occurs. -/
abbrev Tally := Named Nat

namespace Tally

def count (t : Tally) (name : String) : Nat := (t.find? name).getD 0

def add (t : Tally) (name : String) : Tally := t.put name (t.count name + 1)

def ofList (names : List String) : Tally := names.foldl add []

theorem count_add (t : Tally) (name other : String) :
    (t.add name).count other = t.count other + if name = other then 1 else 0 := by
  by_cases h : name = other
  · subst h
    simp [count, add]
  · simp [count, add, Named.find?_put_of_ne (Ne.symm h), h]

theorem count_foldl_add (t : Tally) (names : List String) (name : String) :
    (names.foldl add t).count name = t.count name + names.count name := by
  induction names generalizing t with
  | nil => simp
  | cons other rest ih =>
    rw [List.foldl_cons, ih, count_add, List.count_cons]
    simp only [beq_iff_eq]
    omega

@[simp] theorem count_ofList (names : List String) (name : String) :
    (ofList names).count name = names.count name := by
  rw [ofList, count_foldl_add]
  simp [count, Named.find?]

end Tally

end Conformance
