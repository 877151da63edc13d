import Conformance.Baseline.Directory
import Conformance.Proofs.Baseline.Keeping

/-! A directory keeps each baseline in a file of its own. Writing goes through a temporary file,
which leaves no trace; names with different files do not touch each other. -/
namespace Conformance

theorem Named.find?_eq_none {α : Type} {name : String} {entries : Named α}
    (h : ∀ e ∈ entries, e.1 ≠ name) : entries.find? name = none := by
  induction entries with
  | nil => rfl
  | cons e rest ih =>
    rw [Named.find?, if_neg (h e (by simp)), ih fun x hx => h x (by simp [hx])]

namespace Baseline

theorem le_foldl_max (ns : List Nat) (m : Nat) :
    m ≤ ns.foldl max m ∧ ∀ n ∈ ns, n ≤ ns.foldl max m := by
  induction ns generalizing m with
  | nil => simp
  | cons k ns ih =>
    obtain ⟨hstart, hrest⟩ := ih (max m k)
    rw [List.foldl_cons]
    refine ⟨by omega, fun n hn => ?_⟩
    rcases List.mem_cons.1 hn with rfl | hn
    · omega
    · exact hrest n hn

def Occupant.content? : Occupant → Option ByteArray
  | .file content => some content
  | .directory => none

namespace Place

theorem find?_temporaryName (names : Named Occupant) :
    names.find? (temporaryName names) = none := by
  apply Named.find?_eq_none
  intro e he heq
  have hmax := (le_foldl_max (names.map fun e => e.1.length) 0).2 e.1.length
    (List.mem_map_of_mem he)
  have hlength := congrArg String.length heq
  have hstart : ".tmp-".length = 5 := rfl
  simp only [temporaryName, String.length_append, String.length_ofList, List.length_replicate,
    hstart] at hlength
  omega

def occupant? (name : String) : Place → Option Occupant
  | present names => names.find? name
  | _ => none

def IsUsable (p : Place) : Prop := ∃ names, p.make? = some names

def HasRoom (name : String) (p : Place) : Prop :=
  (p.occupant? name).any Occupant.isDirectory = false

theorem content?_eq_bind (name : String) (p : Place) :
    p.content? name = (p.occupant? name).bind Occupant.content? := by
  cases p with
  | absent => rfl
  | blocked => rfl
  | present names =>
    rw [content?, occupant?]
    rcases names.find? name with _ | (_ | _) <;> rfl

theorem occupant?_make {p : Place} {names : Named Occupant} (h : p.make? = some names)
    (name : String) : (present names).occupant? name = p.occupant? name := by
  cases p with
  | absent =>
    obtain rfl : [] = names := Option.some.inj h
    rfl
  | blocked => contradiction
  | present others =>
    obtain rfl : others = names := Option.some.inj h
    rfl

theorem find?_erase_temporaryName (names : Named Occupant) (o : Occupant) (name : String) :
    ((names.put (temporaryName names) o).erase (temporaryName names)).find? name
      = names.find? name := by
  by_cases h : name = temporaryName names
  · rw [h, Named.find?_erase_self, find?_temporaryName]
  · rw [Named.find?_erase_of_ne h, Named.find?_put_of_ne h]

section
variable (trouble : Option WriteStep) (name : String) (content : ByteArray)

/-- Writing is given up before anything is touched, or goes on in a directory that is there. -/
theorem write_cases (p : Place) : p.write trouble name content = (false, p) ∨
    ∃ names, p.make? = some names ∧ p.write trouble name content
      = ((replaceFile trouble name content names).1,
        present (replaceFile trouble name content names).2) := by
  rw [write]
  split
  · exact .inl rfl
  · cases hmake : p.make? with
    | none => exact .inl rfl
    | some names => exact .inr ⟨names, rfl, rfl⟩

theorem find?_replaceFile (names : Named Occupant) (n : String) :
    (replaceFile trouble name content names).2.find? n
      = if (replaceFile trouble name content names).1 = true ∧ n = name then some (.file content)
        else names.find? n := by
  have herase := find?_erase_temporaryName names (.file content) n
  simp only [replaceFile]
  split
  · simp
  · split
    · simpa using herase
    · by_cases hn : n = name
      · simp [hn]
      · simpa [hn, Named.find?_put_of_ne hn] using herase

theorem isSome_make?_write (p : Place) :
    (p.write trouble name content).2.make?.isSome = p.make?.isSome := by
  rcases write_cases trouble name content p with h | ⟨names, hmake, h⟩
  · rw [h]
  · rw [h, hmake]
    rfl

theorem occupant?_write (p : Place) (n : String) :
    (p.write trouble name content).2.occupant? n
      = if (p.write trouble name content).1 = true ∧ n = name then some (.file content)
        else p.occupant? n := by
  rcases write_cases trouble name content p with h | ⟨names, hmake, h⟩
  · simp [h]
  · rw [h, ← occupant?_make hmake]
    exact find?_replaceFile trouble name content names n

theorem write_done (p : Place) : (p.write trouble name content).1
    = (trouble.isNone && p.make?.isSome && !(p.occupant? name).any Occupant.isDirectory) := by
  cases hmake : p.make? with
  | none => simp [write, hmake]
  | some names =>
    rw [← occupant?_make hmake]
    rcases trouble with _ | _ | _ | _ | _ | _ | _
    all_goals simp [write, hmake, replaceFile, occupant?]
    cases (names.find? name).any Occupant.isDirectory <;> rfl

end

theorem write_eq_true {name : String} {p : Place} (husable : p.IsUsable) (hroom : p.HasRoom name)
    (content : ByteArray) :
    ∃ q : Place, p.write none name content = (true, q) ∧ q.IsUsable ∧
      ∀ n, q.occupant? n = if n = name then some (.file content) else p.occupant? n := by
  have hmake : p.make?.isSome = true := Option.isSome_iff_exists.2 husable
  have hdone : (p.write none name content).1 = true := by
    rw [write_done, hmake, hroom]
    rfl
  refine ⟨(p.write none name content).2, Prod.ext hdone rfl, ?_, fun n => ?_⟩
  · exact Option.isSome_iff_exists.1 ((isSome_make?_write none name content p).trans hmake)
  · rw [occupant?_write, hdone]
    simp

end Place

theorem head?_slug_eq {m n : String} (h : fileName m = fileName n) :
    ((slug m.toList).head?.getD '-') = (slug n.toList).head?.getD '-' := by
  have hhead := congrArg (fun s => s.toList.head?) h
  simpa [fileName, fileNameBy] using hhead

namespace Directory

theorem store_eq_error (d : Directory) {rule : String} {signatures : List Signature}
    {fault : Fault} (h : Entries.ofSignatures rule signatures = .error fault) :
    d.store rule signatures = (.error fault, d) := by
  rw [Directory.store, h]

theorem load_congr {d : Directory} {p : Place} {rule : String}
    (h : p.occupant? (fileName rule) = d.place.occupant? (fileName rule)) :
    ({ d with place := p } : Directory).load rule = d.load rule := by
  simp only [load, Place.content?_eq_bind, h]
  rfl

theorem store_eq_ok {d : Directory} {rule : String} {signatures : List Signature} {e : Entries}
    (htrouble : d.trouble = none) (husable : d.place.IsUsable)
    (hroom : d.place.HasRoom (fileName rule))
    (h : Entries.ofSignatures rule signatures = .ok e) :
    ∃ p : Place, d.store rule signatures = (.ok (), { d with place := p }) ∧ p.IsUsable ∧
      ∀ n, p.occupant? n =
        if n = fileName rule then some (.file (e.text rule).toUTF8) else d.place.occupant? n := by
  obtain ⟨p, hwrite, hmade, hothers⟩ := Place.write_eq_true husable hroom (e.text rule).toUTF8
  refine ⟨p, ?_, hmade, hothers⟩
  rw [Directory.store, h]
  simp only [htrouble, hwrite]
  rfl

theorem load_eq_of_file {d : Directory} {rule : String} {e : Entries}
    (h : d.place.occupant? (fileName rule) = some (.file (e.text rule).toUTF8)) :
    d.load rule = .ok (some e) := by
  simp only [load, Place.content?_eq_bind, h, Option.bind_some, Occupant.content?,
    Entries.ofContent_text]
  rfl

/-- Whether nothing stands in the way of a directory, and every file under a name in use holds a
baseline of that name. -/
structure Sound (names : Set String) (d : Directory) : Prop where
  trouble : d.trouble = none
  usable : d.place.IsUsable
  room : ∀ n ∈ names, d.place.HasRoom (fileName n)
  readable : ∀ n ∈ names, ∃ found, d.load n = .ok found

def kept (d : Directory) (n : String) : Option Entries :=
  match d.load n with
  | .ok found => found
  | .error _ => none

def keeping {names : Set String} (apart : names.InjOn fileName) : Keeping Directory names where
  Sound := Sound names
  Ready := Sound names
  kept := kept
  sound_of_ready h := h
  prepare_eq {d} h := by
    obtain ⟨found, hmake⟩ := h.usable
    have hload : ∀ n, ({ d with place := .present found } : Directory).load n = d.load n :=
      fun n => load_congr (Place.occupant?_make hmake _)
    refine ⟨{ d with place := .present found }, ?_, ⟨h.trouble, ⟨found, rfl⟩, ?_, ?_⟩, ?_⟩
    · have htrouble : (d.trouble == some .makeDirectory) = false := by rw [h.trouble]; rfl
      simp [Store.prepare, prepare, htrouble, hmake]
    · intro n hn
      rw [Place.HasRoom, Place.occupant?_make hmake]
      exact h.room n hn
    · intro n hn
      rw [hload]
      exact h.readable n hn
    · intro n _
      rw [kept, kept, hload]
  sound_release h := h
  kept_release _ _ _ := rfl
  load_eq {d n} h hn := by
    obtain ⟨found, hfound⟩ := h.readable n hn
    have hkept : kept d n = found := by rw [kept, hfound]
    rw [hkept]
    exact hfound
  store_eq_ok {d n signatures e} h hn he := by
    obtain ⟨p, hstore, hmade, hothers⟩ := store_eq_ok h.trouble h.usable (h.room n hn) he
    have hown : ({ d with place := p } : Directory).load n = .ok (some e) :=
      load_eq_of_file (by rw [hothers, if_pos rfl])
    have hother : ∀ m ∈ names, m ≠ n →
        ({ d with place := p } : Directory).load m = d.load m := by
      intro m hm hne
      have hfile : fileName m ≠ fileName n := fun heq => hne (apart hm hn heq)
      exact load_congr (by rw [hothers, if_neg hfile])
    refine ⟨{ d with place := p }, hstore, ⟨h.trouble, hmade, ?_, ?_⟩, ?_⟩
    · intro m hm
      rw [Place.HasRoom, hothers]
      split
      · rfl
      · exact h.room m hm
    · intro m hm
      by_cases hne : m = n
      · exact ⟨some e, hne ▸ hown⟩
      · rw [hother m hm hne]
        exact h.readable m hm
    · intro m hm
      by_cases hne : m = n
      · rw [if_pos hne, hne, kept, hown]
      · rw [if_neg hne, kept, kept, hother m hm hne]
  store_eq_error {d _ _ _} h := d.store_eq_error h

end Directory

end Baseline

end Conformance
