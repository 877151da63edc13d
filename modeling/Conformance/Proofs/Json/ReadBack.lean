import Conformance.Json.Reader
import Conformance.Json.Writer
import Mathlib.Data.List.Nodup

/-! Written documents read back. A document of texts, lists and mappings with different keys is
read as it was written, whatever characters its texts hold. -/
namespace Conformance.Json

open Text

/-! Strings: every character is read back from the way it is escaped. -/

theorem readChars_short {e x : Char} (he : e ≠ 'u') (hx : shortEscape? e = some x)
    (s : List Char) :
    readChars none ('\\' :: e :: s)
      = (readChars none s).map fun found => (x :: found.1, found.2) := by
  rw [readChars]
  · simp only [Option.map_none, Option.toList_none, hx]
    cases readChars none s <;> rfl
  · intro a b c d rest _ h
    exact he (List.cons.inj h).1

theorem readChars_plain {c : Char} (hq : c ≠ '"') (hb : c ≠ '\\') (hc : ¬c.toNat < 0x20)
    (s : List Char) :
    readChars none (c :: s) = (readChars none s).map fun found => (c :: found.1, found.2) := by
  cases s with
  | nil =>
    rw [readChars]
    simp [hq, hb, hc, readChars]
  | cons d s =>
    rw [readChars]
    · simp only [beq_iff_eq, hq, hb, hc, if_false]
      cases readChars none (d :: s) <;> rfl
    · intro a b d e rest h
      exact absurd h hb

theorem hexNumber?_hex_of_lt : ∀ n < 0x20, (hex 4 n).length = 4 ∧
    hexNumber? (hex 4 n) = some n ∧ isHigh n = false ∧ unitChar n = Char.ofNat n := by
  decide

theorem readChars_control {c : Char} (hc : c.toNat < 0x20) (s : List Char) :
    readChars none ('\\' :: 'u' :: (hex 4 c.toNat ++ s))
      = (readChars none s).map fun found => (c :: found.1, found.2) := by
  obtain ⟨hlength, hnumber, hhigh, hchar⟩ := hexNumber?_hex_of_lt c.toNat hc
  match hdigits : hex 4 c.toNat, hlength with
  | [x, y, z, w], _ =>
    rw [hdigits] at hnumber
    rw [List.cons_append, List.cons_append, List.cons_append, List.cons_append, List.nil_append,
      readChars, hnumber, Option.bind_eq_bind, Option.bind_some, hhigh, hchar, Char.ofNat_toNat]
    cases readChars none s <;> rfl

theorem readChars_escape (c : Char) (s : List Char) :
    readChars none (escape c ++ s)
      = (readChars none s).map fun found => (c :: found.1, found.2) := by
  unfold escape
  iterate 7
    split
    · next h =>
      rw [beq_iff_eq.1 h]
      exact readChars_short (by decide) rfl s
  split
  · next h => exact readChars_control h s
  · next hq hb _ _ _ _ _ hc =>
    exact readChars_plain (by simpa using hq) (by simpa using hb) hc s

theorem readChars_flatMap_escape (cs s : List Char) :
    readChars none (cs.flatMap escape ++ '"' :: s) = some (cs, s) := by
  induction cs with
  | nil => cases s <;> simp [readChars]
  | cons c cs ih => rw [List.flatMap_cons, List.append_assoc, readChars_escape, ih]; rfl

/-! Values: a text reads as a value if it does so whatever follows it. -/

def Solid (t : List Char) : Prop :=
  ∃ c s, t = c :: s ∧ isSpace c = false ∧ c ≠ ']' ∧ c ≠ '\x7d'

/-- A text that reads as a value wherever it stands. -/
structure Reads (t : List Char) (d : Datum) : Prop where
  solid : Solid t
  read : ∀ fuel s, t.length < fuel → readValue fuel (t ++ s) = some (d, s)

theorem skipSpace_cons {c : Char} (hc : isSpace c = false) (s : List Char) :
    skipSpace (c :: s) = c :: s := by
  simp [skipSpace, hc]

theorem skipSpace_newline (depth : Nat) (s : List Char) :
    skipSpace (newline depth ++ s) = skipSpace s := by
  apply List.dropWhile_append_of_pos
  intro c hc
  rcases List.mem_cons.1 hc with rfl | hc
  · rfl
  · rw [List.eq_of_mem_replicate hc]
    rfl

theorem Solid.append {t : List Char} (h : Solid t) (s : List Char) : Solid (t ++ s) := by
  obtain ⟨c, t, rfl, hc, hend⟩ := h
  exact ⟨c, t ++ s, rfl, hc, hend⟩

theorem Solid.skipSpace_eq {t : List Char} (h : Solid t) : skipSpace t = t := by
  obtain ⟨c, s, rfl, hc, _⟩ := h
  exact skipSpace_cons hc s

theorem solid_writeText (s : String) : Solid (writeText s) := ⟨'"', _, rfl, rfl, by decide, by decide⟩

theorem readChars_writeText (s : String) (rest : List Char) :
    readChars none (s.toList.flatMap escape ++ (['"'] ++ rest)) = some (s.toList, rest) :=
  readChars_flatMap_escape s.toList rest

theorem reads_writeText (s : String) : Reads (writeText s) (.text s) where
  solid := solid_writeText s
  read fuel rest h := by
    cases fuel with
    | zero => contradiction
    | succ fuel =>
      rw [writeText, List.append_assoc, List.cons_append, readValue, readChars_writeText]
      simp

theorem joinWith_cons_cons (sep t u : List Char) (ts : List (List Char)) :
    joinWith sep (t :: u :: ts) = t ++ (sep ++ joinWith sep (u :: ts)) := by
  simp [joinWith]

theorem solid_joinWith (sep : List Char) {t : List Char} (h : Solid t) (ts : List (List Char)) :
    Solid (joinWith sep (t :: ts)) := by
  cases ts with
  | nil => exact h
  | cons u ts =>
    rw [joinWith_cons_cons]
    exact h.append _

theorem skipSpace_newline_joinWith {sep t : List Char} (h : Solid t) (ts : List (List Char))
    (depth : Nat) (s : List Char) :
    skipSpace (newline depth ++ (joinWith sep (t :: ts) ++ s)) = joinWith sep (t :: ts) ++ s := by
  rw [skipSpace_newline]
  exact ((solid_joinWith sep h ts).append s).skipSpace_eq

theorem readItems_joinWith {write : Datum → List Char} (depth closing fuel : Nat) {d : Datum}
    {ds : List Datum} (h : ∀ x ∈ d :: ds, Reads (write x) x) (s : List Char)
    (hfuel : (joinWith (',' :: newline depth) ((d :: ds).map write)).length + 1 < fuel) :
    readItems fuel (joinWith (',' :: newline depth) ((d :: ds).map write)
      ++ (newline closing ++ ']' :: s)) = some (d :: ds, s) := by
  induction ds generalizing d fuel with
  | nil =>
    obtain ⟨fuel, rfl⟩ : ∃ n, fuel = n + 1 := ⟨fuel - 1, by omega⟩
    have hlength : (write d).length < fuel := by simpa [joinWith] using hfuel
    have hd := (h d (by simp)).read fuel (newline closing ++ ']' :: s) hlength
    rw [List.map_singleton, joinWith, readItems, hd, Option.bind_eq_bind, Option.bind_some]
    simp only [skipSpace_newline, skipSpace_cons (show isSpace ']' = false from rfl)]
    rfl
  | cons e ds ih =>
    obtain ⟨fuel, rfl⟩ : ∃ n, fuel = n + 1 := ⟨fuel - 1, by omega⟩
    rw [List.map_cons, List.map_cons, joinWith_cons_cons, ← List.map_cons] at hfuel ⊢
    simp only [List.length_append, List.length_cons] at hfuel
    have he := (h e (by simp)).solid
    have ih := ih fuel (fun x hx => h x (List.mem_cons_of_mem d hx)) (by omega)
    have hd := (h d (by simp)).read fuel ((',' :: newline depth ++ joinWith (',' :: newline depth)
      ((e :: ds).map write)) ++ (newline closing ++ ']' :: s)) (by omega)
    rw [List.append_assoc, readItems, hd, Option.bind_eq_bind, Option.bind_some]
    simp only [List.cons_append, List.append_assoc,
      skipSpace_cons (show isSpace ',' = false from rfl)]
    rw [List.map_cons, skipSpace_newline_joinWith he, ← List.map_cons, ih]
    rfl

def entryText (write : Datum → List Char) (e : String × Datum) : List Char :=
  writeText e.1 ++ ':' :: ' ' :: write e.2

theorem solid_entryText (write : Datum → List Char) (e : String × Datum) :
    Solid (entryText write e) :=
  (solid_writeText e.1).append _

theorem insert_of_forall {key : Scalar} {entries : List (Scalar × Datum)}
    (h : ∀ e ∈ entries, e.1.same key = false) (value : Datum) :
    Datum.insert key value entries = entries ++ [(key, value)] := by
  induction entries with
  | nil => rfl
  | cons e entries ih =>
    rw [Datum.insert, if_neg (by simp [h e]), ih fun x hx => h x (by simp [hx])]
    rfl

theorem readEntries_entryText {write : Datum → List Char} {e : String × Datum}
    (he : Reads (write e.2) e.2) {fuel : Nat} (hfuel : (entryText write e).length ≤ fuel)
    (before : List (Scalar × Datum)) (s : List Char) :
    readEntries (fuel + 1) (entryText write e ++ s) before =
      match skipSpace s with
      | ',' :: rest => readEntries fuel (skipSpace rest) (Datum.insert (.text e.1) e.2 before)
      | '}' :: rest => some (Datum.insert (.text e.1) e.2 before, rest)
      | _ => none := by
  have htext : entryText write e ++ s
      = '"' :: (e.1.toList.flatMap escape ++ (['"'] ++ ([':', ' '] ++ (write e.2 ++ s)))) := by
    simp [entryText, writeText]
  have hspace : skipSpace (' ' :: (write e.2 ++ s)) = write e.2 ++ s :=
    (he.solid.append s).skipSpace_eq
  have hvalue : readValue fuel (write e.2 ++ s) = some (e.2, s) := by
    apply he.read
    simp only [entryText, List.length_append, List.length_cons] at hfuel
    omega
  rw [htext, readEntries, readChars_writeText, Option.bind_eq_bind, Option.bind_some]
  simp only [List.cons_append, List.nil_append, skipSpace_cons (show isSpace ':' = false from rfl),
    hspace, hvalue, Option.bind_eq_bind, Option.bind_some, String.ofList_toList]
  cases skipSpace s <;> rfl

def textEntries (es : List (String × Datum)) : List (Scalar × Datum) :=
  es.map fun e => (.text e.1, e.2)

theorem readEntries_joinWith {write : Datum → List Char} (depth closing fuel : Nat)
    {e : String × Datum} {es : List (String × Datum)} {before : List (Scalar × Datum)}
    (h : ∀ x ∈ e :: es, Reads (write x.2) x.2) (hkeys : ((e :: es).map Prod.fst).Nodup)
    (hbefore : ∀ x ∈ e :: es, ∀ b ∈ before, b.1.same (.text x.1) = false) (s : List Char)
    (hfuel : (joinWith (',' :: newline depth) ((e :: es).map (entryText write))).length + 1
      < fuel) :
    readEntries fuel (joinWith (',' :: newline depth) ((e :: es).map (entryText write))
      ++ (newline closing ++ '}' :: s)) before = some (before ++ textEntries (e :: es), s) := by
  have hinsert := insert_of_forall (hbefore e (by simp)) e.2
  induction es generalizing e fuel before with
  | nil =>
    obtain ⟨fuel, rfl⟩ : ∃ n, fuel = n + 1 := ⟨fuel - 1, by omega⟩
    rw [List.map_singleton, joinWith] at hfuel ⊢
    rw [readEntries_entryText (h e (by simp)) (by omega), skipSpace_newline,
      skipSpace_cons rfl, hinsert]
    rfl
  | cons f es ih =>
    obtain ⟨fuel, rfl⟩ : ∃ n, fuel = n + 1 := ⟨fuel - 1, by omega⟩
    rw [List.map_cons, List.map_cons, joinWith_cons_cons, ← List.map_cons] at hfuel ⊢
    simp only [List.length_append, List.length_cons] at hfuel
    obtain ⟨hfresh, hkeys⟩ := List.nodup_cons.1 hkeys
    have hbefore : ∀ x ∈ f :: es, ∀ b ∈ before ++ [(.text e.1, e.2)],
        b.1.same (.text x.1) = false := by
      intro x hx b hb
      rcases List.mem_append.1 hb with hb | hb
      · exact hbefore x (List.mem_cons_of_mem e hx) b hb
      · obtain rfl := List.mem_singleton.1 hb
        rw [Scalar.same_text, beq_eq_false_iff_ne]
        intro heq
        exact hfresh (heq ▸ List.mem_map_of_mem hx)
    have ih := ih fuel (fun x hx => h x (List.mem_cons_of_mem e hx)) hkeys hbefore
      (by omega) (insert_of_forall (hbefore f (by simp)) f.2)
    rw [List.append_assoc, readEntries_entryText (h e (by simp)) (by omega), hinsert]
    simp only [List.cons_append, List.append_assoc,
      skipSpace_cons (show isSpace ',' = false from rfl)]
    rw [List.map_cons, skipSpace_newline_joinWith (solid_entryText write f), ← List.map_cons, ih]
    simp [textEntries]

theorem indentedItems_eq_map (depth : Nat) (ds : List Datum) :
    indentedItems depth ds = ds.map (indented depth) := by
  induction ds with
  | nil => rfl
  | cons d ds ih => rw [indentedItems, ih, List.map_cons]

theorem indentedEntries_eq_map (depth : Nat) (es : List (String × Datum)) :
    indentedEntries depth (textEntries es) = es.map (entryText (indented depth)) := by
  induction es with
  | nil => rfl
  | cons e es ih =>
    rw [textEntries, List.map_cons, indentedEntries, ← textEntries, ih]
    rfl

theorem enclose_cons (opening closing : Char) (depth : Nat) (t : List Char)
    (ts : List (List Char)) (s : List Char) :
    enclose opening closing depth (t :: ts) ++ s = opening :: (newline (depth + 1)
      ++ (joinWith (',' :: newline (depth + 1)) (t :: ts) ++ (newline depth ++ closing :: s))) := by
  simp [enclose]

theorem length_newline (depth : Nat) : (newline depth).length = 2 * depth + 1 := by
  simp [newline]

theorem length_joinWith_lt (opening closing : Char) (depth : Nat) (t : List Char)
    (ts : List (List Char)) :
    (joinWith (',' :: newline (depth + 1)) (t :: ts)).length + 2
      < (enclose opening closing depth (t :: ts)).length := by
  have h := congrArg List.length (enclose_cons opening closing depth t ts [])
  simp only [List.append_nil, List.length_append, List.length_cons, length_newline] at h
  omega

theorem reads_list {depth : Nat} {ds : List Datum}
    (h : ∀ x ∈ ds, Reads (indented (depth + 1) x) x) :
    Reads (indented depth (.list ds)) (.list ds) := by
  rw [indented, indentedItems_eq_map]
  refine ⟨by cases ds <;> exact ⟨'[', _, rfl, rfl, by decide, by decide⟩, fun fuel s hfuel => ?_⟩
  obtain ⟨fuel, rfl⟩ : ∃ n, fuel = n + 1 := ⟨fuel - 1, by omega⟩
  cases ds with
  | nil => rfl
  | cons d ds =>
    have hd := (h d (by simp)).solid
    have hlength := length_joinWith_lt '[' ']' depth (indented (depth + 1) d)
      (ds.map (indented (depth + 1)))
    have hitems := readItems_joinWith (depth + 1) depth fuel h s
      (by rw [List.map_cons] at hfuel ⊢; omega)
    obtain ⟨c, u, hcu, _, hc, _⟩ := (solid_joinWith (',' :: newline (depth + 1)) hd
      (ds.map (indented (depth + 1)))).append (newline depth ++ ']' :: s)
    rw [List.map_cons] at hitems ⊢
    rw [enclose_cons, readValue, skipSpace_newline_joinWith hd]
    rw [hcu] at hitems ⊢
    split
    · next hend => exact absurd (List.cons.inj hend).1 hc
    · rw [hitems]
      rfl

theorem reads_mapping {depth : Nat} {es : List (String × Datum)}
    (h : ∀ x ∈ es, Reads (indented (depth + 1) x.2) x.2) (hkeys : (es.map Prod.fst).Nodup) :
    Reads (indented depth (.mapping (textEntries es))) (.mapping (textEntries es)) := by
  rw [indented, indentedEntries_eq_map]
  refine ⟨by cases es <;> exact ⟨'\x7b', _, rfl, rfl, by decide, by decide⟩, fun fuel s hfuel => ?_⟩
  obtain ⟨fuel, rfl⟩ : ∃ n, fuel = n + 1 := ⟨fuel - 1, by omega⟩
  cases es with
  | nil => rfl
  | cons e es =>
    have he := solid_entryText (indented (depth + 1)) e
    have hlength := length_joinWith_lt '\x7b' '\x7d' depth (entryText (indented (depth + 1)) e)
      (es.map (entryText (indented (depth + 1))))
    have hapart : ∀ x ∈ e :: es, ∀ b ∈ ([] : List (Scalar × Datum)),
        b.1.same (.text x.1) = false := by simp
    have hentries := readEntries_joinWith (depth + 1) depth fuel h hkeys hapart s
      (by rw [List.map_cons] at hfuel ⊢; omega)
    obtain ⟨c, u, hcu, _, _, hc⟩ := (solid_joinWith (',' :: newline (depth + 1)) he
      (es.map (entryText (indented (depth + 1))))).append (newline depth ++ '\x7d' :: s)
    rw [List.map_cons] at hentries ⊢
    rw [enclose_cons, readValue, skipSpace_newline_joinWith he]
    rw [hcu] at hentries ⊢
    split
    · next hend => exact absurd (List.cons.inj hend).1 hc
    · rw [hentries]
      rfl

/-- Documents of texts, lists, and mappings from different texts. -/
inductive Textual : Datum → Prop
  | text (s : String) : Textual (.text s)
  | list {ds : List Datum} : (∀ d ∈ ds, Textual d) → Textual (.list ds)
  | mapping {es : List (String × Datum)} : (∀ e ∈ es, Textual e.2) → (es.map Prod.fst).Nodup →
      Textual (.mapping (textEntries es))

theorem Textual.reads {d : Datum} (h : Textual d) (depth : Nat) : Reads (indented depth d) d := by
  induction h generalizing depth with
  | text s => exact reads_writeText s
  | list _ ih => exact reads_list fun x hx => ih x hx (depth + 1)
  | mapping _ hkeys ih => exact reads_mapping (fun x hx => ih x hx (depth + 1)) hkeys

/-- A written document reads back, and a last new line does no harm. -/
theorem Textual.read?_write {d : Datum} (h : Textual d) : read? (write d ++ "\n") = some d := by
  have hreads := h.reads 0
  have hvalue := hreads.read ((indented 0 d ++ ['\n']).length + 1) ['\n']
    (by rw [List.length_append]; omega)
  have hlist : (write d ++ "\n").toList = indented 0 d ++ ['\n'] := by
    simp [write]
  have hstart : skipSpace (indented 0 d ++ ['\n']) = indented 0 d ++ ['\n'] :=
    (hreads.solid.append _).skipSpace_eq
  simp only [read?, hlist, hstart, hvalue, Option.bind_eq_bind, Option.bind_some]
  rfl

end Conformance.Json
