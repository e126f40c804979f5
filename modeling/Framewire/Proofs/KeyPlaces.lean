/-
**Where the values of a document come to stand.**

A document is read entry by entry: the key at the top is a path, and what stands under it is put in
its place, merged with what is there.  Here one place is followed, a key of a table at the top.  It
gets what the document writes under any spelling of the two keys, and it does not matter what else
is in the document, as long as no other path leads there.

Main definitions:

* `KeyPath.ofKey` — the path that a key at the top stands for;
* `KeyPath.passes` — **a path leads past** a key of a table;
* `Value.at?` — what stands under a key of a table at the top;
* `Entries.spelled`, `Entries.written` — what stands under the spellings of a key, and under those
  of a key of a table.

Main results:

* `KeyPath.ofKey_of_plain` — a key without points and brackets is a name;
* `Value.lookup?_placeAll` — what a table gets under a key when another table is merged into it;
* `Value.at?_placeKey_of_passes`, `Value.at?_placeKey_of_spelled` — what one entry of a document
  does to the place;
* `Value.at?_normalize` — **the place gets what is written there**, from every document.
-/

import Framewire.Document.KeyPath

set_option autoImplicit false

namespace Framewire

/-! ### The path of a key -/

namespace KeyPath

/-- The path that a key at the top of a document stands for: the one that it writes, or the key
itself as a name. -/
def ofKey (key : String) : KeyPath := (parse? key).getD [.name key]

theorem name_eq (text : List Char) : name text =
    ((if (text.takeWhile isName).isEmpty then failure
      else pure (text.takeWhile isName) : Reader (List Char)) (text.dropWhile isName)).bind
      fun taken => some (.name (String.ofList taken.1), taken.2) := rfl

theorem name_of_eq_nil {text : List Char} (h : text.takeWhile isName = []) : name text = none := by
  rw [name_eq, h]
  rfl

theorem name_of_ne_nil {text : List Char} (h : text.takeWhile isName ≠ []) :
    name text = some (.name (String.ofList (text.takeWhile isName)), text.dropWhile isName) := by
  rw [name_eq, if_neg (by simpa using h)]
  rfl

theorem path_eq (fuel : Nat) (text : List Char) : path fuel text =
    (name text).bind fun first =>
      (steps fuel first.2).bind fun more => some (first.1 :: more.1, more.2) := rfl

/-- Behind a name there is nothing but points and brackets. -/
theorem steps_cons_of_plain {c : Char} (hpoint : c ≠ '.') (hbracket : c ≠ '[') (fuel : Nat)
    (rest : List Char) : steps (fuel + 1) (c :: rest) = none := by
  have hname : (do Reader.char '.'; name : Reader KeyStep) (c :: rest) = none := by
    change ((Reader.char '.') (c :: rest)).bind _ = none
    rw [Reader.char, if_neg hpoint, Option.bind_none]
  have hindex : index (c :: rest) = none := by
    change ((Reader.char '[') (c :: rest)).bind _ = none
    rw [Reader.char, if_neg hbracket, Option.bind_none]
  have hstep : ((do Reader.char '.'; name) <|> index : Reader KeyStep) (c :: rest) = none := by
    change ((do Reader.char '.'; name : Reader KeyStep) (c :: rest)).orElse
      (fun _ => index (c :: rest)) = none
    rw [hname, hindex]
    rfl
  change (((do Reader.char '.'; name) <|> index : Reader KeyStep) (c :: rest)).bind _ = none
  rw [hstep, Option.bind_none]

/-- **A key without points and brackets is a name.** -/
theorem ofKey_of_plain {key : String} (hpoint : '.' ∉ key.toList) (hbracket : '[' ∉ key.toList) :
    ofKey key = [.name key] := by
  rw [ofKey, parse?, Reader.whole, path_eq]
  by_cases hname : key.toList.takeWhile isName = []
  · rw [name_of_eq_nil hname]
    rfl
  rw [name_of_ne_nil hname, Option.bind_some]
  have hsplit := key.toList.takeWhile_append_dropWhile (p := isName)
  cases hrest : key.toList.dropWhile isName with
  | nil =>
      rw [hrest, List.append_nil] at hsplit
      simp only [hsplit, String.ofList_toList]
      rfl
  | cons c rest =>
      have hmem : c ∈ key.toList := by
        rw [← hsplit, hrest]
        simp
      rw [steps_cons_of_plain (fun h => hpoint (h ▸ hmem)) (fun h => hbracket (h ▸ hmem))]
      rfl

/-- Whether a path leads past a key of a table at the top: into something else at the top, or to
another key of the table. -/
def passes : (path : KeyPath) → (part name : String) → Bool
  | .name first :: .name second :: _, part, name => lowerKey first ≠ part ∨ lowerKey second ≠ name
  | .name first :: _, part, _ => lowerKey first ≠ part
  | _, _, _ => false

theorem exists_of_passes {path : KeyPath} {part name : String}
    (h : path.passes part name = true) :
    ∃ first rest, path = .name first :: rest ∧ (lowerKey first ≠ part ∨
      ∃ second more, rest = .name second :: more ∧ lowerKey second ≠ name) := by
  cases path with
  | nil => simp [passes] at h
  | cons step rest =>
      cases step with
      | index i => simp [passes] at h
      | name first =>
          refine ⟨first, rest, rfl, ?_⟩
          cases rest with
          | nil => exact .inl (by simpa [passes] using h)
          | cons step more =>
              cases step with
              | index i => exact .inl (by simpa [passes] using h)
              | name second =>
                  have hpast : lowerKey first ≠ part ∨ lowerKey second ≠ name := by
                    simpa [passes] using h
                  exact hpast.imp_right fun hsecond => ⟨second, more, rfl, hsecond⟩

end KeyPath

/-! ### Spellings -/

/-- What stands under the spellings of a key, in order. -/
def Entries.spelled (entries : Entries Value) (key : String) : List Value :=
  entries.filterMap fun entry => if lowerKey entry.1 = key then some entry.2 else none

/-- What a document writes under the spellings of a key in the spellings of a table, in order. -/
def Entries.written (entries : Entries Value) (part name : String) : List Value :=
  (entries.spelled part).flatMap fun v => Entries.spelled v.entries name

/-- A key that is spelled like another one has its points and brackets. -/
theorem mem_toList_lowerKey {key : String} {c : Char} (hc : lowerCharacter c = c)
    (h : c ∈ key.toList) : c ∈ (lowerKey key).toList := by
  rw [lowerKey, String.toList_map]
  exact List.mem_map.2 ⟨c, h, hc⟩

/-- Every spelling of a key without points and brackets is a name. -/
theorem KeyPath.ofKey_of_spelled {key part : String}
    (hplain : '.' ∉ part.toList ∧ '[' ∉ part.toList) (hkey : lowerKey key = part) :
    ofKey key = [.name key] := by
  subst hkey
  exact ofKey_of_plain (fun h => hplain.1 (mem_toList_lowerKey (by decide) h))
    fun h => hplain.2 (mem_toList_lowerKey (by decide) h)

namespace Value

/-- Whether a value is a table. -/
def isTable : Value → Bool
  | table _ => true
  | _ => false

theorem isTable_iff {v : Value} : v.isTable = true ↔ ∃ entries, v = table entries := by
  cases v <;> simp [isTable]

/-- What stands under a key of a table at the top. -/
def at? (root : Value) (part name : String) : Option Value :=
  (root.entries.lookup? part).bind fun v => v.entries.lookup? name

variable {root v : Value} {key part name : String} {entries : Entries Value}

/-! ### Putting entries into a table -/

theorem place_of_not_isTable (h : v.isTable = false) (root : Value) (key : String) :
    root.place key v = table (root.entries.set (lowerKey key) v) := by
  cases v with
  | table entries => exact absurd h (by simp [isTable])
  | _ => rfl

theorem place_table (root : Value) (key : String) (entries : Entries Value) :
    root.place key (table entries) = table (root.entries.set (lowerKey key)
      (placeAll ((root.entries.lookup? (lowerKey key)).getD (table [])) entries)) := by
  rw [place]

theorem placeAll_nil (root : Value) : root.placeAll [] = root := by
  rw [placeAll]

theorem placeAll_cons (root : Value) (entry : String × Value) (entries : Entries Value) :
    root.placeAll (entry :: entries) = (root.place entry.1 entry.2).placeAll entries := by
  rw [placeAll]

/-- Putting a value under a key leaves a table, and the other keys in it as they are. -/
theorem exists_place (root : Value) (key : String) (v : Value) :
    ∃ w, root.place key v = table (root.entries.set (lowerKey key) w) := by
  cases hv : v.isTable with
  | false => exact ⟨v, place_of_not_isTable hv root key⟩
  | true =>
      obtain ⟨entries, rfl⟩ := isTable_iff.1 hv
      exact ⟨_, place_table root key entries⟩

theorem isTable_placeAll (h : root.isTable = true) (entries : Entries Value) :
    (root.placeAll entries).isTable = true := by
  induction entries generalizing root with
  | nil => rwa [placeAll_nil]
  | cons entry entries ih =>
      obtain ⟨w, hw⟩ := exists_place root entry.1 entry.2
      rw [placeAll_cons, hw]
      exact ih rfl

/-- **What a table gets under a key** when another one is merged into it: the last value that the
other one has under a spelling of the key, or what was there. -/
theorem lookup?_placeAll (hflat : ∀ v ∈ Entries.spelled entries name, v.isTable = false)
    (root : Value) : (root.placeAll entries).entries.lookup? name =
      (Entries.spelled entries name).getLast?.or (root.entries.lookup? name) := by
  induction entries generalizing root with
  | nil =>
      rw [placeAll_nil]
      rfl
  | cons entry entries ih =>
      obtain ⟨key, v⟩ := entry
      by_cases hkey : lowerKey key = name
      · have hspelled : Entries.spelled ((key, v) :: entries) name =
            v :: Entries.spelled entries name := by
          simp [Entries.spelled, hkey]
        rw [hspelled] at hflat ⊢
        rw [placeAll_cons, ih fun w hw => hflat w (List.mem_cons_of_mem _ hw),
          place_of_not_isTable (hflat v List.mem_cons_self), Value.entries, Entries.lookup?_set,
          if_pos hkey.symm, List.getLast?_cons]
        cases (Entries.spelled entries name).getLast? <;> rfl
      · have hspelled : Entries.spelled ((key, v) :: entries) name =
            Entries.spelled entries name := by
          simp [Entries.spelled, hkey]
        obtain ⟨w, hw⟩ := exists_place root key v
        rw [hspelled] at hflat ⊢
        rw [placeAll_cons, ih hflat, hw, Value.entries, Entries.lookup?_set, if_neg (Ne.symm hkey)]

/-! ### The entries of a document -/

theorem placeKey_eq (root : Value) (key : String) (v : Value) :
    root.placeKey key v = v.placeAt (KeyPath.ofKey key) root := by
  rw [placeKey, KeyPath.ofKey]
  cases KeyPath.parse? key <;> rfl

/-- Putting a value at a path leaves a table, and what is not under the first name as it is. -/
theorem exists_placeAt_name (v : Value) (first : String) (path : KeyPath) (root : Value) :
    ∃ w, v.placeAt (.name first :: path) root = table (root.entries.set (lowerKey first) w) := by
  cases path with
  | nil => exact exists_place root first v
  | cons step path => exact ⟨_, rfl⟩

/-- What stands under a key at the top, if anything does, is a table. -/
def Tabular (root : Value) (part : String) : Prop :=
  ∀ v, root.entries.lookup? part = some v → v.isTable = true

theorem tabular_set (h : root.Tabular part) {w : Value}
    (hw : key = part → w.isTable = true) : (table (root.entries.set key w)).Tabular part := by
  intro v hv
  rw [Value.entries, Entries.lookup?_set] at hv
  split at hv
  · next heq =>
    obtain rfl := Option.some.inj hv
    exact hw heq.symm
  · exact h v hv

theorem at?_set_of_ne (h : key ≠ part) (root w : Value) :
    (table (root.entries.set key w)).at? part name = root.at? part name := by
  rw [at?, at?, Value.entries, Entries.lookup?_set, if_neg (Ne.symm h)]

theorem at?_set_self (root w : Value) :
    (table (root.entries.set part w)).at? part name = w.entries.lookup? name := by
  rw [at?, Value.entries, Entries.lookup?_set, if_pos rfl, Option.bind_some]

/-- **An entry whose path leads past the place** leaves it alone. -/
theorem at?_placeKey_of_passes (hroot : root.Tabular part)
    (hpasses : (KeyPath.ofKey key).passes part name = true) (v : Value) :
    (root.placeKey key v).at? part name = root.at? part name ∧
      (root.placeKey key v).Tabular part := by
  obtain ⟨first, rest, hpath, hpast⟩ := KeyPath.exists_of_passes hpasses
  rw [placeKey_eq, hpath]
  by_cases hfirst : lowerKey first = part
  · -- the path goes into the table, but to another key of it
    subst hfirst
    obtain ⟨second, more, rfl, hsecond⟩ := hpast.resolve_left (fun h => h rfl)
    obtain ⟨w, hw⟩ := exists_placeAt_name v second more
      ((root.entries.lookup? (lowerKey first)).getD null)
    have hplace : v.placeAt (.name first :: .name second :: more) root =
        table (root.entries.set (lowerKey first)
          (v.placeAt (.name second :: more)
            ((root.entries.lookup? (lowerKey first)).getD null))) := rfl
    rw [hplace, hw]
    refine ⟨?_, tabular_set hroot fun _ => rfl⟩
    rw [at?_set_self, Value.entries, Entries.lookup?_set, if_neg (Ne.symm hsecond), at?]
    cases root.entries.lookup? (lowerKey first) <;> rfl
  · obtain ⟨w, hw⟩ := exists_placeAt_name v first rest root
    rw [hw]
    exact ⟨at?_set_of_ne hfirst root w, tabular_set hroot fun h => absurd h hfirst⟩

/-- **An entry that spells the part** gives the place what its table has there. -/
theorem at?_placeKey_of_spelled (hroot : root.Tabular part)
    (hplain : '.' ∉ part.toList ∧ '[' ∉ part.toList) (hkey : lowerKey key = part)
    (hflat : ∀ v ∈ Entries.spelled entries name, v.isTable = false) :
    (root.placeKey key (table entries)).at? part name =
        (Entries.spelled entries name).getLast?.or (root.at? part name) ∧
      (root.placeKey key (table entries)).Tabular part := by
  have hplace : root.placeKey key (table entries) = root.place key (table entries) := by
    rw [placeKey_eq, KeyPath.ofKey_of_spelled hplain hkey]
    rfl
  have hthere : ((root.entries.lookup? part).getD (table [])).isTable = true := by
    cases hv : root.entries.lookup? part with
    | none => rfl
    | some v => exact hroot v hv
  rw [hplace, place_table, hkey]
  refine ⟨?_, tabular_set hroot fun _ => isTable_placeAll hthere entries⟩
  rw [at?_set_self, lookup?_placeAll hflat, at?]
  cases root.entries.lookup? part <;> rfl

/-- What entries of a document do to the place, one after the other. -/
theorem at?_foldl_placeKey (hroot : root.Tabular part)
    (hplain : '.' ∉ part.toList ∧ '[' ∉ part.toList)
    (hentries : ∀ entry ∈ entries, lowerKey entry.1 = part ∧ entry.2.isTable = true ∨
      (KeyPath.ofKey entry.1).passes part name = true)
    (hflat : ∀ v ∈ Entries.written entries part name, v.isTable = false) :
    (entries.foldl (fun root entry => root.placeKey entry.1 entry.2) root).at? part name =
        (Entries.written entries part name).getLast?.or (root.at? part name) ∧
      (entries.foldl (fun root entry => root.placeKey entry.1 entry.2) root).Tabular part := by
  induction entries generalizing root with
  | nil => exact ⟨rfl, hroot⟩
  | cons entry entries ih =>
      obtain ⟨key, v⟩ := entry
      have hothers := fun e he => hentries e (List.mem_cons_of_mem _ he)
      rw [List.foldl_cons]
      rcases hentries (key, v) List.mem_cons_self with ⟨hkey, htable⟩ | hpasses
      · obtain ⟨inner, rfl⟩ := isTable_iff.1 htable
        have hwritten : Entries.written ((key, table inner) :: entries) part name =
            Entries.spelled inner name ++ Entries.written entries part name := by
          simp [Entries.written, Entries.spelled, hkey, Value.entries]
        rw [hwritten] at hflat ⊢
        obtain ⟨hat, htabular⟩ := at?_placeKey_of_spelled hroot hplain hkey
          fun v hv => hflat v (List.mem_append_left _ hv)
        obtain ⟨hat', htabular'⟩ :=
          ih htabular hothers fun v hv => hflat v (List.mem_append_right _ hv)
        refine ⟨?_, htabular'⟩
        rw [hat', hat, List.getLast?_append, Option.or_assoc]
      · -- a key that spells the part does not lead past it
        have hkey : lowerKey key ≠ part := by
          intro hkey
          rw [KeyPath.ofKey_of_spelled hplain hkey] at hpasses
          simp [KeyPath.passes, hkey] at hpasses
        have hwritten : Entries.written ((key, v) :: entries) part name =
            Entries.written entries part name := by
          simp [Entries.written, Entries.spelled, hkey]
        rw [hwritten] at hflat ⊢
        obtain ⟨hat, htabular⟩ := at?_placeKey_of_passes hroot hpasses v
        obtain ⟨hat', htabular'⟩ := ih htabular hothers hflat
        refine ⟨?_, htabular'⟩
        rw [hat', hat]

/-- **The place gets what is written there**: the last value that is, in every document whose other
paths lead past the place. -/
theorem at?_normalize (hplain : '.' ∉ part.toList ∧ '[' ∉ part.toList)
    (hentries : ∀ entry ∈ entries, lowerKey entry.1 = part ∧ entry.2.isTable = true ∨
      (KeyPath.ofKey entry.1).passes part name = true)
    (hflat : ∀ v ∈ Entries.written entries part name, v.isTable = false) :
    (table entries).normalize.at? part name = (Entries.written entries part name).getLast? ∧
      (table entries).normalize.Tabular part := by
  have hempty : (table []).Tabular part := by
    intro v hv
    cases hv
  obtain ⟨hat, htabular⟩ := at?_foldl_placeKey hempty hplain hentries hflat
  exact ⟨hat.trans Option.or_none, htabular⟩

end Value

end Framewire
