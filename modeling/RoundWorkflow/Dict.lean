/-!
# Text-keyed maps

A `Dict` is a finite map from text to values.  Its entries are kept in ascending
order of their keys, character by character, which is also the order of the
keys' bytes in UTF-8.  Every key occurs once, so two maps with the same values at
the same keys are equal, and the list of entries is already in the order in which
maps are written and visited.
-/

namespace RoundWorkflow

/-- In a list without repeated keys, a search for a key finds the only member that has it. -/
theorem find?_key_eq_some_iff {α κ : Type} [DecidableEq κ] {key : α → κ} {xs : List α}
    (h : xs.Pairwise fun x y => key x ≠ key y) {k : κ} {x : α} :
    (xs.find? fun y => key y = k) = some x ↔ x ∈ xs ∧ key x = k := by
  constructor
  · intro hfind
    exact ⟨List.mem_of_find?_eq_some hfind, by simpa using List.find?_some hfind⟩
  · rintro ⟨hx, rfl⟩
    induction h with
    | nil => cases hx
    | @cons y xs hy _ ih =>
      cases hx with
      | head => exact List.find?_cons_of_pos (decide_eq_true rfl)
      | tail _ hx =>
        rw [List.find?_cons_of_neg (by simpa using hy x hx)]
        exact ih hx

/-- A finite map from text to values, its entries in ascending order of the keys. -/
structure Dict (α : Type) where
  /-- The entries, in ascending order of their keys. -/
  entries : List (String × α)
  /-- The keys ascend, so no key occurs twice. -/
  ascending : (entries.map Prod.fst).Pairwise (· < ·)

namespace Dict

variable {α : Type}

/-! ## Construction -/

/-- The entries with one more, or with one replaced. -/
def insertEntry (k : String) (v : α) : List (String × α) → List (String × α)
  | [] => [(k, v)]
  | (k', v') :: rest =>
    if k = k' then (k, v) :: rest
    else if k < k' then (k, v) :: (k', v') :: rest
    else (k', v') :: insertEntry k v rest

/-- Any two texts are in order one way or the other, or equal. -/
theorem lt_trichotomy_text (a b : String) : a < b ∨ a = b ∨ b < a := by
  by_cases h : a < b
  · exact .inl h
  · by_cases h' : b < a
    · exact .inr (.inr h')
    · exact .inr (.inl (String.le_antisymm (String.not_lt.mp h') (String.not_lt.mp h)))

theorem mem_keys_insertEntry {k : String} {v : α} {es : List (String × α)} {x : String} :
    x ∈ (insertEntry k v es).map Prod.fst ↔ x = k ∨ x ∈ es.map Prod.fst := by
  induction es with
  | nil => simp [insertEntry]
  | cons e es ih =>
    obtain ⟨k', v'⟩ := e
    rw [insertEntry]
    split
    · subst_vars; simp
    · split
      · simp
      · simp only [List.map_cons, List.mem_cons, ih]
        constructor <;> rintro (h | h | h) <;> simp [h]

theorem ascending_insertEntry {k : String} {v : α} {es : List (String × α)}
    (h : (es.map Prod.fst).Pairwise (· < ·)) :
    ((insertEntry k v es).map Prod.fst).Pairwise (· < ·) := by
  induction es with
  | nil => simp [insertEntry]
  | cons e es ih =>
    obtain ⟨k', v'⟩ := e
    simp only [List.map_cons, List.pairwise_cons] at h
    rw [insertEntry]
    split
    · subst_vars; simpa using h
    · rename_i hne
      split
      · rename_i hlt
        simp only [List.map_cons, List.pairwise_cons, List.mem_cons]
        refine ⟨?_, h⟩
        rintro x (rfl | hx)
        · exact hlt
        · exact String.lt_trans hlt (h.1 x hx)
      · rename_i hlt
        have hgt : k' < k := by
          rcases lt_trichotomy_text k k' with h' | h' | h'
          · exact absurd h' hlt
          · exact absurd h' hne
          · exact h'
        simp only [List.map_cons, List.pairwise_cons]
        refine ⟨fun x hx => ?_, ih h.2⟩
        rcases mem_keys_insertEntry.mp hx with rfl | hx
        · exact hgt
        · exact h.1 x hx

/-- The map without entries. -/
def empty : Dict α := ⟨[], by simp⟩

instance : EmptyCollection (Dict α) := ⟨empty⟩

instance : Inhabited (Dict α) := ⟨empty⟩

/-- The map with a value at a key, in place of the value that may have been there. -/
def insert (d : Dict α) (k : String) (v : α) : Dict α :=
  ⟨insertEntry k v d.entries, ascending_insertEntry d.ascending⟩

/-- The map with all entries of a list; a later one replaces an earlier one of its key. -/
def insertAll (d : Dict α) (es : List (String × α)) : Dict α :=
  es.foldl (fun d e => d.insert e.1 e.2) d

/-- The map of a list of entries; a later one replaces an earlier one of its key. -/
def ofList (es : List (String × α)) : Dict α := empty.insertAll es

instance [DecidableEq α] : DecidableEq (Dict α) := fun d e =>
  if h : d.entries = e.entries then
    isTrue (by cases d; cases e; simp_all)
  else
    isFalse fun he => h (he ▸ rfl)

/-! ## Queries -/

/-- The value at a key. -/
def get? (d : Dict α) (k : String) : Option α :=
  (d.entries.find? fun e => e.1 = k).map Prod.snd

/-- Whether there is a value at a key. -/
def contains (d : Dict α) (k : String) : Bool := (d.get? k).isSome

/-- The keys, ascending. -/
def keys (d : Dict α) : List String := d.entries.map Prod.fst

/-- Whether there is no entry. -/
def isEmpty (d : Dict α) : Bool := d.entries.isEmpty

/-! ## Laws -/

theorem find?_insertEntry (k : String) (v : α) (es : List (String × α)) (x : String) :
    (insertEntry k v es).find? (fun e => e.1 = x) =
      if x = k then some (k, v) else es.find? fun e => e.1 = x := by
  induction es with
  | nil => by_cases hx : x = k <;> simp [insertEntry, hx, eq_comm]
  | cons e es ih =>
    obtain ⟨k', v'⟩ := e
    rw [insertEntry]
    split
    · subst_vars
      by_cases hx : x = k'
      · simp [hx]
      · simp [hx, Ne.symm hx]
    · split
      · by_cases hx : x = k
        · simp [hx]
        · simp [hx, Ne.symm hx]
      · rename_i hne _
        by_cases hx : x = k'
        · subst hx
          simp [Ne.symm hne]
        · simp [Ne.symm hx, ih]

@[simp] theorem get?_empty (k : String) : (empty : Dict α).get? k = none := rfl

/-- Writing a key changes the value there and nowhere else. -/
theorem get?_insert (d : Dict α) (k : String) (v : α) (x : String) :
    (d.insert k v).get? x = if x = k then some v else d.get? x := by
  simp only [get?, insert, find?_insertEntry]
  split <;> rfl

/-- No two entries have one key. -/
theorem key_ne (d : Dict α) : d.entries.Pairwise fun e f => e.1 ≠ f.1 :=
  (List.pairwise_map.mp d.ascending).imp fun h => String.ne_of_lt h

/-- The entries are the keys with their values. -/
theorem mem_entries_iff {d : Dict α} {k : String} {v : α} :
    (k, v) ∈ d.entries ↔ d.get? k = some v := by
  rw [get?, Option.map_eq_some_iff]
  simp only [find?_key_eq_some_iff d.key_ne]
  constructor
  · intro hmem
    exact ⟨(k, v), ⟨hmem, rfl⟩, rfl⟩
  · rintro ⟨⟨k', v'⟩, ⟨hmem, rfl⟩, rfl⟩
    exact hmem

theorem contains_iff {d : Dict α} {k : String} : d.contains k = true ↔ ∃ v, d.get? k = some v :=
  Option.isSome_iff_exists

theorem mem_keys_iff {d : Dict α} {k : String} : k ∈ d.keys ↔ d.contains k = true := by
  rw [contains_iff, keys, List.mem_map]
  simp only [← mem_entries_iff]
  constructor
  · rintro ⟨⟨_, v⟩, hmem, rfl⟩
    exact ⟨v, hmem⟩
  · rintro ⟨v, hmem⟩
    exact ⟨(k, v), hmem, rfl⟩

theorem contains_insert {d : Dict α} {k x : String} {v : α} :
    (d.insert k v).contains x = true ↔ x = k ∨ d.contains x = true := by
  rw [contains, get?_insert]
  split <;> simp [*, contains]

theorem insertEntry_insertEntry (k : String) (v w : α) (es : List (String × α)) :
    insertEntry k w (insertEntry k v es) = insertEntry k w es := by
  induction es with
  | nil => simp [insertEntry]
  | cons e es ih =>
    obtain ⟨k', v'⟩ := e
    rw [insertEntry, insertEntry]
    split
    · simp [insertEntry]
    · rename_i hne
      split
      · simp [insertEntry]
      · rename_i hlt
        rw [insertEntry, if_neg hne, if_neg hlt, ih]

/-- Of two values that are put at a key, the later one counts. -/
theorem insert_insert (d : Dict α) (k : String) (v w : α) :
    (d.insert k v).insert k w = d.insert k w := by
  simp only [insert, insertEntry_insertEntry]

/-- After all entries of a list, a key has the last value that is listed for it, or the one it
had. -/
theorem get?_insertAll (d : Dict α) (es : List (String × α)) (x : String) :
    (d.insertAll es).get? x = ((es.reverse.find? fun e => e.1 = x).map Prod.snd).or (d.get? x) := by
  induction es generalizing d with
  | nil => rfl
  | cons e es ih =>
    rw [insertAll, List.foldl_cons, ← insertAll, ih, get?_insert, List.reverse_cons,
      List.find?_append]
    cases es.reverse.find? fun e => e.1 = x with
    | some e' => rfl
    | none => by_cases hx : x = e.1 <;> simp [hx, eq_comm]

theorem get?_ofList (es : List (String × α)) (x : String) :
    (ofList es).get? x = (es.reverse.find? fun e => e.1 = x).map Prod.snd := by
  rw [ofList, get?_insertAll, get?_empty, Option.or_none]

/-- After all entries of another map, a key has its value there, or the one it had. -/
theorem get?_insertAll_entries (d e : Dict α) (x : String) :
    (d.insertAll e.entries).get? x = (e.get? x).or (d.get? x) := by
  have hkeys : e.entries.reverse.Pairwise fun p q => p.1 ≠ q.1 :=
    List.pairwise_reverse.mpr (e.key_ne.imp fun h => h.symm)
  have hfind : (e.entries.reverse.find? fun p => p.1 = x) = e.entries.find? fun p => p.1 = x := by
    refine Option.ext fun p => ?_
    rw [find?_key_eq_some_iff hkeys, find?_key_eq_some_iff e.key_ne, List.mem_reverse]
  rw [get?_insertAll, hfind]
  rfl

end Dict

end RoundWorkflow
