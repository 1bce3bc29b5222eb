import RoundWorkflow.Dict
import RoundWorkflow.RoundSettings
import RoundWorkflow.Proofs.KeySpelling

/-!
# Keys that name rounds

The settings of single rounds stand in a map from text.  A key *names* a round if it is the
round's name, padded, up to the case of its ASCII letters (`Round.NamedBy`).  So a key names
one round at most, and many keys name the same one.

Of the keys that name a round, the last one in the order of the map decides
(`Dict.Decides`), and no other one matters.  A map with a key that names no round is not read
at all, and the first such key is reported (`Dict.FirstUnknown`).
-/

namespace RoundWorkflow

open Text (Padded foldCase)

/-! ## Names -/

/-- A key is the name of a round, padded, up to the case of letters. -/
def Round.NamedBy (r : Round) (key : String) : Prop :=
  ∃ spelling, foldCase spelling = foldCase r.name.toList ∧ Padded spelling key.toList

theorem Round.foldCase_name_plain (r : Round) :
    ∀ c ∈ foldCase r.name.toList, Text.isBlank c = false := by
  have h : r.name.toList.all (fun c => !Text.isBlank c.toLower) = true := by
    cases r <;> exact Text.all_toList_ofList rfl
  simpa only [foldCase, List.forall_mem_map, List.all_eq_true, Bool.not_eq_true'] using h

/-- The names of two rounds differ by more than the case of letters. -/
theorem Round.pairwise_foldCase_name :
    Round.all.Pairwise fun r r' => foldCase r.name.toList ≠ foldCase r'.name.toList := by
      decide +kernel

/-- The keys that are read as a round. -/
theorem Round.ofSettingName?_eq_some_iff {key : String} {r : Round} :
    Round.ofSettingName? key = some r ↔ r.NamedBy key := by
  have hread : Round.ofSettingName? key = some r ↔
    foldCase r.name.toList = foldCase (Text.trimmed key).toList :=
    (find?_key_eq_some_iff Round.pairwise_foldCase_name).trans
      (and_iff_right (Enumeration.mem_all r))
  rw [hread, eq_comm, Text.trimmed, String.toList_ofList]
  exact Text.foldCase_trim_eq_iff r.foldCase_name_plain

theorem Round.ofSettingName?_eq_none_iff {key : String} :
    Round.ofSettingName? key = none ↔ ∀ r : Round, ¬r.NamedBy key := by
  simp only [Option.eq_none_iff_forall_ne_some, ne_eq, Round.ofSettingName?_eq_some_iff]

theorem Round.namedBy_name (r : Round) : r.NamedBy r.name :=
  ⟨r.name.toList, rfl, [], [], nofun, nofun, by simp⟩

/-- No key names two rounds. -/
theorem Round.NamedBy.unique {r r' : Round} {key : String} (h : r.NamedBy key)
    (h' : r'.NamedBy key) : r = r' :=
  Option.some.inj ((Round.ofSettingName?_eq_some_iff.mpr h).symm.trans
    (Round.ofSettingName?_eq_some_iff.mpr h'))

/-! ## Maps -/

/-- In a list that is in order, a search finds what nothing else that passes comes before. -/
theorem find?_eq_some_iff_of_ordered {α : Type} {R : α → α → Prop} (hasymm : ∀ a b, R a b → ¬R b a)
    {p : α → Bool} {xs : List α} (hordered : xs.Pairwise R) {x : α} :
    xs.find? p = some x ↔ x ∈ xs ∧ p x = true ∧ ∀ y ∈ xs, p y = true → ¬R y x := by
  have hfirst : ∀ z, xs.find? p = some z → ∀ y ∈ xs, p y = true → z = y ∨ R z y := by
    intro z hz y hy hpass
    obtain ⟨-, before, after, rfl, hbefore⟩ := List.find?_eq_some_iff_append.mp hz
    rcases List.mem_append.mp hy with hy | hy
    · have hnot := hbefore y hy
      rw [hpass] at hnot
      cases hnot
    · rcases List.mem_cons.mp hy with rfl | hy
      · exact .inl rfl
      · exact .inr (List.rel_of_pairwise_cons (List.pairwise_append.mp hordered).2.1 hy)
  constructor
  · intro hx
    refine ⟨List.mem_of_find?_eq_some hx, List.find?_some hx, fun y hy hpass => ?_⟩
    rcases hfirst x hx y hy hpass with rfl | hbefore
    · exact fun h => hasymm x x h h
    · exact hasymm x y hbefore
  · rintro ⟨hmem, hpass, hleast⟩
    obtain ⟨z, hz⟩ := Option.isSome_iff_exists.mp (List.find?_isSome.mpr ⟨x, hmem, hpass⟩)
    rcases hfirst z hz x hmem hpass with rfl | hbefore
    · exact hz
    · exact absurd hbefore (hleast z (List.mem_of_find?_eq_some hz) (List.find?_some hz))

namespace Dict

variable {α : Type} {d : Dict α} {key : String} {a : α}

/-- Every key names a round. -/
def NamesRounds (d : Dict α) : Prop := ∀ key, d.contains key = true → ∃ r : Round, r.NamedBy key

/-- Some key names the round. -/
def Mentions (d : Dict α) (r : Round) : Prop := ∃ key, d.contains key = true ∧ r.NamedBy key

/-- Of the keys that name a round, this one is the last, and has this value. -/
structure Decides (d : Dict α) (r : Round) (key : String) (a : α) : Prop where
  value : d.get? key = some a
  named : r.NamedBy key
  last : ∀ other, d.contains other = true → r.NamedBy other → other ≤ key

/-- Of the keys that name no round, this one is the first. -/
structure FirstUnknown (d : Dict α) (key : String) : Prop where
  mem : d.contains key = true
  unknown : ∀ r : Round, ¬r.NamedBy key
  first : ∀ other, d.contains other = true → (∀ r : Round, ¬r.NamedBy other) → key ≤ other

theorem NamesRounds.insert_name (h : d.NamesRounds) (r : Round) (a : α) :
    (d.insert r.name a).NamesRounds := by
  intro key hkey
  rcases contains_insert.mp hkey with rfl | hkey
  · exact ⟨r, r.namedBy_name⟩
  · exact h key hkey

end Dict

/-! ## Settings -/

theorem map_eq_ok_iff {ε α β : Type} {x : Except ε α} {f : α → β} {b : β} :
    x.map f = .ok b ↔ ∃ a, x = .ok a ∧ f a = b := by
  cases x <;> simp [Except.map]

namespace RoundSettings

variable {α : Type} {d : Dict α} {settings : RoundSettings α}

theorem get?_cons (r₀ : Round) (a : α) (settings : RoundSettings α) (r : Round) :
    get? ((r₀, a) :: settings) r = (settings.get? r).or (if r₀ = r then some a else none) := by
  rw [get?, List.reverse_cons, List.find?_append, Option.map_or, ← get?]
  split <;> simp [*]

/-- The setting of a round is the one of the last key that names it. -/
theorem get?_of_ofEntries {entries : List (String × α)} (h : ofEntries entries = .ok settings)
    (r : Round) :
    settings.get? r =
      (entries.reverse.find? fun e => Round.ofSettingName? e.1 = some r).map Prod.snd := by
  induction entries generalizing settings with
  | nil =>
    cases h
    rfl
  | cons e entries ih =>
    obtain ⟨key, a⟩ := e
    rw [ofEntries] at h
    split at h
    · cases h
    · rename_i r₀ hr₀
      obtain ⟨rest, hrest, rfl⟩ := map_eq_ok_iff.mp h
      rw [get?_cons, ih hrest, List.reverse_cons, List.find?_append, Option.map_or]
      by_cases hr : r₀ = r <;> simp [hr₀, hr]

theorem ofEntries_eq_error_iff {entries : List (String × α)} {fault : Error} :
    ofEntries entries = .error fault ↔
      ∃ key,
        ((entries.map Prod.fst).find? fun key => (Round.ofSettingName? key).isNone) = some key ∧
        fault = .configuration (.unknownRoundName key) := by
  induction entries with
  | nil => simp [ofEntries]
  | cons e entries ih =>
    obtain ⟨key, a⟩ := e
    rw [ofEntries, List.map_cons, List.find?_cons]
    cases hkey : Round.ofSettingName? key with
    | none => simp [eq_comm]
    | some r =>
      simp only [Option.isNone_some]
      rw [← ih]
      cases ofEntries entries <;> simp [Except.map]

/-- A map with a key that names no round is refused for the first such key. -/
theorem ofEntries_eq_error_iff_firstUnknown {fault : Error} :
    ofEntries d.entries = .error fault ↔
      ∃ key, d.FirstUnknown key ∧ fault = .configuration (.unknownRoundName key) := by
  have hasymm : ∀ s t : String, s < t → ¬t < s := fun _ _ => String.lt_asymm
  rw [ofEntries_eq_error_iff]
  refine exists_congr fun key => and_congr_left fun _ => ?_
  rw [find?_eq_some_iff_of_ordered hasymm d.ascending, ← Dict.keys]
  simp only [Dict.mem_keys_iff, Option.isNone_iff_eq_none,
    Round.ofSettingName?_eq_none_iff, String.not_lt]
  constructor
  · rintro ⟨hmem, hunknown, hfirst⟩
    exact ⟨hmem, hunknown, hfirst⟩
  · rintro ⟨hmem, hunknown, hfirst⟩
    exact ⟨hmem, hunknown, hfirst⟩

theorem exists_ofEntries_iff :
    (∃ settings, ofEntries d.entries = .ok settings) ↔ d.NamesRounds := by
  constructor
  · rintro ⟨settings, h⟩ key hkey
    cases hfind : (d.entries.map Prod.fst).find? fun key => (Round.ofSettingName? key).isNone with
    | some unknown => cases h.symm.trans (ofEntries_eq_error_iff.mpr ⟨unknown, hfind, rfl⟩)
    | none =>
      have hknown := List.find?_eq_none.mp hfind key (Dict.mem_keys_iff.mpr hkey)
      rw [Option.isNone_iff_eq_none] at hknown
      obtain ⟨r, hr⟩ := Option.ne_none_iff_exists'.mp hknown
      exact ⟨r, Round.ofSettingName?_eq_some_iff.mp hr⟩
  · intro hnames
    cases h : ofEntries d.entries with
    | ok settings => exact ⟨settings, rfl⟩
    | error fault =>
      obtain ⟨key, hfirst, -⟩ := ofEntries_eq_error_iff_firstUnknown.mp h
      obtain ⟨r, hr⟩ := hnames key hfirst.mem
      exact absurd hr (hfirst.unknown r)

/-- The setting of a round is the value of the key that decides. -/
theorem get?_eq_some_iff (h : ofEntries d.entries = .ok settings) {r : Round} {a : α} :
    settings.get? r = some a ↔ ∃ key, d.Decides r key a := by
  have hordered : d.entries.reverse.Pairwise fun e f => f.1 < e.1 :=
    List.pairwise_reverse.mpr (List.pairwise_map.mp d.ascending)
  have hasymm : ∀ e f : String × α, f.1 < e.1 → ¬e.1 < f.1 := fun _ _ => String.lt_asymm
  rw [get?_of_ofEntries h, Option.map_eq_some_iff]
  simp only [find?_eq_some_iff_of_ordered hasymm hordered, List.mem_reverse, decide_eq_true_eq,
    Round.ofSettingName?_eq_some_iff, String.not_lt]
  constructor
  · rintro ⟨⟨key, a⟩, ⟨hmem, hnamed, hlast⟩, rfl⟩
    refine ⟨key, Dict.mem_entries_iff.mp hmem, hnamed, fun other hother => ?_⟩
    obtain ⟨a', hother⟩ := Dict.contains_iff.mp hother
    exact hlast (other, a') (Dict.mem_entries_iff.mpr hother)
  · rintro ⟨key, hvalue, hnamed, hlast⟩
    refine ⟨(key, a), ⟨Dict.mem_entries_iff.mpr hvalue, hnamed, fun e hmem => ?_⟩, rfl⟩
    exact hlast e.1 (Dict.contains_iff.mpr ⟨e.2, Dict.mem_entries_iff.mp hmem⟩)

theorem get?_eq_none_iff (h : ofEntries d.entries = .ok settings) {r : Round} :
    settings.get? r = none ↔ ¬d.Mentions r := by
  rw [get?_of_ofEntries h, Option.map_eq_none_iff, List.find?_eq_none, Dict.Mentions]
  simp only [List.mem_reverse, decide_eq_true_eq, Round.ofSettingName?_eq_some_iff,
    Dict.contains_iff, ← Dict.mem_entries_iff]
  constructor
  · rintro hnone ⟨key, ⟨a, hmem⟩, hnamed⟩
    exact hnone (key, a) hmem hnamed
  · rintro hnone ⟨key, a⟩ hmem hnamed
    exact hnone ⟨key, ⟨a, hmem⟩, hnamed⟩

end RoundSettings

end RoundWorkflow
