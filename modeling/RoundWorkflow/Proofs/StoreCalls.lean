import RoundWorkflow.Store

/-!
# Changes of the store

The store is changed in three ways: by a write, by an update of several keys, and by an append.  An
append works where there is a list or nothing (`Store.HoldsList`).  Anywhere else it fails, and the
store that comes back from the failure is the store it was made on (`Store.push_of_not_holdsList`).

`StoreCall.effect` is the store after a change, and `StoreCall.on` is what the change makes of a
plain map from keys to values.  They agree, also after any number of changes in turn
(`StoreCall.read_effects`).  The counter of a store goes up by one for each write, each append that
works and each update with values in it (`StoreCall.version_effects`).
-/

namespace RoundWorkflow

namespace Store

variable {s : Store} {key key' : String} {v : Json}

/-! ## Lists in the store -/

/-- A key has a list, or nothing yet. -/
def HoldsList (s : Store) (key : String) : Prop :=
  ∀ v, s.read key = some v → ∃ items, v = .array items

/-- The list at a key, empty where there is none. -/
def listAt (s : Store) (key : String) : List Json :=
  match s.read key with
  | some (.array items) => items
  | _ => []

/-- With one more value in the list at a key. -/
def extend (s : Store) (key : String) (v : Json) : Store :=
  s.write key (.array (s.listAt key ++ [v]))

theorem read_write (s : Store) (key : String) (v : Json) (x : String) :
    (s.write key v).read x = if x = key then some v else s.read x :=
  Dict.get?_insert s.values key v x

theorem read_update (s : Store) (values : Dict Json) (x : String) :
    (s.update values).read x = (values.get? x).or (s.read x) := by
  rw [update]
  split
  · rename_i hempty
    have hnone : values.get? x = none := by
      rw [Dict.get?, List.isEmpty_iff.mp hempty]
      rfl
    rw [hnone, Option.none_or]
  · exact Dict.get?_insertAll_entries s.values values x

theorem push_of_holdsList (h : s.HoldsList key) :
    s.push key v = (.ok ((s.listAt key).length + 1), s.extend key v) := by
  rw [push, entry, extend, listAt]
  cases hread : s.read key with
  | none => simp [write, Dict.insert_insert]
  | some j =>
    obtain ⟨items, rfl⟩ := h j hread
    rfl

/-- A value that is no list is not appended to, and nothing else happens. -/
theorem push_of_not_holdsList {j : Json} (hread : s.read key = some j)
    (hj : ∀ items, j ≠ .array items) :
    s.push key v = (.error (.store (.notAList key j.kindText)), s) := by
  rw [push, entry, hread]
  cases j with
  | array items => exact absurd rfl (hj items)
  | _ => rfl

theorem append_of_holdsList (h : s.HoldsList key) :
    s.append key v = .ok ((s.listAt key).length + 1, s.extend key v) := by
  rw [append, push_of_holdsList h]

theorem append_of_not_holdsList {j : Json} (hread : s.read key = some j)
    (hj : ∀ items, j ≠ .array items) :
    s.append key v = .error (.store (.notAList key j.kindText)) := by
  rw [append, push_of_not_holdsList hread hj]

/-- A key holds a list, or a value of another kind. -/
theorem holdsList_or_not (s : Store) (key : String) :
    s.HoldsList key ∨ ∃ j, s.read key = some j ∧ ∀ items, j ≠ .array items := by
  by_cases h : s.HoldsList key
  · exact .inl h
  · right
    simpa [HoldsList] using h

theorem HoldsList.write (h : s.HoldsList key) (hne : key ≠ key') :
    (s.write key' v).HoldsList key := by
  intro j hj
  rw [read_write, if_neg hne] at hj
  exact h j hj

theorem HoldsList.extend (h : s.HoldsList key) (key' : String) :
    (s.extend key' v).HoldsList key := by
  by_cases hkey : key = key'
  · intro j hj
    rw [Store.extend, read_write, if_pos hkey] at hj
    cases hj
    exact ⟨_, rfl⟩
  · exact h.write hkey

end Store

/-! ## Calls -/

/-- A change of the store. -/
inductive StoreCall where
  | write (key : String) (value : Json)
  | update (values : Dict Json)
  /-- Nothing changes where the value is no list. -/
  | append (key : String) (value : Json)

namespace StoreCall

/-- The store after a call. -/
def effect : StoreCall → Store → Store
  | .write key value, s => s.write key value
  | .update values, s => s.update values
  | .append key value, s =>
    match s.append key value with
    | .ok (_, s') => s'
    | .error _ => s

/-- The store after calls in turn. -/
def effects (calls : List StoreCall) (s : Store) : Store := calls.foldl (fun s c => c.effect s) s

theorem effects_append (calls later : List StoreCall) (s : Store) :
    effects (calls ++ later) s = effects later (effects calls s) := List.foldl_append

variable {c : StoreCall} {calls : List StoreCall} {s : Store}

theorem effect_append {key : String} {v : Json} (h : s.HoldsList key) :
    (StoreCall.append key v).effect s = s.extend key v := by
  rw [effect, Store.append_of_holdsList h]

theorem effect_append_of_not_holdsList {key : String} {v j : Json} (hread : s.read key = some j)
    (hj : ∀ items, j ≠ .array items) : (StoreCall.append key v).effect s = s := by
  rw [effect, Store.append_of_not_holdsList hread hj]

/-! ## Contents -/

/-- What a call makes of values by key. -/
def on (contents : String → Option Json) : StoreCall → String → Option Json
  | .write key value => fun k => if k = key then some value else contents k
  | .update values => fun k => (values.get? k).or (contents k)
  | .append key value =>
    match contents key with
    | none => fun k => if k = key then some (.array [value]) else contents k
    | some (.array items) =>
      fun k => if k = key then some (.array (items ++ [value])) else contents k
    | some _ => contents

theorem read_effect (c : StoreCall) (s : Store) : (c.effect s).read = c.on s.read := by
  cases c with
  | write key value => exact funext fun k => s.read_write key value k
  | update values => exact funext fun k => s.read_update values k
  | append key value =>
    rw [on]
    rcases s.holdsList_or_not key with hlist | ⟨j, hread, hj⟩
    · funext k
      rw [effect_append hlist, Store.extend, Store.read_write, Store.listAt]
      cases hread : s.read key with
      | none => rfl
      | some j =>
        obtain ⟨items, rfl⟩ := hlist j hread
        rfl
    · rw [effect_append_of_not_holdsList hread hj, hread]
      cases j with
      | array items => exact absurd rfl (hj items)
      | _ => rfl

theorem read_effects (calls : List StoreCall) (s : Store) :
    (effects calls s).read = calls.foldl on s.read := by
  induction calls generalizing s with
  | nil => rfl
  | cons c calls ih => rw [effects, List.foldl_cons, List.foldl_cons, ← read_effect, ← ih, effects]

/-! ## Calls that work -/

/-- A call works unless it is an append to what is no list. -/
def Works (s : Store) : StoreCall → Prop
  | .append key _ => s.HoldsList key
  | _ => True

/-- Calls in turn all work. -/
def AllWork (s : Store) : List StoreCall → Prop
  | [] => True
  | c :: calls => c.Works s ∧ AllWork (c.effect s) calls

theorem allWork_append {later : List StoreCall} :
    AllWork s (calls ++ later) ↔ AllWork s calls ∧ AllWork (effects calls s) later := by
  induction calls generalizing s with
  | nil => simp [AllWork, effects]
  | cons c calls ih => simp [AllWork, effects, ih, and_assoc]

/-- A write, or an append. -/
def isSingle : StoreCall → Bool
  | .update _ => false
  | _ => true

/-- An update with values in it. -/
def isFilledUpdate : StoreCall → Bool
  | .update values => !values.isEmpty
  | _ => false

theorem version_effect (h : c.Works s) :
    (c.effect s).version = s.version + c.isSingle.toNat + c.isFilledUpdate.toNat := by
  cases c with
  | write key value => rfl
  | update values =>
    rw [effect, Store.update, isFilledUpdate]
    split <;> simp [*, isSingle]
  | append key value =>
    rw [effect_append h]
    rfl

/-- The counter has counted the calls, except for the empty updates. -/
theorem version_effects (h : AllWork s calls) :
    (effects calls s).version = s.version + calls.countP isSingle + calls.countP
      isFilledUpdate := by
  induction calls generalizing s with
  | nil => rfl
  | cons c calls ih =>
    have hrest := ih h.2
    rw [effects] at hrest ⊢
    rw [List.foldl_cons, hrest, version_effect h.1, List.countP_cons, List.countP_cons]
    cases c.isSingle <;> cases c.isFilledUpdate <;> simp <;> omega

/-- No call is counted twice. -/
theorem counted_le (calls : List StoreCall) :
    calls.countP isSingle + calls.countP isFilledUpdate ≤ calls.length := by
  induction calls with
  | nil => exact Nat.le_refl 0
  | cons c calls ih =>
    rw [List.countP_cons, List.countP_cons, List.length_cons]
    cases c with
    | update values =>
      rw [if_neg (by simp [isSingle])]
      split <;> omega
    | write | append =>
      rw [if_neg (by simp [isFilledUpdate] : ¬isFilledUpdate _ = true)]
      split <;> omega

/-! ## The value at a key -/

/-- What a call puts at a key in place of the value that may be there. -/
def puts? (key : String) : StoreCall → Option Json
  | .write k value => if k = key then some value else none
  | .update values => values.get? key
  | .append .. => none

/-- What a call appends to the list at a key. -/
def adds? (key : String) : StoreCall → Option Json
  | .write .. => none
  | .update _ => none
  | .append k value => if k = key then some value else none

/-- A value is a first one followed by others.  If there are any others, it is a list, and the first
one was a list too, or there was none. -/
def Followed (first : Option Json) (others : List Json) (value : Option Json) : Prop :=
  if others = [] then value = first
  else ∃ items, value = some (.array (items ++ others)) ∧
    (first = some (.array items) ∨ first = none ∧ items = [])

variable {key : String} {first : Option Json} {others : List Json}

theorem Followed.append (h : Followed first others (s.read key)) (hlist : s.HoldsList key)
    (v : Json) :
    Followed first (others ++ [v]) (some (.array (s.listAt key ++ [v]))) := by
  rw [Followed, if_neg (List.append_ne_nil_of_right_ne_nil others (List.cons_ne_nil v []))]
  rw [Followed] at h
  split at h
  · rename_i hothers
    refine ⟨s.listAt key, by rw [hothers, List.nil_append], ?_⟩
    rw [← h, Store.listAt]
    cases hread : s.read key with
    | none => exact .inr ⟨rfl, rfl⟩
    | some j =>
      obtain ⟨items, rfl⟩ := hlist j hread
      exact .inl rfl
  · obtain ⟨items, hread, hfirst⟩ := h
    exact ⟨items, by rw [Store.listAt, hread, List.append_assoc], hfirst⟩

/-- A call that works and puts nothing at a key may append one more value there. -/
theorem Followed.effect (h : Followed first others (s.read key)) (hworks : c.Works s)
    (hputs : c.puts? key = none) :
    Followed first (others ++ (c.adds? key).toList) ((c.effect s).read key) := by
  cases c with
  | write k value =>
    have hne : key ≠ k := fun heq => by simp [puts?, heq] at hputs
    rw [StoreCall.effect, Store.read_write, if_neg hne, adds?, Option.toList_none, List.append_nil]
    exact h
  | update values =>
    rw [puts?] at hputs
    rw [StoreCall.effect, Store.read_update, hputs, Option.none_or, adds?,
      Option.toList_none, List.append_nil]
    exact h
  | append k value =>
    rw [effect_append hworks, Store.extend, Store.read_write, adds?]
    by_cases hkey : k = key
    · subst hkey
      rw [if_pos rfl, if_pos rfl]
      exact h.append hworks value
    · rw [if_neg (Ne.symm hkey), if_neg hkey, Option.toList_none, List.append_nil]
      exact h

theorem Followed.effects (h : Followed first others (s.read key)) (hwork : AllWork s calls)
    (hputs : ∀ c ∈ calls, c.puts? key = none) :
    Followed first (others ++ calls.filterMap (adds? key)) ((effects calls s).read key) := by
  induction calls generalizing s others with
  | nil =>
    rw [List.filterMap_nil, List.append_nil]
    exact h
  | cons c calls ih =>
    obtain ⟨hputs, hrest⟩ := List.forall_mem_cons.mp hputs
    have hafter := ih (h.effect hwork.1 hputs) hwork.2 hrest
    rw [List.append_assoc] at hafter
    rw [List.filterMap_cons]
    cases hadds : c.adds? key with
    | none =>
      rw [hadds] at hafter
      exact hafter
    | some v =>
      rw [hadds] at hafter
      exact hafter

theorem read_effect_of_puts {v : Json} (h : c.puts? key = some v) :
    (c.effect s).read key = some v := by
  cases c with
  | write k value =>
    rw [puts?] at h
    split at h
    · rename_i hkey
      rw [effect, Store.read_write, if_pos hkey.symm, h]
    · cases h
  | update values =>
    rw [puts?] at h
    rw [effect, Store.read_update, h, Option.some_or]
  | append k value => cases h

/-- The value at a key is the last one that was put there, followed by all that was appended to it
since. -/
theorem followed_of_puts {earlier later : List StoreCall} {v : Json}
    (hwork : AllWork s (earlier ++ c :: later))
    (hput : c.puts? key = some v) (hlater : ∀ c' ∈ later, c'.puts? key = none) :
    Followed (some v) (later.filterMap (adds? key))
      ((effects (earlier ++ c :: later) s).read key) := by
  have hfirst : Followed (some v) [] ((c.effect (effects earlier s)).read key) :=
    read_effect_of_puts hput
  have hafter := hfirst.effects (allWork_append.mp hwork).2.2 hlater
  rw [effects_append]
  exact hafter

/-- Where nothing was put, the value is the one from before, followed by all that was appended to
it. -/
theorem followed_of_not_puts (hwork : AllWork s calls) (hputs : ∀ c ∈ calls, c.puts? key = none) :
    Followed (s.read key) (calls.filterMap (adds? key)) ((effects calls s).read key) := by
  have hfirst : Followed (s.read key) [] (s.read key) := rfl
  exact hfirst.effects hwork hputs

end StoreCall

end RoundWorkflow
