import RoundWorkflow.Json
import RoundWorkflow.Proofs.ByteOrder
import Mathlib.Data.List.Lex

/-!
# The leaves of a value

A value that has no arrays in it is a tree.  Its leaves are scalars, nulls and objects without
members, and each is told by the keys that lead to it (`Json.follow?`).

A list has all leaves of a value in order if it is ascending in these keys, compared one after the
other by their bytes (`Json.ListsLeaves`): leaves under one key stand together, and before those
under a later one, which is to go through the tree depth first.  The main statement is
`Json.IsTree.listsLeaves`.  When the members of every object are sorted, the leaves that are met in
turn are listed so.
-/

namespace RoundWorkflow.Json

variable {j v : Json} {key : String} {keys : List String} {members : List (String × Json)}

/-! ## Leaves and the keys that lead to them -/

/-- A scalar, null, or an object without members. -/
def isLeaf : Json → Bool
  | .null | .bool _ | .number _ | .string _ | .object [] => true
  | _ => false

/-- What keys lead to, one object after the other. -/
def follow? : List String → Json → Option Json
  | [], j => some j
  | key :: keys, j => (j.member? key).bind (follow? keys)

/-- A list has all leaves of a value with the keys that lead to them, depth first, and the members
of an object in the order of the bytes of their keys. -/
structure ListsLeaves (j : Json) (leaves : List (List String × Json)) : Prop where
  /-- What is listed is what keys lead to and is a leaf. -/
  mem_iff : ∀ keys v, (keys, v) ∈ leaves ↔ j.follow? keys = some v ∧ v.isLeaf = true
  ascending : leaves.Pairwise fun l l' =>
    List.Lex (fun key key' => Text.bytes key < Text.bytes key') l.1 l'.1

theorem member?_of_isLeaf (h : j.isLeaf = true) (key : String) : j.member? key = none := by
  cases j with
  | object members =>
    cases members with
    | nil => rfl
    | cons m members => cases h
  | _ => rfl

theorem mem_of_member? (h : (object members).member? key = some j) : (key, j) ∈ members := by
  obtain ⟨⟨key', j'⟩, hfind, rfl⟩ := Option.map_eq_some_iff.mp h
  have hkey : key' = key := by simpa using List.find?_some hfind
  subst hkey
  exact List.mem_reverse.mp (List.mem_of_find?_eq_some hfind)

theorem exists_member? {m : String × Json} (h : m ∈ members) :
    ∃ j, (object members).member? m.1 = some j := by
  have hfind : (members.reverse.find? fun m' => m'.1 = m.1).isSome :=
    List.find?_isSome.mpr ⟨m, List.mem_reverse.mpr h, by simp⟩
  obtain ⟨m', hm'⟩ := Option.isSome_iff_exists.mp hfind
  exact ⟨m'.2, by rw [member?, hm', Option.map_some]⟩

theorem member?_entries (d : Dict Json) (key : String) :
    (object d.entries).member? key = d.get? key := by
  have h := Dict.get?_insertAll .empty d.entries key
  rw [Dict.get?_insertAll_entries] at h
  simpa [member?] using h.symm

/-! ## Sorted values -/

theorem sortedMembers_eq_map (members : List (String × Json)) :
    sortedMembers members = members.map fun m => (m.1, m.2.sorted) := by
  induction members with
  | nil => rfl
  | cons m members ih => rw [sortedMembers, ih, List.map_cons]

theorem sorted_of_isLeaf (h : j.isLeaf = true) : j.sorted = j := by
  cases j with
  | object members =>
    cases members with
    | nil => rfl
    | cons m members => cases h
  | array items => cases h
  | _ => rfl

/-- A member is found in a sorted value as in the value itself. -/
theorem member?_sorted (j : Json) (key : String) :
    j.sorted.member? key = (j.member? key).map sorted := by
  cases j with
  | object members =>
    rw [sorted, member?_entries, Dict.get?_ofList, sortedMembers_eq_map, ← List.map_reverse,
      List.find?_map, Option.map_map, member?, Option.map_map]
    rfl
  | _ => rfl

theorem follow?_sorted (keys : List String) (j : Json) :
    j.sorted.follow? keys = (j.follow? keys).map sorted := by
  induction keys generalizing j with
  | nil => rfl
  | cons key keys ih =>
    rw [follow?, member?_sorted, follow?]
    cases j.member? key with
    | none => rfl
    | some j' => exact ih j'

theorem isLeaf_sorted (j : Json) : j.sorted.isLeaf = j.isLeaf := by
  cases j with
  | object members =>
    cases members with
    | nil => rfl
    | cons m members =>
      -- A sorted object still has the members, so it is no leaf.
      change _ = false
      rw [Bool.eq_false_iff]
      intro hleaf
      obtain ⟨j', hj'⟩ := exists_member? (List.mem_cons_self (a := m) (l := members))
      have hnone := member?_of_isLeaf hleaf m.1
      rw [member?_sorted, hj'] at hnone
      cases hnone
  | _ => rfl

/-- Keys lead to the same leaves of a value after it is sorted. -/
theorem follow?_sorted_isLeaf_iff :
    (j.sorted.follow? keys = some v ∧ v.isLeaf = true) ↔
      (j.follow? keys = some v ∧ v.isLeaf = true) := by
  rw [follow?_sorted, Option.map_eq_some_iff]
  constructor
  · rintro ⟨⟨j', hj', rfl⟩, hleaf⟩
    rw [isLeaf_sorted] at hleaf
    rw [sorted_of_isLeaf hleaf]
    exact ⟨hj', hleaf⟩
  · rintro ⟨hv, hleaf⟩
    exact ⟨⟨v, hv, sorted_of_isLeaf hleaf⟩, hleaf⟩

/-! ## Trees -/

/-- A value of scalars, nulls and objects. -/
inductive IsTree : Json → Prop where
  | leaf {j : Json} (h : j.isLeaf = true) : IsTree j
  | object {members : List (String × Json)} (h : ∀ m ∈ members, IsTree m.2) :
      IsTree (.object members)

/-- A tree in which the members of every object ascend. -/
inductive Ordered : Json → Prop where
  | leaf {j : Json} (h : j.isLeaf = true) : Ordered j
  | object (d : Dict Json) (hne : d.entries ≠ []) (h : ∀ e ∈ d.entries, Ordered e.2) :
      Ordered (.object d.entries)

theorem mem_of_mem_entries_ofList {es : List (String × Json)} {e : String × Json}
    (h : e ∈ (Dict.ofList es).entries) :
    e ∈ es := by
  have hget : (Dict.ofList es).get? e.1 = some e.2 := Dict.mem_entries_iff.mp h
  rw [Dict.get?_ofList] at hget
  exact mem_of_member? hget

theorem IsTree.ordered_sorted (h : j.IsTree) : j.sorted.Ordered := by
  induction h with
  | leaf hleaf =>
    rw [sorted_of_isLeaf hleaf]
    exact .leaf hleaf
  | @object members _ ih =>
    by_cases hleaf : (Json.object members).isLeaf = true
    · rw [sorted_of_isLeaf hleaf]
      exact .leaf hleaf
    · rw [sorted]
      refine .object _ (fun hnone => hleaf ?_) fun e he => ?_
      · rw [← isLeaf_sorted, sorted, hnone, isLeaf]
      · have hmem := mem_of_mem_entries_ofList he
        rw [sortedMembers_eq_map] at hmem
        obtain ⟨m, hm, rfl⟩ := List.mem_map.mp hmem
        exact ih m hm

/-! ## Going through a tree -/

mutual

/-- The leaves of a value as they are met, with the keys that lead to them. -/
def leaves : Json → List (List String × Json)
  | .object (m :: members) => memberLeaves (m :: members)
  | j => [([], j)]

/-- The leaves of the members of an object. -/
def memberLeaves : List (String × Json) → List (List String × Json)
  | [] => []
  | (name, j) :: rest => (j.leaves.map fun l => (name :: l.1, l.2)) ++ memberLeaves rest

end

theorem leaves_of_isLeaf (h : j.isLeaf = true) : j.leaves = [([], j)] := by
  cases j with
  | object members =>
    cases members with
    | nil => rfl
    | cons m members => cases h
  | _ => rfl

theorem leaves_object (hne : members ≠ []) :
    (object members).leaves = members.flatMap fun m => m.2.leaves.map fun l =>
      (m.1 :: l.1, l.2) := by
  have hmembers (members : List (String × Json)) :
      memberLeaves members = members.flatMap fun m => m.2.leaves.map fun l =>
        (m.1 :: l.1, l.2) := by
    induction members with
    | nil => rfl
    | cons m members ih => rw [memberLeaves, ih, List.flatMap_cons]
  cases members with
  | nil => exact absurd rfl hne
  | cons m members => rw [leaves, hmembers]

theorem Ordered.mem_leaves_iff (h : j.Ordered) :
    (keys, v) ∈ j.leaves ↔ j.follow? keys = some v ∧ v.isLeaf = true := by
  induction h generalizing keys with
  | @leaf j hleaf =>
    rw [leaves_of_isLeaf hleaf, List.mem_singleton, Prod.mk.injEq]
    cases keys with
    | nil =>
      constructor
      · rintro ⟨-, rfl⟩
        exact ⟨rfl, hleaf⟩
      · rintro ⟨heq, -⟩
        cases heq
        exact ⟨rfl, rfl⟩
    | cons key keys => simp [follow?, member?_of_isLeaf hleaf]
  | object d hne _ ih =>
    rw [leaves_object hne, List.mem_flatMap]
    simp only [List.mem_map, Prod.mk.injEq]
    constructor
    · rintro ⟨⟨key, j⟩, he, ⟨keys, v⟩, hl, rfl, rfl⟩
      obtain ⟨hfollow, hleaf⟩ := (ih _ he).mp hl
      rw [follow?, member?_entries, Dict.mem_entries_iff.mp he]
      exact ⟨hfollow, hleaf⟩
    · rintro ⟨hfollow, hleaf⟩
      cases keys with
      | nil =>
        -- An object with members is no leaf.
        cases hfollow
        obtain ⟨e, es, hes⟩ := List.exists_cons_of_ne_nil hne
        rw [hes] at hleaf
        cases hleaf
      | cons key keys =>
        rw [follow?, member?_entries] at hfollow
        obtain ⟨j, hj, hfollow⟩ := Option.bind_eq_some_iff.mp hfollow
        have he := Dict.mem_entries_iff.mpr hj
        exact ⟨(key, j), he, (keys, v), (ih _ he).mpr ⟨hfollow, hleaf⟩, rfl, rfl⟩

theorem Ordered.leaves_ascending (h : j.Ordered) :
    j.leaves.Pairwise fun l l' =>
      List.Lex (fun key key' => Text.bytes key < Text.bytes key') l.1 l'.1 := by
  induction h with
  | leaf hleaf =>
    rw [leaves_of_isLeaf hleaf]
    exact List.pairwise_singleton _ _
  | object d hne _ ih =>
    rw [leaves_object hne, List.pairwise_flatMap]
    constructor
    · intro e he
      exact List.pairwise_map.mpr ((ih e he).imp fun hlex => .cons hlex)
    · -- Leaves under two keys are in the order of the keys.
      refine (List.pairwise_map.mp d.ascending).imp fun hlt l hl l' hl' => ?_
      obtain ⟨_, -, rfl⟩ := List.mem_map.mp hl
      obtain ⟨_, -, rfl⟩ := List.mem_map.mp hl'
      exact .rel (Text.bytes_lt hlt)

/-- When a tree is sorted, its leaves are met in order. -/
theorem IsTree.listsLeaves (h : j.IsTree) : j.ListsLeaves j.sorted.leaves where
  mem_iff _ _ := by rw [h.ordered_sorted.mem_leaves_iff, follow?_sorted_isLeaf_iff]
  ascending := h.ordered_sorted.leaves_ascending

/-- No two leaves of a list have the same keys. -/
theorem ListsLeaves.nodup {leaves : List (List String × Json)} (h : j.ListsLeaves leaves) :
    (leaves.map Prod.fst).Nodup := by
  refine List.pairwise_map.mpr (h.ascending.imp fun hlex => ?_)
  refine (List.Lex.imp (fun key key' hlt => ?_) _ _ hlex).to_ne
  rintro rfl
  exact List.lt_irrefl _ hlt

end RoundWorkflow.Json
