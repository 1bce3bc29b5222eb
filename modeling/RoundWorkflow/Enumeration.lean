/-!
# Closed enumerations and their sets

The rounds and the events of the workflow are closed lists of names.  An
`Enumeration` gives such a type its members in declaration order and a name for
each.  Order matters: every report lists rounds and events in it.

A set of members, `EnumSet`, is kept as the list of its members in declaration
order without repetition.  So two sets with the same members are equal
(`EnumSet.ext`), and the list of a set is already in the order reports use.
-/

namespace RoundWorkflow

/-- A finite type with its members in declaration order, each with a name. -/
class Enumeration (α : Type) [DecidableEq α] where
  /-- Every member once, in declaration order. -/
  all : List α
  /-- No member is left out. -/
  mem_all : ∀ a : α, a ∈ all
  /-- The name of a member. -/
  name : α → String

namespace Enumeration

variable {α : Type} [DecidableEq α] [Enumeration α]

/-- The member with exactly this name. -/
def ofName? (s : String) : Option α :=
  all.find? fun a => name a = s

/-- The place of a member in declaration order, counted from zero. -/
def position (a : α) : Nat :=
  (all : List α).idxOf a

/-- The names of all members, in declaration order. -/
def names (α : Type) [DecidableEq α] [Enumeration α] : List String :=
  (all : List α).map name

end Enumeration

/-- A set of members of a closed enumeration, as a list in declaration order. -/
structure EnumSet (α : Type) [DecidableEq α] [Enumeration α] where
  /-- The members, in declaration order. -/
  toList : List α
  /-- The list follows declaration order and repeats nothing. -/
  canonical : toList = Enumeration.all.filter (toList.contains ·)

namespace EnumSet

variable {α : Type} [DecidableEq α] [Enumeration α]

/-! ## Construction -/

theorem filter_all_canonical (p : α → Bool) :
    Enumeration.all.filter p =
      Enumeration.all.filter ((Enumeration.all.filter p).contains ·) := by
  apply List.filter_congr
  intro a ha
  simp [List.contains_eq_mem, ha]

/-- The members that pass a test. -/
def ofTest (p : α → Bool) : EnumSet α :=
  ⟨Enumeration.all.filter p, filter_all_canonical p⟩

/-- The members of a list, each once. -/
def ofList (xs : List α) : EnumSet α :=
  ofTest (xs.contains ·)

/-- The set without members. -/
def empty : EnumSet α := ofList []

/-- The set of all members. -/
def full : EnumSet α := ofTest fun _ => true

instance : Inhabited (EnumSet α) := ⟨empty⟩

theorem eq_of_toList_eq {s t : EnumSet α} (h : s.toList = t.toList) : s = t := by
  cases s
  cases t
  cases h
  rfl

instance : DecidableEq (EnumSet α) := fun s t =>
  if h : s.toList = t.toList then isTrue (eq_of_toList_eq h) else isFalse fun e => h (e ▸ rfl)

instance : Membership α (EnumSet α) := ⟨fun s a => a ∈ s.toList⟩

instance (a : α) (s : EnumSet α) : Decidable (a ∈ s) :=
  inferInstanceAs (Decidable (a ∈ s.toList))

/-- The set with one more member. -/
def insert (a : α) (s : EnumSet α) : EnumSet α := ofList (a :: s.toList)

/-- Whether there is no member. -/
def isEmpty (s : EnumSet α) : Bool := s.toList.isEmpty

/-! ## Membership -/

theorem mem_def {a : α} {s : EnumSet α} : a ∈ s ↔ a ∈ s.toList := Iff.rfl

@[simp] theorem mem_ofTest {a : α} {p : α → Bool} : a ∈ ofTest p ↔ p a = true := by
  simp [mem_def, ofTest, Enumeration.mem_all]

@[simp] theorem mem_ofList {a : α} {xs : List α} : a ∈ ofList xs ↔ a ∈ xs := by
  simp [ofList]

@[simp] theorem not_mem_empty {a : α} : ¬a ∈ (empty : EnumSet α) := by simp [empty]

@[simp] theorem mem_full {a : α} : a ∈ (full : EnumSet α) := by simp [full]

@[simp] theorem mem_insert {a b : α} {s : EnumSet α} : b ∈ s.insert a ↔ b = a ∨ b ∈ s := by
  rw [insert, mem_ofList, List.mem_cons, mem_def]

/-- Sets with the same members are equal. -/
theorem ext {s t : EnumSet α} (h : ∀ a, a ∈ s ↔ a ∈ t) : s = t := by
  apply eq_of_toList_eq
  rw [s.canonical, t.canonical]
  apply List.filter_congr
  intro a _
  have := h a
  simp only [mem_def] at this
  simp [List.contains_eq_mem, this]

/-- A set is made again from its own list. -/
@[simp] theorem ofList_toList (s : EnumSet α) : ofList s.toList = s :=
  ext fun _ => by rw [mem_ofList, mem_def]

/-- A set repeats nothing if the enumeration repeats nothing. -/
theorem nodup_toList (h : (Enumeration.all : List α).Nodup) (s : EnumSet α) : s.toList.Nodup := by
  rw [s.canonical]
  exact h.filter _

end EnumSet

end RoundWorkflow
