import RoundWorkflow.History
import RoundWorkflow.Proofs.BoundedLog
import Mathlib.Data.List.Induction

/-!
# The window of a history

A history is told of one transition after the other.  `History.reported` are the records of all of
them, numbered from zero, and `recordAll_keeps` says that the history is what is left of this list:
its window is the end that fits the capacity, and moves on by one record when it is full.

So the steps of the records in the window have no gap, which makes the look-up exact: a step is as
far from the step of the oldest record as its record is from the oldest one (`Window.distance`).
Below the window and above it nothing is found, and in it nothing but the record of the step.
-/

namespace RoundWorkflow.History

/-! ## What a history is told -/

/-- What a history is told of a transition. -/
structure Entry where
  edge : Edge
  period : Nat
  timedOut : Bool

/-- The record of a transition with a number of others before it. -/
def Entry.record (e : Entry) (step : Nat) : Record :=
  ⟨step, e.edge.source, e.edge.event, e.edge.target, e.period, e.timedOut⟩

/-- The history after more transitions in turn. -/
def recordAll (h : History) (es : List Entry) : History :=
  es.foldl (fun h e => h.record e.edge e.period e.timedOut) h

/-- The records of all transitions that were ever reported. -/
def reported (es : List Entry) : List Record := es.mapIdx fun i e => e.record i

variable {capacity k s : Nat} {es : List Entry} {r : Record}

@[simp] theorem length_reported (es : List Entry) : (reported es).length = es.length :=
  List.length_mapIdx

theorem steps_reported (es : List Entry) :
    (reported es).map Record.step = List.range' 0 es.length := by
  refine List.ext_getElem (by simp) fun i h h' => ?_
  simp [reported, Entry.record]

theorem step_of_reported (h : (reported es)[s]? = some r) : r.step = s := by
  rw [reported, List.getElem?_mapIdx, Option.map_eq_some_iff] at h
  obtain ⟨e, -, rfl⟩ := h
  rfl

theorem mem_drop_reported :
    r ∈ (reported es).drop k ↔ k ≤ r.step ∧ (reported es)[r.step]? = some r := by
  rw [List.mem_iff_getElem?]
  constructor
  · rintro ⟨i, hi⟩
    rw [List.getElem?_drop] at hi
    rw [step_of_reported hi]
    exact ⟨Nat.le_add_right k i, hi⟩
  · rintro ⟨hle, hr⟩
    exact ⟨r.step - k, by rwa [List.getElem?_drop, Nat.add_sub_cancel' hle]⟩

/-- A history is what is left of the records of transitions. -/
def Keeps (h : History) (es : List Entry) : Prop := h.log.Keeps (reported es)

variable {h : History}

theorem Keeps.total (hkeeps : h.Keeps es) : h.total = es.length := by
  rw [History.total, Recent.Keeps.total hkeeps, length_reported]

theorem Keeps.record (hkeeps : h.Keeps es) (e : Entry) :
    (h.record e.edge e.period e.timedOut).Keeps (es ++ [e]) := by
  have hnext : h.next e.edge e.period e.timedOut = e.record es.length := by
    rw [next, hkeeps.total]
    rfl
  rw [Keeps, History.record, hnext, reported, List.mapIdx_concat]
  exact Recent.Keeps.push hkeeps _

theorem recordAll_keeps (capacity : Nat) (es : List Entry) :
    ((empty capacity).recordAll es).Keeps es := by
  induction es using List.reverseRecOn with
  | nil => exact Recent.keeps_empty capacity
  | append_singleton es e ih =>
    rw [recordAll, List.foldl_append]
    exact ih.record e

theorem capacity_recordAll (h : History) (es : List Entry) :
    (h.recordAll es).log.capacity = h.log.capacity := by
  induction es generalizing h with
  | nil => rfl
  | cons e es ih => exact (ih _).trans (Recent.capacity_push _ _)

/-! ## The window -/

theorem Keeps.size (hkeeps : h.Keeps es) : h.log.size = min h.total h.log.capacity := by
  rw [Recent.Keeps.size hkeeps, length_reported, hkeeps.total]

/-- As many records are shown no longer as do not fit the capacity. -/
theorem Keeps.dropped (hkeeps : h.Keeps es) :
    (reported es).length - h.log.capacity = h.total - h.log.size := by
  have htotal := hkeeps.total
  have hsize := hkeeps.size
  rw [length_reported]
  omega

theorem Keeps.records (hkeeps : h.Keeps es) :
    h.records = (reported es).drop (h.total - h.log.size) := by
  rw [History.records, Recent.Keeps.toList hkeeps, hkeeps.dropped]

theorem Keeps.steps (hkeeps : h.Keeps es) :
    h.records.map Record.step = List.range' (h.total - h.log.size) h.log.size := by
  have htotal := hkeeps.total
  have hsize := hkeeps.size
  rw [hkeeps.records, List.map_drop, steps_reported, List.drop_range']
  congr 1 <;> omega

/-- The record of a step that is shown is the one that was reported with this number. -/
theorem Keeps.get? (hkeeps : h.Keeps es) (s : Nat) :
    h.get? s = if h.total - h.log.size ≤ s then (reported es)[s]? else none := by
  rw [History.get?, Recent.Keeps.get? hkeeps, hkeeps.dropped]

theorem Keeps.get?_eq_some_iff (hkeeps : h.Keeps es) (s : Nat) (r : Record) :
    h.get? s = some r ↔ r ∈ h.records ∧ r.step = s := by
  rw [hkeeps.get?, hkeeps.records, mem_drop_reported]
  constructor
  · intro hr
    split at hr
    · rw [step_of_reported hr]
      exact ⟨⟨‹_›, hr⟩, rfl⟩
    · cases hr
  · rintro ⟨⟨hle, hr⟩, rfl⟩
    rw [if_pos hle, hr]

theorem Keeps.get?_eq_none_iff (hkeeps : h.Keeps es) (s : Nat) :
    h.get? s = none ↔ s < h.total - h.log.size ∨ h.total ≤ s := by
  rw [hkeeps.get?]
  split
  · rw [List.getElem?_eq_none_iff, length_reported, ← hkeeps.total]
    omega
  · simp only [true_iff]
    omega

/-- A record is as far from the oldest one as its step is from the step of the oldest one. -/
theorem Keeps.distance (hkeeps : h.Keeps es) (s : Nat) :
    h.get? s = h.records.head?.bind fun oldest => if oldest.step ≤ s then
      h.records[s - oldest.step]? else none := by
  rw [hkeeps.get?, hkeeps.records, List.head?_drop]
  cases holdest : (reported es)[h.total - h.log.size]? with
  | none =>
    -- There is no transition at all.
    have htotal := hkeeps.total
    have hsize := hkeeps.size
    have hcapacity := h.log.capacity_pos
    have hlength := List.getElem?_eq_none_iff.mp holdest
    rw [length_reported] at hlength
    rw [List.getElem?_eq_none (by rw [length_reported]; omega), ite_self]
    rfl
  | some oldest =>
    rw [Option.bind_some, step_of_reported holdest]
    split
    · rw [List.getElem?_drop, Nat.add_sub_cancel' ‹_›]
    · rfl

/-- What a history of a capacity shows of the transitions that were reported to it. -/
structure Window (capacity : Nat) (es : List Entry) (h : History) : Prop where
  total : h.total = es.length
  size : h.log.size = min h.total (max capacity 1)
  /-- The latest records are shown, as many as there is room for. -/
  records : h.records = (reported es).drop (h.total - h.log.size)
  /-- Their steps follow upon one another, up to that of the latest transition. -/
  steps : h.records.map Record.step = List.range' (h.total - h.log.size) h.log.size
  /-- A record that is found is shown, and is that of the step. -/
  get?_eq_some_iff : ∀ s r, h.get? s = some r ↔ r ∈ h.records ∧ r.step = s
  /-- Nothing is found of the steps that are shown no longer, and of those to come. -/
  get?_eq_none_iff : ∀ s, h.get? s = none ↔ s < h.total - h.log.size ∨ h.total ≤ s
  /-- A record is as far from the oldest one as its step is from the step of the oldest one. -/
  distance : ∀ s, h.get? s = h.records.head?.bind fun oldest =>
    if oldest.step ≤ s then h.records[s - oldest.step]? else none
  last : h.last? = (reported es).getLast?
  /-- The records of a period are some of those shown, in the same order. -/
  forPeriod_sublist : ∀ period, (h.forPeriod period).Sublist h.records
  mem_forPeriod : ∀ period r, r ∈ h.forPeriod period ↔ r ∈ h.records ∧ r.period = period

/-- Whatever transitions are reported to a history of any capacity, it shows the latest of them, and
finds each of these by its step and by its period, and no other. -/
theorem recordAll_window (capacity : Nat) (es : List Entry) :
    Window capacity es ((empty capacity).recordAll es) := by
  have hkeeps := recordAll_keeps capacity es
  have hcapacity : ((empty capacity).recordAll es).log.capacity = max capacity 1 :=
    capacity_recordAll _ es
  exact
    { total := hkeeps.total
      size := hcapacity ▸ hkeeps.size
      records := hkeeps.records
      steps := hkeeps.steps
      get?_eq_some_iff := hkeeps.get?_eq_some_iff
      get?_eq_none_iff := hkeeps.get?_eq_none_iff
      distance := hkeeps.distance
      last := Recent.Keeps.last? hkeeps
      forPeriod_sublist := fun period => List.filter_sublist
      mem_forPeriod := fun period r => by simp [forPeriod] }

/-- Ten transitions that are reported to a history of three. -/
example :
    ((empty 3).recordAll (.replicate 10 ⟨⟨.loadDatabase, .noMajority, .loadDatabase⟩, 0,
      false⟩)).records.map
    Record.step = [7, 8, 9] := by decide

end RoundWorkflow.History
