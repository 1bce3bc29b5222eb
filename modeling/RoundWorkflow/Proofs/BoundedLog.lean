import RoundWorkflow.Channel

/-!
# What a bounded log shows

A bounded log forgets.  `Recent.Keeps` compares it with the list of everything that was
ever written: the log counts all of it, and shows the end of it that fits its capacity.
Writing preserves this (`Keeps.push`), and all that can be asked of a log follows from it.

For a channel it follows what a subscriber gets.  As long as no more messages were sent
than the channel holds, nothing is missed and every message is due; one message more, and
the subscriber has missed the oldest (`Keeps.missed_eq_zero_iff`).
-/

namespace RoundWorkflow

variable {α : Type}

namespace Recent

/-! ## The entries shown -/

/-- The log is what is left of a list of all entries that were ever written. -/
structure Keeps (l : Recent α) (written : List α) : Prop where
  /-- Every entry is counted. -/
  total : l.total = written.length
  /-- The latest entries are shown. -/
  newestFirst : l.newestFirst = written.reverse.take l.capacity

theorem keeps_empty (capacity : Nat) : (empty capacity : Recent α).Keeps [] :=
  ⟨rfl, by simp [newestFirst, empty]⟩

/-- A list that is cut is cut again to the same length after one more entry. -/
theorem take_cons_take (a : α) (xs : List α) (n : Nat) :
    (a :: xs.take n).take n = (a :: xs).take n := by
  cases n with
  | zero => rfl
  | succ n => simp [List.take_take]

theorem Keeps.push {l : Recent α} {written : List α} (h : l.Keeps written) (a : α) :
    (l.push a).Keeps (written ++ [a]) where
  total := by rw [total_push, h.total, List.length_append, List.length_singleton]
  newestFirst := by
    rw [newestFirst_push, h.newestFirst, take_cons_take, capacity_push, List.reverse_append]
    rfl

theorem Keeps.toList {l : Recent α} {written : List α} (h : l.Keeps written) :
    l.toList = written.drop (written.length - l.capacity) := by
  rw [Recent.toList, h.newestFirst, List.take_reverse, List.reverse_reverse]

theorem Keeps.size {l : Recent α} {written : List α} (h : l.Keeps written) :
    l.size = min written.length l.capacity := by
  rw [size_eq_length, h.toList, List.length_drop]
  omega

/-- The oldest entry shown comes right after those that no longer fit. -/
theorem Keeps.first {l : Recent α} {written : List α} (h : l.Keeps written) :
    l.first = written.length - l.capacity := by
  rw [Recent.first, h.total, h.size]
  omega

theorem last?_eq_head? (l : Recent α) : l.last? = l.newestFirst.head? := by
  obtain ⟨n, hn⟩ := Nat.exists_eq_succ_of_ne_zero (Nat.ne_of_gt l.capacity_pos)
  rw [last?, newestFirst, hn]
  cases l.held <;> rfl

/-- An entry is found by its number as long as it fits. -/
theorem Keeps.get? {l : Recent α} {written : List α} (h : l.Keeps written) (number : Nat) :
    l.get? number = if written.length - l.capacity ≤ number then written[number]? else none := by
  rw [Recent.get?, h.first, h.toList]
  split
  · rw [List.getElem?_drop, Nat.add_sub_cancel' ‹_›]
  · rfl

theorem Keeps.last? {l : Recent α} {written : List α} (h : l.Keeps written) :
    l.last? = written.getLast? := by
  rw [last?_eq_head?, h.newestFirst, List.head?_take, if_neg (Nat.ne_of_gt l.capacity_pos),
    List.head?_reverse]

@[simp] theorem last?_push (l : Recent α) (a : α) : (l.push a).last? = some a := by
  obtain ⟨n, hn⟩ := Nat.exists_eq_succ_of_ne_zero (Nat.ne_of_gt l.capacity_pos)
  rw [last?_eq_head?, newestFirst_push, hn]
  rfl

/-! ## Logs entry by entry -/

variable {β : Type}

/-- The log with every entry changed. -/
def map (f : α → β) (l : Recent α) : Recent β where
  capacity := l.capacity
  capacity_pos := l.capacity_pos
  held := l.held.map f
  count := l.count
  count_eq := by rw [l.count_eq, List.length_map]
  total := l.total

theorem map_push (f : α → β) (l : Recent α) (a : α) : (l.push a).map f = (l.map f).push (f a) := by
  by_cases h : l.count + 1 < 2 * l.capacity
  · have h' : (l.map f).count + 1 < 2 * (l.map f).capacity := h
    rw [push, dif_pos h, push, dif_pos h']
    rfl
  · have h' : ¬(l.map f).count + 1 < 2 * (l.map f).capacity := h
    rw [push, dif_neg h, push, dif_neg h']
    simp only [map, List.map_take, List.map_cons]

theorem toList_map (f : α → β) (l : Recent α) : (l.map f).toList = l.toList.map f := by
  rw [Recent.toList, newestFirst, map, Recent.toList, newestFirst, List.map_reverse, List.map_take]

end Recent

/-! ## Subscriptions -/

theorem powerOfTwoFrom_pos (n : Nat) : 0 < powerOfTwoFrom n := by
  rw [powerOfTwoFrom]
  split
  · exact Nat.one_pos
  · exact Nat.two_pow_pos _

namespace Channel

@[simp] theorem capacity_empty (capacity : Nat) :
    (empty capacity : Channel α).log.capacity = powerOfTwoFrom capacity :=
  Nat.max_eq_left (powerOfTwoFrom_pos capacity)

/-- A subscriber has missed nothing exactly when all that was sent since it subscribed still
fits. -/
theorem missed_eq_zero_iff {c : Channel α} {sent : List α} (h : c.log.Keeps sent)
    (s : Subscription) :
    c.missed s = 0 ↔ sent.length ≤ s + c.log.capacity := by
  rw [missed, h.first]
  omega

/-- A subscriber that has missed nothing is due every message since it subscribed. -/
theorem due_of_missed_eq_zero {c : Channel α} {sent : List α} (h : c.log.Keeps sent)
    {s : Subscription} (hmissed : c.missed s = 0) : c.due s = sent.drop s := by
  rw [missed_eq_zero_iff h] at hmissed
  rw [due, h.first, h.toList, List.drop_drop]
  congr 1
  omega

end Channel

end RoundWorkflow
