import RoundWorkflow.Proofs.TableLookup
import Mathlib.Algebra.Ring.Nat
import Mathlib.Data.List.Nodup

/-!
# The edges of a table

The edges of a specification are listed in any order.  A table has the same edges, each once, by
round and then by event.  The edges with keys between the first and the last event of a round are
those that leave it, so the events that the round accepts ascend in the alphabet
(`Table.ascending_accepted`), and its exits are the edges that the specification lists for it,
sorted by their events (`Table.perm_outgoing`, `Table.ascending_outgoing`).  As every edge leaves
one of the states, the exits of all states are all edges (`Table.perm_flatMap_outgoing`).

The main statement is `Table.index_exact`.
-/

namespace RoundWorkflow

/-- The place of an event in the alphabet is its place in the declaration. -/
theorem Event.position_eq (e : Event) : Enumeration.position e = e.ctorIdx := by cases e <;> rfl

namespace Table

variable {s : Specification} {t : Table} {r : Round}

/-- The edges that leave a round, as the index has them. -/
theorem accepted_eq_map (t : Table) (r : Round) :
    t.accepted r = (t.index.edges.filter fun e => e.source = r).map Edge.event := by
  rw [accepted, EdgeIndex.between_eq_filter]

theorem outgoing_eq_filter (t : Table) (r : Round) :
    t.outgoing r = t.index.edges.filter fun e => e.source = r := by
  have hfound : ∀ e ∈ t.index.edges.filter fun e => e.source = r,
      ((fun e => (t.target? ⟨r, e⟩).map fun r' => (⟨r, e, r'⟩ : Edge)) ∘ Edge.event) e =
        some e := by
    intro e he
    obtain ⟨hedge, hsource⟩ := List.mem_filter.mp he
    cases of_decide_eq_true hsource
    have htarget : t.target? ⟨e.source, e.event⟩ = some e.target :=
      EdgeIndex.get?_eq_some_iff.mpr hedge
    rw [Function.comp_apply, htarget]
    rfl
  rw [outgoing, accepted_eq_map, List.filterMap_map, List.filterMap_congr hfound,
    List.filterMap_some]

/-- The exits of a round ascend in the order of the alphabet. -/
theorem ascending_outgoing (t : Table) (r : Round) :
    (t.outgoing r).Pairwise fun e f => Enumeration.position e.event <
      Enumeration.position f.event := by
  rw [outgoing_eq_filter]
  refine (t.index.ascending.filter _).imp_of_mem fun {e f} he hf hlt => ?_
  have hsource : e.source = f.source :=
    (of_decide_eq_true (List.mem_filter.mp he).2).trans
      (of_decide_eq_true (List.mem_filter.mp hf).2).symm
  -- Of two keys of one round, the one with the earlier event comes first.
  rw [Event.position_eq, Event.position_eq]
  rcases hlt with hround | ⟨-, hevent⟩
  · exact absurd (congrArg Round.ctorIdx hsource) (Nat.ne_of_lt hround)
  · exact hevent

/-- The events that a round accepts ascend in the order of the alphabet. -/
theorem ascending_accepted (t : Table) (r : Round) :
    (t.accepted r).Pairwise fun e f => Enumeration.position e < Enumeration.position f := by
  rw [accepted_eq_map, ← outgoing_eq_filter]
  exact List.pairwise_map.mpr (t.ascending_outgoing r)

/-- The exits of a round are the edges that the specification lists for it. -/
theorem perm_outgoing (t : Table) (r : Round) :
    (t.outgoing r).Perm (t.specification.outgoing r) := by
  rw [outgoing_eq_filter]
  exact t.perm_index.filter _

theorem mem_outgoing_iff {e : Edge} :
    e ∈ t.outgoing r ↔ e ∈ t.specification.edges ∧ e.source = r := by
  rw [(t.perm_outgoing r).mem_iff, Specification.outgoing, List.mem_filter, decide_eq_true_eq]

/-- The exits of all states are all edges. -/
theorem perm_flatMap_outgoing (t : Table) :
    (t.states.flatMap t.outgoing).Perm t.specification.edges := by
  have hstates : t.states.Nodup := EnumSet.nodup_toList Round.nodup_all _
  have hedges : t.specification.edges.Nodup :=
    t.sensible.keys.imp fun hkey he => hkey (congrArg Edge.key he)
  have hexits : (t.states.flatMap t.outgoing).Nodup := by
    refine List.nodup_flatMap.mpr ⟨fun r _ => (t.perm_outgoing r).nodup_iff.mpr (hedges.filter _),
      ?_⟩
    refine hstates.imp fun {r r'} hne e he he' => hne ?_
    exact (mem_outgoing_iff.mp he).2.symm.trans (mem_outgoing_iff.mp he').2
  refine (List.perm_ext_iff_of_nodup hexits hedges).mpr fun e => ?_
  rw [List.mem_flatMap]
  constructor
  · rintro ⟨r, -, he⟩
    exact (mem_outgoing_iff.mp he).1
  · intro he
    exact ⟨e.source, (t.sensible.ends e he).1, mem_outgoing_iff.mpr ⟨he, rfl⟩⟩

theorem sum_length_outgoing (t : Table) :
    (t.states.map fun r => (t.outgoing r).length).sum = t.edgeCount := by
  rw [t.edgeCount_eq, ← t.perm_flatMap_outgoing.length_eq, List.length_flatMap]

/-- A table that is loaded has the edges of its specification and no others.  An event leads to a
round just if an edge says so, and violates the protocol if none does.  There are as many edges as
are listed.  The events that a round accepts ascend in the alphabet, and are those that lead
somewhere.  Its exits are the edges that are listed for it, sorted by their events, and the states
together have as many exits as there are edges. -/
theorem index_exact (h : load s = .ok t) :
    (∀ r e r', t.next r e = .ok r' ↔ ⟨r, e, r'⟩ ∈ s.edges) ∧
      (∀ r e fault, t.next r e = .error fault ↔
        (∀ r', ⟨r, e, r'⟩ ∉ s.edges) ∧ fault = .protocolViolation r e) ∧
      t.edgeCount = s.edges.length ∧
      (∀ r, (t.accepted r).Pairwise fun e f => Enumeration.position e < Enumeration.position f) ∧
      (∀ r e, e ∈ t.accepted r ↔ ∃ r', t.next r e = .ok r') ∧
      (∀ r, (t.outgoing r).Perm (s.outgoing r) ∧
        (t.outgoing r).Pairwise fun e f => Enumeration.position e.event <
          Enumeration.position f.event) ∧
      (s.states.toList.map fun r => (t.outgoing r).length).sum = t.edgeCount := by
  cases specification_of_load h
  refine ⟨fun r e r' => next_eq_ok_iff, fun r e fault => next_eq_error_iff, t.edgeCount_eq,
    t.ascending_accepted,
    fun r e => ?_, fun r => ⟨t.perm_outgoing r, t.ascending_outgoing r⟩, t.sum_length_outgoing⟩
  simp only [next_eq_ok_iff]
  exact mem_accepted_iff

/-- A table whose file lists the exits of the rounds apart, and not in the order of their events. -/
def scattered : Table where
  specification := .ofEdges .pullMemes [.pullMemes]
    [⟨.pullMemes, .noMajority, .pullMemes⟩, ⟨.resetAndPause, .done, .pullMemes⟩,
      ⟨.pullMemes, .roundTimeout, .pullMemes⟩, ⟨.pullMemes, .done, .resetAndPause⟩]
  warnings := [.unroutedTimeout .resetAndPause .resetAndPauseTimeout]
  valid := by cbv

/-- The table has them together, and in order. -/
theorem scattered_index :
    load scattered.specification = .ok scattered ∧ scattered.edgeCount = 4 ∧
      scattered.next .pullMemes .done = .ok .resetAndPause ∧
      scattered.next .resetAndPause .wait = .error (.protocolViolation .resetAndPause .wait) ∧
      (∀ e, e ∈ scattered.accepted .resetAndPause ↔
        ∃ r', scattered.next .resetAndPause e = .ok r') ∧
      (scattered.outgoing .pullMemes).Perm
        [⟨.pullMemes, .done, .resetAndPause⟩, ⟨.pullMemes, .noMajority, .pullMemes⟩,
          ⟨.pullMemes, .roundTimeout, .pullMemes⟩] ∧
      (scattered.specification.states.toList.map fun r =>
        (scattered.outgoing r).length).sum = 4 := by
  have hload := scattered.load_specification
  obtain ⟨hnext, hviolation, hcount, -, haccepted, houtgoing, hsum⟩ := index_exact hload
  have hmissing : ∀ r', (⟨.resetAndPause, .wait, r'⟩ : Edge) ∉ scattered.specification.edges := by
    simp [scattered, Specification.ofEdges]
  exact ⟨hload, hcount, (hnext _ _ _).mpr (by decide), (hviolation _ _ _).mpr ⟨hmissing, rfl⟩,
    haccepted _,
    (houtgoing .pullMemes).1.trans (by decide), hsum.trans hcount⟩

end Table

end RoundWorkflow
