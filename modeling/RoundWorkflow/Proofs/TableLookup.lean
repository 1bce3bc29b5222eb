import RoundWorkflow.Proofs.Validation
import RoundWorkflow.Proofs.Index

/-!
# What a table finds

A table looks keys up in its index, which keeps the last of the edges with one key.  The
keys of a sensible specification are distinct, so its index has every edge that is listed
(`Table.perm_index`), and the edge that is found for a key is the only one with it: what a
table finds is exactly what is listed (`Table.next_eq_ok_iff`).
-/

namespace RoundWorkflow

namespace Table

theorem specification_of_load {s : Specification} {t : Table} (h : load s = .ok t) :
    t.specification = s := by
  rw [load] at h
  split at h
  · cases h
    rfl
  · cases h

theorem load_specification (t : Table) : load t.specification = .ok t := by
  obtain ⟨s, warnings, valid, index, rfl⟩ := t
  rw [load]
  split
  · rename_i warnings' h
    cases h.symm.trans valid
    rfl
  · rename_i fault h
    cases h.symm.trans valid

/-- The index of a table has every edge. -/
theorem perm_index (t : Table) : t.index.edges.Perm t.specification.edges := by
  rw [t.index_eq]
  exact EdgeIndex.perm_ofList t.sensible.keys

theorem edgeCount_eq (t : Table) : t.edgeCount = t.specification.edges.length :=
  t.perm_index.length_eq

variable {t : Table} {r r' : Round} {e : Event}

theorem target?_eq_some_iff {k : Key} :
    t.target? k = some r' ↔ ⟨k.round, k.event, r'⟩ ∈ t.specification.edges :=
  EdgeIndex.get?_eq_some_iff.trans t.perm_index.mem_iff

/-- An event leads to a round exactly when an edge says so. -/
theorem next_eq_ok_iff : t.next r e = .ok r' ↔ ⟨r, e, r'⟩ ∈ t.specification.edges := by
  rw [← target?_eq_some_iff (k := ⟨r, e⟩), next]
  split <;> simp [*]

/-- An event without an edge violates the protocol, and nothing else does. -/
theorem next_eq_error_iff {fault : Error} :
    t.next r e = .error fault ↔
      (∀ r', ⟨r, e, r'⟩ ∉ t.specification.edges) ∧ fault = .protocolViolation r e := by
  simp only [← target?_eq_some_iff (k := ⟨r, e⟩), next]
  split <;> simp [*, eq_comm]

/-- The events that a round accepts are those of its edges. -/
theorem mem_accepted_iff : e ∈ t.accepted r ↔ ∃ r', ⟨r, e, r'⟩ ∈ t.specification.edges := by
  rw [accepted, EdgeIndex.between_eq_filter, List.mem_map]
  simp only [List.mem_filter, decide_eq_true_eq, t.perm_index.mem_iff]
  constructor
  · rintro ⟨edge, ⟨hedge, rfl⟩, rfl⟩
    exact ⟨edge.target, hedge⟩
  · rintro ⟨r', hedge⟩
    exact ⟨_, ⟨hedge, rfl⟩, rfl⟩

/-- An event leads to a state. -/
theorem mem_states_of_next (h : t.next r e = .ok r') : r' ∈ t.states :=
  (t.sensible.ends _ (next_eq_ok_iff.mp h)).2

theorem mem_states_of_isStart (h : t.isStart r = true) : r ∈ t.states :=
  t.sensible.starts r (of_decide_eq_true h)

end Table

end RoundWorkflow
