import RoundWorkflow.Proofs.Validation

/-!
# Graphs of edge lists

`Specification.ofEdges` makes a specification out of a list of edges, a default start and
the starts.  Its states are the rounds that occur in any of these (`Occurs`), and its
alphabet is the events that the edges have.

So most of the validation cannot fail.  There is a state, the starts and the ends of the
edges are states, and the events of the edges are in the alphabet.  What is left is that
the default start is a start, that no two edges have one key, that every state has an exit,
and that a start leads to every state (`Specification.Graphic`), and nothing else is ever
blamed (`Specification.Blamed`).  The main statement is `Specification.ofEdges_exact`.
-/

namespace RoundWorkflow

namespace Specification

variable {start : Round} {starts : List Round} {edges : List Edge}

/-! ## What is derived -/

/-- A round is the default start, a start, or an end of an edge. -/
def Occurs (start : Round) (starts : List Round) (edges : List Edge) (r : Round) : Prop :=
  r = start ∨ r ∈ starts ∨ ∃ e ∈ edges, r = e.source ∨ r = e.target

theorem mem_states_ofEdges {r : Round} :
    r ∈ (ofEdges start starts edges).states ↔ Occurs start starts edges r := by
  simp only [ofEdges, EnumSet.mem_ofList, List.cons_append, List.mem_cons, List.mem_append,
    List.mem_flatMap, List.not_mem_nil, or_false, Occurs]

theorem mem_alphabet_ofEdges {event : Event} :
    event ∈ (ofEdges start starts edges).alphabet ↔ ∃ e ∈ edges, e.event = event := by
  rw [ofEdges, EnumSet.mem_ofList, List.mem_map]

theorem mem_starts_ofEdges {r : Round} : r ∈ (ofEdges start starts edges).starts ↔ r ∈ starts :=
  EnumSet.mem_ofList

theorem not_mem_finals_ofEdges {r : Round} : r ∉ (ofEdges start starts edges).finals :=
  EnumSet.not_mem_empty

theorem occurs_ends {e : Edge} (h : e ∈ edges) :
    Occurs start starts edges e.source ∧ Occurs start starts edges e.target :=
  ⟨.inr (.inr ⟨e, h, .inl rfl⟩), .inr (.inr ⟨e, h, .inr rfl⟩)⟩

/-! ## What is left to validate -/

/-- Edges and starts make a round graph. -/
structure Graphic (start : Round) (starts : List Round) (edges : List Edge) : Prop where
  /-- The default start is a start. -/
  defaultStart : start ∈ starts
  /-- Edges at different places have different keys. -/
  keys : edges.Pairwise fun e f => e.key ≠ f.key
  /-- Every round that occurs has an exit. -/
  exits : ∀ r, Occurs start starts edges r → ∃ e ∈ edges, e.source = r
  /-- A path leads to every round that occurs from a start. -/
  paths : ∀ r, Occurs start starts edges r → ∃ a ∈ starts, Path edges a r

theorem sensible_ofEdges_iff :
    (ofEdges start starts edges).Sensible ↔ Graphic start starts edges := by
  constructor
  · intro h
    exact
      { defaultStart := mem_starts_ofEdges.mp h.defaultStart
        keys := h.keys
        exits := fun r hr => h.exits r (mem_states_ofEdges.mpr hr) not_mem_finals_ofEdges
        paths := fun r hr => by
          obtain ⟨a, ha, hpath⟩ := h.paths r (mem_states_ofEdges.mpr hr)
          exact ⟨a, mem_starts_ofEdges.mp ha, hpath⟩ }
  · intro h
    exact
      { state := ⟨start, mem_states_ofEdges.mpr (.inl rfl)⟩
        defaultStart := mem_starts_ofEdges.mpr h.defaultStart
        starts := fun r hr => mem_states_ofEdges.mpr (.inr (.inl (mem_starts_ofEdges.mp hr)))
        finals := fun r hr => absurd hr not_mem_finals_ofEdges
        ends := fun e he =>
          ⟨mem_states_ofEdges.mpr (occurs_ends he).1, mem_states_ofEdges.mpr (occurs_ends he).2⟩
        events := fun e he => mem_alphabet_ofEdges.mpr ⟨e, he, rfl⟩
        keys := h.keys
        exits := fun r hr _ => h.exits r (mem_states_ofEdges.mp hr)
        paths := fun r hr => by
          obtain ⟨a, ha, hpath⟩ := h.paths r (mem_states_ofEdges.mp hr)
          exact ⟨a, mem_starts_ofEdges.mpr ha, hpath⟩ }

/-- Every event of the alphabet is the event of an edge. -/
theorem unusedEvents_ofEdges : (ofEdges start starts edges).unusedEvents = [] := by
  rw [unusedEvents, List.filter_eq_nil_iff]
  intro event hevent
  obtain ⟨e, he, rfl⟩ := mem_alphabet_ofEdges.mp hevent
  rw [Bool.not_eq_true', Bool.not_eq_false, List.any_eq_true]
  exact ⟨e, he, decide_eq_true rfl⟩

theorem unusedEvent_not_mem_warnings {event : Event} :
    .unusedEvent event ∉ (ofEdges start starts edges).warnings := by
  rw [warnings, unusedEvents_ofEdges, List.map_nil, List.nil_append, List.mem_filterMap]
  rintro ⟨r, -, hr⟩
  rw [unroutedTimeout?] at hr
  split at hr
  · split at hr <;> cases hr
  · cases hr

/-! ## What is blamed -/

/-- What validation can blame, each fault for its own reason. -/
inductive Blamed (start : Round) (starts : List Round) (edges : List Edge) : Error → Prop where
  | defaultStart : start ∉ starts →
    Blamed start starts edges (.invalidSpecification (.defaultStartNotListed start))
  /-- The error names the target of the earlier edge first. -/
  | key {i j : Nat} {e f : Edge} : edges[i]? = some e → edges[j]? = some f → j < i → f.key = e.key →
    Blamed start starts edges (.duplicateTransition e.source e.event f.target e.target)
  | exit {r : Round} : Occurs start starts edges r → (∀ e ∈ edges, e.source ≠ r) →
    Blamed start starts edges (.deadEnd r)
  | path {r : Round} : Occurs start starts edges r → (∀ a ∈ starts, ¬Path edges a r) →
    Blamed start starts edges (.unreachable r)

/-- No other check fails. -/
theorem Fails.blamed {c : Check} {error : Error} (h : (ofEdges start starts edges).Fails c error) :
    Blamed start starts edges error := by
  cases h with
  | states hnone => exact absurd (mem_states_ofEdges.mpr (.inl rfl)) (hnone start)
  | defaultStart hnot => exact .defaultStart fun hstart => hnot (mem_starts_ofEdges.mpr hstart)
  | start hr hnot =>
    exact absurd (mem_states_ofEdges.mpr (.inr (.inl (mem_starts_ofEdges.mp hr)))) hnot
  | final hr _ => exact absurd hr not_mem_finals_ofEdges
  | ends he hnot =>
    have hends : Occurs start starts edges _ ∧ Occurs start starts edges _ :=
      occurs_ends (List.mem_of_getElem? he)
    exact absurd ⟨mem_states_ofEdges.mpr hends.1, mem_states_ofEdges.mpr hends.2⟩ hnot
  | event he hnot => exact absurd (mem_alphabet_ofEdges.mpr ⟨_, List.mem_of_getElem? he, rfl⟩) hnot
  | key he hf hlt hkey => exact .key he hf hlt hkey
  | exit hr _ hnone => exact .exit (mem_states_ofEdges.mp hr) hnone
  | path hr hnone =>
    exact .path (mem_states_ofEdges.mp hr) fun a ha => hnone a (mem_starts_ofEdges.mpr ha)

theorem blamed_of_validate {error : Error}
    (h : (ofEdges start starts edges).validate = .error error) :
    Blamed start starts edges error := by
  have hfault : (ofEdges start starts edges).fault? = some error := by
    rw [validate] at h
    cases hfault : (ofEdges start starts edges).fault? <;> rw [hfault] at h <;> cases h
    rfl
  obtain ⟨_, _, _, _, _, hfails⟩ := fault?_eq_some_iff.mp hfault
  exact hfails.blamed

/-- The specification of a list of edges has the rounds and the events that occur.  It is accepted
exactly if the default start is a start, no two edges have one key, every round that occurs has an
exit, and a start leads to every one.  If not, one of these four is blamed, and never a round or an
event that is not declared; and no event is ever unused. -/
theorem ofEdges_exact (start : Round) (starts : List Round) (edges : List Edge) :
    (∀ r, r ∈ (ofEdges start starts edges).states ↔
        r = start ∨ r ∈ starts ∨ ∃ e ∈ edges, r = e.source ∨ r = e.target) ∧
      (∀ event, event ∈ (ofEdges start starts edges).alphabet ↔ ∃ e ∈ edges, e.event = event) ∧
      ((∃ warnings, (ofEdges start starts edges).validate = .ok warnings) ↔
        start ∈ starts ∧ (edges.Pairwise fun e f => e.key ≠ f.key) ∧
          (∀ r ∈ (ofEdges start starts edges).states, ∃ e ∈ edges, e.source = r) ∧
          ∀ r ∈ (ofEdges start starts edges).states, ∃ a ∈ starts, Path edges a r) ∧
      (∀ error, (ofEdges start starts edges).validate = .error error →
        Blamed start starts edges error ∧ error ≠ .invalidSpecification .noStates ∧
          (∀ r, error ≠ .invalidSpecification (.notAState r)) ∧
          (∀ e, error ≠ .invalidSpecification (.edgeLeavesStates e)) ∧
          ∀ e, error ≠ .invalidSpecification (.edgeEventUnlisted e)) ∧
      ∀ warnings, (ofEdges start starts edges).validate = .ok warnings →
        ∀ event, .unusedEvent event ∉ warnings := by
  refine ⟨fun r => mem_states_ofEdges, fun event => mem_alphabet_ofEdges, ?_,
    fun error herror => ?_,
    fun warnings hok event => ?_⟩
  · simp only [validate_eq_ok_iff, exists_and_left, exists_eq', and_true, sensible_ofEdges_iff,
      mem_states_ofEdges]
    exact ⟨fun h => ⟨h.defaultStart, h.keys, h.exits, h.paths⟩,
        fun ⟨hstart, hkeys, hexits, hpaths⟩ =>
      ⟨hstart, hkeys, hexits, hpaths⟩⟩
  · have hblamed := blamed_of_validate herror
    refine ⟨hblamed, ?_⟩
    cases hblamed <;> simp
  · rw [← (validate_eq_ok_iff.mp hok).2]
    exact unusedEvent_not_mem_warnings

end Specification

end RoundWorkflow
