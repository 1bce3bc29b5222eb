import RoundWorkflow.Specification.Reachability
import Mathlib.Logic.Function.Iterate

/-!
# What a search finds

Three facts hold in every turn of a search (`Search.Keeps`): the round that it began at has been
visited or waits; a path leads from there to every round that has been visited or waits; and what
an edge leads to from a visited round has been visited or waits.  When nothing waits any more, the
visited rounds contain the first round, are closed under the edges, and are the ends of paths.  So
they are exactly the ends of paths (`Specification.mem_reachableFrom_iff`).

Every turn leaves less work than there was, so a search is over after as many turns as there are
edges, and one more (`Search.exists_over`).  This does not depend on the edges being sensible: they
may lead in circles, be listed several times, or leave rounds that are not declared.

The main statement is `Specification.reachableFrom_exact`.
-/

namespace RoundWorkflow

variable {s : Specification} {a b r : Round} {search : Search}

theorem Path.trans {edges : List Edge} (h : Path edges a b) (h' : Path edges b r) :
    Path edges a r := by
  induction h' with
  | refl => exact h
  | step _ he ih => exact .step ih he

namespace Search

/-! ## One turn -/

/-- The round has been visited or waits. -/
def Knows (search : Search) (r : Round) : Prop := r ∈ search.visited ∨ r ∈ search.queue

theorem mem_ahead_iff {visited : EnumSet Round} :
    b ∈ ahead s visited r ↔ (∃ e ∈ s.edges, e.source = r ∧ e.target = b) ∧ b ∉ visited := by
  simp [ahead, Specification.outgoing, and_assoc]

/-- What holds in every turn of a search that began at a round. -/
structure Keeps (s : Specification) (a : Round) (search : Search) : Prop where
  /-- The first round is known. -/
  start : search.Knows a
  /-- A path leads to whatever is known. -/
  paths : ∀ r, search.Knows r → Path s.edges a r
  /-- What an edge leads to from a visited round is known. -/
  closed : ∀ e ∈ s.edges, e.source ∈ search.visited → search.Knows e.target

theorem keeps_start (s : Specification) (a : Round) : Keeps s a (start a) where
  start := .inr List.mem_cons_self
  paths := by
    rintro r (h | h)
    · exact absurd h EnumSet.not_mem_empty
    · cases List.mem_singleton.mp h
      exact .refl
  closed := fun e _ h => absurd h EnumSet.not_mem_empty

/-- A round that has been visited can leave the queue. -/
theorem Keeps.skip {visited : EnumSet Round} {queue : List Round}
    (h : Keeps s a ⟨visited, r :: queue⟩) (hr : r ∈ visited) : Keeps s a ⟨visited, queue⟩ := by
  have hknows : ∀ b, Knows ⟨visited, r :: queue⟩ b → Knows ⟨visited, queue⟩ b := by
    rintro b (hb | hb)
    · exact .inl hb
    · cases hb with
      | head => exact .inl hr
      | tail _ hb => exact .inr hb
  exact
    { start := hknows a h.start
      paths := fun b hb => h.paths b (hb.imp_right (List.mem_cons_of_mem r))
      closed := fun e he hsource => hknows e.target (h.closed e he hsource) }

/-- A round that is visited makes way for what edges lead to from it. -/
theorem Keeps.visit {visited : EnumSet Round} {queue : List Round}
    (h : Keeps s a ⟨visited, r :: queue⟩) :
    Keeps s a ⟨visited.insert r, queue ++ ahead s (visited.insert r) r⟩ := by
  have hknows : ∀ b, Knows ⟨visited, r :: queue⟩ b →
      Knows ⟨visited.insert r, queue ++ ahead s (visited.insert r) r⟩ b := by
    rintro b (hb | hb)
    · exact .inl (EnumSet.mem_insert.mpr (.inr hb))
    · cases hb with
      | head => exact .inl (EnumSet.mem_insert.mpr (.inl rfl))
      | tail _ hb => exact .inr (List.mem_append_left _ hb)
  have hpath : Path s.edges a r := h.paths r (.inr List.mem_cons_self)
  constructor
  · exact hknows a h.start
  · rintro b (hb | hb)
    · rcases EnumSet.mem_insert.mp hb with rfl | hb
      · exact hpath
      · exact h.paths b (.inl hb)
    · rcases List.mem_append.mp hb with hb | hb
      · exact h.paths b (.inr (List.mem_cons_of_mem r hb))
      · obtain ⟨⟨e, he, rfl, rfl⟩, -⟩ := mem_ahead_iff.mp hb
        exact .step hpath he
  · intro e he hsource
    rcases EnumSet.mem_insert.mp hsource with hsource | hsource
    · by_cases hvisited : e.target ∈ visited.insert r
      · exact .inl hvisited
      · exact .inr (List.mem_append_right _ (mem_ahead_iff.mpr ⟨⟨e, he, hsource, rfl⟩, hvisited⟩))
    · exact hknows e.target (h.closed e he hsource)

theorem Keeps.turn (h : Keeps s a search) : Keeps s a (search.turn s) := by
  obtain ⟨visited, _ | ⟨r, queue⟩⟩ := search
  · exact h
  · rw [Search.turn]
    split
    · exact h.skip ‹_›
    · exact h.visit

/-! ## Many turns -/

theorem Keeps.turns (h : Keeps s a search) (n : Nat) : Keeps s a ((Search.turn s)^[n] search) := by
  induction n with
  | zero => exact h
  | succ n ih =>
    rw [Function.iterate_succ_apply']
    exact ih.turn

/-- A search is over after no more turns than there was work. -/
theorem exists_over (s : Specification) (search : Search) :
    ∃ n ≤ search.left s, (turn s)^[n] search = ⟨search.run s, []⟩ := by
  induction search using run.induct s with
  | case1 search hover =>
    refine ⟨0, Nat.zero_le _, ?_⟩
    rw [run, if_pos hover, Function.iterate_zero_apply, ← hover]
  | case2 search hwaits ih =>
    obtain ⟨n, hn, hover⟩ := ih
    refine ⟨n + 1, ?_, ?_⟩
    · have := left_turn_lt (s := s) hwaits
      omega
    · rw [run, if_neg hwaits, Function.iterate_succ_apply, hover]

theorem left_start_le (s : Specification) (a : Round) : (start a).left s ≤ s.edges.length + 1 := by
  have hedges := List.length_filter_le (fun e => e.source ∉ (start a).visited) s.edges
  rw [left, Nat.add_comm]
  exact Nat.add_le_add_right hedges 1

end Search

/-! ## The end of a search -/

namespace Specification

/-- A round is found exactly when a path leads to it. -/
theorem mem_reachableFrom_iff : r ∈ s.reachableFrom a ↔ Path s.edges a r := by
  obtain ⟨n, -, hover⟩ := Search.exists_over s (.start a)
  have hkeeps : Search.Keeps s a ⟨s.reachableFrom a, []⟩ := hover ▸ (Search.keeps_start s a).turns n
  -- Nothing waits, so what is known has been visited.
  have hknows : ∀ b, Search.Knows ⟨s.reachableFrom a, []⟩ b → b ∈ s.reachableFrom a := fun b hb =>
    hb.resolve_right List.not_mem_nil
  constructor
  · exact fun hr => hkeeps.paths r (.inl hr)
  · intro hpath
    induction hpath with
    | refl => exact hknows a hkeeps.start
    | step _ he ih => exact hknows _ (hkeeps.closed _ he ih)

/-- From any round, declared or not, and with any edges, a search comes to an end, within a turn
more than there are edges, and the rounds that it has found are exactly those that a path leads to.
So they are the least set that the round is in and that the edges do not lead out of.  What a round
leads to that has been found, has been found too. -/
theorem reachableFrom_exact (s : Specification) (a : Round) :
    (∃ n ≤ s.edges.length + 1, (Search.turn s)^[n] (.start a) = ⟨s.reachableFrom a, []⟩) ∧
      (∀ r, r ∈ s.reachableFrom a ↔ Path s.edges a r) ∧
      a ∈ s.reachableFrom a ∧
      (∀ e ∈ s.edges, e.source ∈ s.reachableFrom a → e.target ∈ s.reachableFrom a) ∧
      (∀ rs : Round → Prop, rs a → (∀ e ∈ s.edges, rs e.source → rs e.target) →
        ∀ r ∈ s.reachableFrom a, rs r) ∧
      ∀ b ∈ s.reachableFrom a, ∀ r ∈ s.reachableFrom b, r ∈ s.reachableFrom a := by
  obtain ⟨n, hn, hover⟩ := Search.exists_over s (.start a)
  refine ⟨⟨n, Nat.le_trans hn (Search.left_start_le s a), hover⟩,
    fun r => mem_reachableFrom_iff, ?_, ?_, ?_, ?_⟩
  · exact mem_reachableFrom_iff.mpr .refl
  · intro e he hsource
    exact mem_reachableFrom_iff.mpr (.step (mem_reachableFrom_iff.mp hsource) he)
  · intro rs ha hclosed r hr
    induction mem_reachableFrom_iff.mp hr with
    | refl => exact ha
    | step hpath he ih => exact hclosed _ he (ih (mem_reachableFrom_iff.mpr hpath))
  · intro b hb r hr
    exact mem_reachableFrom_iff.mpr
      ((mem_reachableFrom_iff.mp hb).trans (mem_reachableFrom_iff.mp hr))

/-- Two rounds that lead to each other, by an edge that is listed twice, and a third round that
leads to them.  None of them is declared. -/
def circling : Specification where
  alphabet := .empty
  defaultStart := .registration
  finals := .empty
  starts := .empty
  states := .empty
  edges :=
    [⟨.pullMemes, .done, .collectFeedback⟩, ⟨.collectFeedback, .done, .pullMemes⟩,
      ⟨.pullMemes, .done, .collectFeedback⟩, ⟨.loadDatabase, .done, .pullMemes⟩]

/-- The circle is found from the third round, and the third round not from the circle. -/
theorem circling_found :
    (∃ n ≤ 5, (Search.turn circling)^[n] (.start .loadDatabase) =
      ⟨circling.reachableFrom .loadDatabase, []⟩) ∧
      .pullMemes ∈ circling.reachableFrom .loadDatabase ∧
      (∀ r ∈ circling.reachableFrom .pullMemes, r ∈ circling.reachableFrom .loadDatabase) ∧
      .collectFeedback ∈ circling.reachableFrom .pullMemes ∧
      .loadDatabase ∉ circling.reachableFrom .pullMemes := by
  obtain ⟨hover, -, hload, hedges, -, htrans⟩ := reachableFrom_exact circling .loadDatabase
  obtain ⟨-, -, hpull, hcircle, hleast, -⟩ := reachableFrom_exact circling .pullMemes
  have hfound := hedges ⟨.loadDatabase, .done, .pullMemes⟩ (by decide) hload
  refine ⟨hover, hfound, htrans _ hfound,
    hcircle ⟨.pullMemes, .done, .collectFeedback⟩ (by decide) hpull, ?_⟩
  intro hmem
  exact hleast (· ≠ .loadDatabase) (by decide) (by decide) _ hmem rfl

end Specification

end RoundWorkflow
