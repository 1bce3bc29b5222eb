import RoundWorkflow.Table
import RoundWorkflow.Proofs.Reachability
import Mathlib.Tactic.ByContra

/-!
# What validation accepts, and what it blames

A specification is *sensible* (`Sensible`) when there is a state, the default start is a
start, starts and finals are states, every edge has its ends among the states, its event
in the alphabet and a key of its own, every state that is not final has an exit, and a
path leads to every state from a start.

Validation goes through a list of checks in turn (`checks`).  `Fails` says when a check
fails, in terms of the sets, the edges and the paths alone, and with which error.  The
order of the list is the order of the report: starts before finals, each in the order of
their names; edges as they are listed, and of each its ends, its event and its key; exits,
and then paths, in the order of the names of the states.

`Verdict` is the outcome of going through checks in turn.  Each part of the validation
has the verdict of its own checks, and verdicts of lists join to the verdict of the joined
list (`Verdict.append`), so the validation as a whole has the verdict of all checks
(`fault?_verdict`).  The main statement is `validate_iff`: validation accepts exactly the
sensible specifications, and of any other reports the first check that fails.
-/

namespace RoundWorkflow

namespace Specification

/-! ## Sensible specifications -/

/-- A specification that describes a round graph. -/
structure Sensible (s : Specification) : Prop where
  /-- There is a state. -/
  state : ∃ r, r ∈ s.states
  /-- The default start is a start. -/
  defaultStart : s.defaultStart ∈ s.starts
  /-- Starts are states. -/
  starts : ∀ r ∈ s.starts, r ∈ s.states
  /-- Finals are states. -/
  finals : ∀ r ∈ s.finals, r ∈ s.states
  /-- Edges lead from state to state. -/
  ends : ∀ e ∈ s.edges, e.source ∈ s.states ∧ e.target ∈ s.states
  /-- Edges have events of the alphabet. -/
  events : ∀ e ∈ s.edges, e.event ∈ s.alphabet
  /-- Edges at different places have different keys. -/
  keys : s.edges.Pairwise fun e f => e.key ≠ f.key
  /-- A state that is not final has an exit. -/
  exits : ∀ r ∈ s.states, r ∉ s.finals → ∃ e ∈ s.edges, e.source = r
  /-- A path leads to every state from a start. -/
  paths : ∀ r ∈ s.states, ∃ a ∈ s.starts, Path s.edges a r

/-! ## Checks and their failures -/

/-- One check of the validation.  Edges are told apart by their places. -/
inductive Check where
  | states
  | defaultStart
  | start (r : Round)
  | final (r : Round)
  | ends (place : Nat)
  | event (place : Nat)
  | key (place : Nat)
  | exit (r : Round)
  | path (r : Round)

/-- A check fails, with an error. -/
inductive Fails (s : Specification) : Check → Error → Prop where
  | states : (∀ r, r ∉ s.states) → Fails s .states (.invalidSpecification .noStates)
  | defaultStart : s.defaultStart ∉ s.starts →
    Fails s .defaultStart (.invalidSpecification (.defaultStartNotListed s.defaultStart))
  | start {r : Round} : r ∈ s.starts → r ∉ s.states →
    Fails s (.start r) (.invalidSpecification (.notAState r))
  | final {r : Round} : r ∈ s.finals → r ∉ s.states →
    Fails s (.final r) (.invalidSpecification (.notAState r))
  | ends {i : Nat} {e : Edge} : s.edges[i]? = some e →
    ¬(e.source ∈ s.states ∧ e.target ∈ s.states) →
    Fails s (.ends i) (.invalidSpecification (.edgeLeavesStates e))
  | event {i : Nat} {e : Edge} : s.edges[i]? = some e → e.event ∉ s.alphabet →
    Fails s (.event i) (.invalidSpecification (.edgeEventUnlisted e))
  /-- An earlier edge has the key; the error names the targets of both, the earlier one first. -/
  | key {i j : Nat} {e f : Edge} : s.edges[i]? = some e → s.edges[j]? = some f →
    j < i → f.key = e.key →
    Fails s (.key i) (.duplicateTransition e.source e.event f.target e.target)
  | exit {r : Round} : r ∈ s.states → r ∉ s.finals → (∀ e ∈ s.edges, e.source ≠ r) →
    Fails s (.exit r) (.deadEnd r)
  | path {r : Round} : r ∈ s.states → (∀ a ∈ s.starts, ¬Path s.edges a r) →
    Fails s (.path r) (.unreachable r)

/-- The checks of the edge at a place. -/
def edgeChecks (place : Nat) : List Check := [.ends place, .event place, .key place]

/-- All checks, in the order in which they are made. -/
def checks (s : Specification) : List Check :=
  [.states, .defaultStart] ++ (s.starts.toList.map .start ++ s.finals.toList.map .final) ++
    (List.range s.edges.length).flatMap edgeChecks ++ s.states.toList.map .exit ++
      s.states.toList.map .path

/-- The error is that of the first check that fails. -/
def FirstFault (s : Specification) (error : Error) : Prop :=
  ∃ before c after, s.checks = before ++ c :: after ∧
    (∀ c' ∈ before, ∀ error', ¬s.Fails c' error') ∧
    s.Fails c error

/-! ## Verdicts -/

/-- Going through checks in turn ends with the error of the first that fails, if one does. -/
inductive Verdict (s : Specification) : List Check → Option Error → Prop where
  | passed : Verdict s [] none
  | failed {c : Check} {cs : List Check} {error : Error} : s.Fails c error →
      Verdict s (c :: cs) (some error)
  | next {c : Check} {cs : List Check} {fault : Option Error} :
    (∀ error, ¬s.Fails c error) → Verdict s cs fault → Verdict s (c :: cs) fault

variable {s : Specification}

theorem Verdict.append {cs cs' : List Check} {fault fault' : Option Error} (h : s.Verdict cs fault)
    (h' : s.Verdict cs' fault') : s.Verdict (cs ++ cs') (fault.or fault') := by
  induction h with
  | passed => exact h'
  | failed hc => exact .failed hc
  | next hc _ ih => exact .next hc ih

/-- The verdict of one check. -/
theorem Verdict.ofCheck {c : Check} {fault : Option Error}
    (hnone : fault = none → ∀ error, ¬s.Fails c error)
    (hsome : ∀ error, fault = some error → s.Fails c error) : s.Verdict [c] fault := by
  cases fault with
  | none => exact .next (hnone rfl) .passed
  | some error => exact .failed (hsome error rfl)

/-- The verdict of the same check for several rounds, made by searching for one that fails. -/
theorem Verdict.ofFind {check : Round → Check} {p : Round → Bool} {fault : Round → Error}
    {rs : List Round}
    (h : ∀ r ∈ rs, ∀ error, s.Fails (check r) error ↔ p r = true ∧ error = fault r) :
    s.Verdict (rs.map check) ((rs.find? p).map fault) := by
  induction rs with
  | nil => exact .passed
  | cons r rs ih =>
    have hr := h r List.mem_cons_self
    have hrs := ih fun r' hr' => h r' (List.mem_cons_of_mem r hr')
    cases hp : p r with
    | true =>
      rw [List.find?_cons_of_pos hp]
      exact .failed ((hr _).mpr ⟨hp, rfl⟩)
    | false =>
      rw [List.find?_cons_of_neg (by simp [hp])]
      refine .next (fun error hfails => ?_) hrs
      rw [((hr error).mp hfails).1] at hp
      cases hp

/-- A verdict without an error: no check fails. -/
theorem Verdict.not_fails {cs : List Check} (h : s.Verdict cs none) :
    ∀ c ∈ cs, ∀ error, ¬s.Fails c error := by
  generalize hfault : (none : Option Error) = fault at h
  induction h with
  | passed => intro c hc; cases hc
  | failed _ => cases hfault
  | next hc _ ih =>
    intro c' hc'
    cases hc' with
    | head => exact hc
    | tail _ hc' => exact ih hfault c' hc'

/-- A verdict with an error: it is that of a check that fails, after checks that do not. -/
theorem Verdict.first {cs : List Check} {error : Error} (h : s.Verdict cs (some error)) :
    ∃ before c after, cs = before ++ c :: after ∧ (∀ c' ∈ before, ∀ error', ¬s.Fails c' error') ∧
      s.Fails c error := by
  generalize hfault : some error = fault at h
  induction h with
  | passed => cases hfault
  | failed hc =>
    cases hfault
    exact ⟨[], _, _, rfl, fun _ hc' => absurd hc' List.not_mem_nil, hc⟩
  | @next c₀ cs _ hc₀ _ ih =>
    obtain ⟨before, c, after, rfl, hbefore, hc⟩ := ih hfault
    refine ⟨c₀ :: before, c, after, rfl, fun c' hc' => ?_, hc⟩
    cases hc' with
    | head => exact hc₀
    | tail _ hc' => exact hbefore c' hc'

/-! ## The parts of the validation -/

theorem statesFault?_verdict (s : Specification) : s.Verdict [.states] s.statesFault? := by
  have hempty : s.states.isEmpty = true ↔ ∀ r, r ∉ s.states := by
    rw [EnumSet.isEmpty, List.isEmpty_iff, List.eq_nil_iff_forall_not_mem]
    rfl
  rw [statesFault?]
  split
  · refine .ofCheck (fun h => by cases h) (fun error h => ?_)
    cases h
    exact .states (hempty.mp ‹_›)
  · refine .ofCheck (fun _ error hfails => ?_) (fun error h => by cases h)
    cases hfails with
    | states hnone => exact absurd (hempty.mpr hnone) ‹_›

theorem defaultStartFault?_verdict (s : Specification) :
    s.Verdict [.defaultStart] s.defaultStartFault? := by
  rw [defaultStartFault?]
  split
  · refine .ofCheck (fun _ error hfails => ?_) (fun error h => by cases h)
    cases hfails with
    | defaultStart hnot => exact hnot ‹_›
  · refine .ofCheck (fun h => by cases h) (fun error h => ?_)
    cases h
    exact .defaultStart ‹_›

theorem listingFault?_verdict (s : Specification) :
    s.Verdict (s.starts.toList.map .start ++ s.finals.toList.map .final) s.listingFault? := by
  rw [listingFault?, List.find?_append, Option.map_or]
  refine .append (.ofFind fun r hr error => ?_) (.ofFind fun r hr error => ?_)
  · rw [decide_eq_true_iff]
    constructor
    · intro hfails
      cases hfails with
      | start _ hnot => exact ⟨hnot, rfl⟩
    · rintro ⟨hnot, rfl⟩
      exact .start hr hnot
  · rw [decide_eq_true_iff]
    constructor
    · intro hfails
      cases hfails with
      | final _ hnot => exact ⟨hnot, rfl⟩
    · rintro ⟨hnot, rfl⟩
      exact .final hr hnot

/-- The key of an edge fails when an edge before it has the same. -/
theorem keyFault?_verdict {e : Edge} {before after : List Edge}
    (h : s.edges = before ++ e :: after) :
    s.Verdict [.key before.length]
      ((before.find? fun f => f.key = e.key).map fun f =>
        .duplicateTransition e.source e.event f.target e.target) := by
  refine .ofCheck (fun hnone error hfails => ?_) (fun error hsome => ?_)
  · rw [Option.map_eq_none_iff] at hnone
    cases hfails with
    | @key _ j e' f he hf hj hkey =>
      rw [h, List.getElem?_append_right (Nat.le_refl _), Nat.sub_self] at he
      cases he
      rw [h, List.getElem?_append_left hj] at hf
      exact List.find?_eq_none.mp hnone f (List.mem_of_getElem? hf) (decide_eq_true hkey)
  · obtain ⟨f, hfind, rfl⟩ := Option.map_eq_some_iff.mp hsome
    have hkey : f.key = e.key := by simpa using List.find?_some hfind
    obtain ⟨j, hj, hf⟩ := List.mem_iff_getElem.mp (List.mem_of_find?_eq_some hfind)
    refine .key ?_ ?_ hj hkey
    · rw [h, List.getElem?_append_right (Nat.le_refl _), Nat.sub_self]
      rfl
    · rw [h, List.getElem?_append_left hj, ← hf]
      exact List.getElem?_eq_getElem hj

/-- The checks of an edge that comes after others. -/
theorem edgeFault?_verdict {e : Edge} {before after : List Edge}
    (h : s.edges = before ++ e :: after) :
    s.Verdict (edgeChecks before.length) (s.edgeFault? before e) := by
  have hplace : s.edges[before.length]? = some e := by
    rw [h, List.getElem?_append_right (Nat.le_refl _), Nat.sub_self]
    rfl
  rw [edgeFault?]
  split
  · exact .failed (.ends hplace ‹_›)
  · refine .next (fun error hfails => ?_) ?_
    · cases hfails with
      | ends he hnot =>
        rw [hplace] at he
        cases he
        contradiction
    · split
      · exact .failed (.event hplace ‹_›)
      · refine .next (fun error hfails => ?_) (keyFault?_verdict h)
        cases hfails with
        | event he hnot =>
          rw [hplace] at he
          cases he
          contradiction

/-- The checks of edges that come after others, edge by edge. -/
theorem edgesFault?_verdict {before rest : List Edge} (h : s.edges = before ++ rest) :
    s.Verdict ((List.range' before.length rest.length).flatMap edgeChecks)
      (s.edgesFault? before rest) := by
  -- Each edge joins those before it when its own checks are done.
  induction rest generalizing before with
  | nil => exact .passed
  | cons e rest ih =>
    have hedge := edgeFault?_verdict h
    have hrest := @ih (before ++ [e]) (by rw [h, List.append_assoc]; rfl)
    rw [List.length_append, List.length_singleton] at hrest
    rw [List.length_cons, List.range'_succ, List.flatMap_cons, edgesFault?]
    cases hfault : s.edgeFault? before e with
    | none => exact (hfault ▸ hedge).append hrest
    | some fault => exact (hfault ▸ hedge).append hrest

theorem exitFault?_verdict (s : Specification) :
    s.Verdict (s.states.toList.map .exit) s.exitFault? := by
  refine .ofFind fun r hr error => ?_
  rw [Bool.and_eq_true, decide_eq_true_iff, Bool.not_eq_true', List.any_eq_false]
  simp only [decide_eq_true_eq]
  constructor
  · intro hfails
    cases hfails with
    | exit _ hfinal hnone => exact ⟨⟨hfinal, hnone⟩, rfl⟩
  · rintro ⟨⟨hfinal, hnone⟩, rfl⟩
    exact .exit hr hfinal hnone

theorem reachFault?_verdict (s : Specification) :
    s.Verdict (s.states.toList.map .path) s.reachFault? := by
  refine .ofFind fun r hr error => ?_
  have hreached : r ∈ EnumSet.ofList (s.starts.toList.flatMap fun a => (s.reachableFrom a).toList) ↔
      ∃ a ∈ s.starts, Path s.edges a r := by
    rw [EnumSet.mem_ofList, List.mem_flatMap]
    exact exists_congr fun a => and_congr_right fun _ => mem_reachableFrom_iff
  rw [decide_eq_true_iff, hreached, not_exists]
  simp only [not_and]
  constructor
  · intro hfails
    cases hfails with
    | path _ hnone => exact ⟨hnone, rfl⟩
  · rintro ⟨hnone, rfl⟩
    exact .path hr hnone

/-- Validation as a whole has the verdict of all checks. -/
theorem fault?_verdict (s : Specification) : s.Verdict s.checks s.fault? := by
  have hedges := @edgesFault?_verdict s [] s.edges rfl
  rw [List.length_nil, ← List.range_eq_range'] at hedges
  have h : s.Verdict s.checks _ :=
    ((((s.statesFault?_verdict.append s.defaultStartFault?_verdict).append
      s.listingFault?_verdict).append
      hedges).append s.exitFault?_verdict).append s.reachFault?_verdict
  simpa only [fault?, Option.orElse_eq_orElse, Option.orElse_eq_or, Option.or_assoc] using h

/-! ## Sensible specifications fail no check -/

/-- Every check that can fail is made. -/
theorem Fails.mem_checks {c : Check} {error : Error} (h : s.Fails c error) : c ∈ s.checks := by
  have hplace : ∀ {i : Nat} {e : Edge} {c : Check}, s.edges[i]? = some e → c ∈ edgeChecks i →
      c ∈ (List.range s.edges.length).flatMap edgeChecks := by
    intro i e c he hc
    exact List.mem_flatMap.mpr ⟨i, List.mem_range.mpr (List.getElem?_eq_some_iff.mp he).1, hc⟩
  simp only [checks, List.mem_append]
  cases h with
  | states _ => simp
  | defaultStart _ => simp
  | start hr _ => exact .inl (.inl (.inl (.inr (.inl (List.mem_map_of_mem hr)))))
  | final hr _ => exact .inl (.inl (.inl (.inr (.inr (List.mem_map_of_mem hr)))))
  | ends he _ => exact .inl (.inl (.inr (hplace he (by simp [edgeChecks]))))
  | event he _ => exact .inl (.inl (.inr (hplace he (by simp [edgeChecks]))))
  | key he _ _ _ => exact .inl (.inl (.inr (hplace he (by simp [edgeChecks]))))
  | exit hr _ _ => exact .inl (.inr (List.mem_map_of_mem hr))
  | path hr _ => exact .inr (List.mem_map_of_mem hr)

theorem Sensible.not_fails (h : s.Sensible) (c : Check) (error : Error) : ¬s.Fails c error := by
  intro hfails
  cases hfails with
  | states hnone => exact h.state.elim hnone
  | defaultStart hnot => exact hnot h.defaultStart
  | start hr hnot => exact hnot (h.starts _ hr)
  | final hr hnot => exact hnot (h.finals _ hr)
  | ends he hnot => exact hnot (h.ends _ (List.mem_of_getElem? he))
  | event he hnot => exact hnot (h.events _ (List.mem_of_getElem? he))
  | key he hf hlt hkey =>
    obtain ⟨hi, rfl⟩ := List.getElem?_eq_some_iff.mp he
    obtain ⟨hj, rfl⟩ := List.getElem?_eq_some_iff.mp hf
    exact List.pairwise_iff_getElem.mp h.keys _ _ hj hi hlt hkey
  | exit hr hfinal hnone =>
    obtain ⟨e, he, hsource⟩ := h.exits _ hr hfinal
    exact hnone e he hsource
  | path hr hnone =>
    obtain ⟨a, ha, hpath⟩ := h.paths _ hr
    exact hnone a ha hpath

theorem sensible_of_not_fails (h : ∀ c error, ¬s.Fails c error) : s.Sensible where
  state := by
    by_contra hnone
    exact h _ _ (.states (not_exists.mp hnone))
  defaultStart := by
    by_contra hnot
    exact h _ _ (.defaultStart hnot)
  starts r hr := by
    by_contra hnot
    exact h _ _ (.start hr hnot)
  finals r hr := by
    by_contra hnot
    exact h _ _ (.final hr hnot)
  ends e he := by
    by_contra hnot
    obtain ⟨i, hi⟩ := List.getElem?_of_mem he
    exact h _ _ (.ends hi hnot)
  events e he := by
    by_contra hnot
    obtain ⟨i, hi⟩ := List.getElem?_of_mem he
    exact h _ _ (.event hi hnot)
  keys := by
    refine List.pairwise_iff_getElem.mpr fun i j hi hj hlt hkey => ?_
    exact h _ _ (.key (List.getElem?_eq_getElem hj) (List.getElem?_eq_getElem hi) hlt hkey)
  exits r hr hfinal := by
    by_contra hnone
    exact h _ _ (.exit hr hfinal fun e he hsource => hnone ⟨e, he, hsource⟩)
  paths r hr := by
    by_contra hnone
    exact h _ _ (.path hr fun a ha hpath => hnone ⟨a, ha, hpath⟩)

/-- Validation finds no fault in exactly the sensible specifications. -/
theorem fault?_eq_none_iff : s.fault? = none ↔ s.Sensible := by
  have hverdict := s.fault?_verdict
  constructor
  · intro hnone
    rw [hnone] at hverdict
    exact sensible_of_not_fails fun c error hfails =>
      hverdict.not_fails c hfails.mem_checks error hfails
  · intro hsensible
    cases hfault : s.fault? with
    | none => rfl
    | some error =>
      rw [hfault] at hverdict
      obtain ⟨_, c, _, _, _, hfails⟩ := hverdict.first
      exact absurd hfails (hsensible.not_fails c error)

/-! ## There is one first fault

The other checks of an edge determine their error, but two earlier edges could have its
key.  Then the later of the two fails its own check before, so this is not the first. -/

/-- The place of the edge whose key is checked. -/
def Check.keyPlace? : Check → Option Nat
  | .key place => some place
  | _ => none

/-- The keys are checked in the order of their places. -/
theorem keyPlaces_checks (s : Specification) :
    s.checks.filterMap Check.keyPlace? = List.range s.edges.length := by
  have hnone : ∀ (check : Round → Check) (rs : List Round), (∀ r, (check r).keyPlace? = none) →
      (rs.map check).filterMap Check.keyPlace? = [] := by
    intro check rs h
    rw [List.filterMap_map, List.filterMap_eq_nil_iff]
    exact fun r _ => h r
  simp only [checks, List.filterMap_append, hnone .start _ fun _ => rfl,
    hnone .final _ fun _ => rfl,
    hnone .exit _ fun _ => rfl, hnone .path _ fun _ => rfl, List.filterMap_flatMap]
  rw [List.append_nil, List.append_nil]
  exact List.flatMap_singleton' _

theorem key_mem_before {before after : List Check} {i j : Nat}
    (h : s.checks = before ++ .key i :: after)
    (hmem : .key j ∈ s.checks) (hlt : j < i) : .key j ∈ before := by
  have hascending : (s.checks.filterMap Check.keyPlace?).Pairwise (· < ·) := by
    rw [keyPlaces_checks]
    exact List.pairwise_lt_range
  rw [h, List.filterMap_append, List.filterMap_cons_some (f := Check.keyPlace?) (a := .key i) rfl]
    at hascending
  rw [h] at hmem
  rcases List.mem_append.mp hmem with hbefore | hrest
  · exact hbefore
  · cases hrest with
    | head => exact absurd hlt (Nat.lt_irrefl i)
    | tail _ hafter =>
      have hij := (List.pairwise_cons.mp (List.pairwise_append.mp hascending).2.1).1 j
        (List.mem_filterMap.mpr ⟨_, hafter, rfl⟩)
      exact absurd hlt (Nat.lt_asymm hij)

/-- Before the first key that fails, no two edges have that key. -/
theorem not_lt_of_keys {before after : List Check} {i j j' : Nat} {f f' : Edge}
    (h : s.checks = before ++ .key i :: after) (hbefore : ∀ c ∈ before, ∀ error, ¬s.Fails c error)
    (hf : s.edges[j]? = some f) (hf' : s.edges[j']? = some f') (hj' : j' < i)
    (hkey : f.key = f'.key) :
    ¬j < j' := by
  intro hlt
  have hfails := Fails.key hf' hf hlt hkey
  exact hbefore _ (key_mem_before h hfails.mem_checks hj') _ hfails

/-- The check that fails first is one. -/
theorem first_unique {before before' after after' : List Check} {c c' : Check}
    {error error' : Error} (h : before ++ c :: after = before' ++ c' :: after')
    (hbefore : ∀ c ∈ before, ∀ error, ¬s.Fails c error)
    (hbefore' : ∀ c ∈ before', ∀ error, ¬s.Fails c error) (hc : s.Fails c error)
    (hc' : s.Fails c' error') :
    c = c' := by
  rcases List.append_eq_append_iff.mp h with ⟨between, rfl, hrest⟩ | ⟨between, rfl, hrest⟩
  · cases between with
    | nil => exact (List.cons.inj hrest).1
    | cons c₁ between =>
      cases (List.cons.inj hrest).1
      exact absurd hc (hbefore' _ (List.mem_append_right _ List.mem_cons_self) _)
  · cases between with
    | nil => exact (List.cons.inj hrest).1.symm
    | cons c₁ between =>
      cases (List.cons.inj hrest).1
      exact absurd hc' (hbefore _ (List.mem_append_right _ List.mem_cons_self) _)

theorem FirstFault.unique {error error' : Error} (h : s.FirstFault error)
    (h' : s.FirstFault error') :
    error = error' := by
  obtain ⟨before, c, after, hchecks, hbefore, hc⟩ := h
  obtain ⟨before', c', after', hchecks', hbefore', hc'⟩ := h'
  cases first_unique (hchecks.symm.trans hchecks') hbefore hbefore' hc hc'
  cases hc with
  | states _ => cases hc'; rfl
  | defaultStart _ => cases hc'; rfl
  | start _ _ => cases hc'; rfl
  | final _ _ => cases hc'; rfl
  | exit _ _ _ => cases hc'; rfl
  | path _ _ => cases hc'; rfl
  | ends he _ =>
    cases hc' with
    | ends he' _ => rw [he] at he'; cases he'; rfl
  | event he _ =>
    cases hc' with
    | event he' _ => rw [he] at he'; cases he'; rfl
  | @key i j e f he hf hj hkey =>
    cases hc' with
    | @key _ j' e' f' he' hf' hj' hkey' =>
      rw [he] at he'
      cases he'
      have hge := not_lt_of_keys hchecks hbefore hf hf' hj' (hkey.trans hkey'.symm)
      have hle := not_lt_of_keys hchecks hbefore hf' hf hj (hkey'.trans hkey.symm)
      have hplace : j = j' := Nat.le_antisymm (Nat.not_lt.mp hle) (Nat.not_lt.mp hge)
      subst hplace
      rw [hf] at hf'
      cases hf'
      rfl

/-- Validation reports the first fault, and any first fault is reported. -/
theorem fault?_eq_some_iff {error : Error} : s.fault? = some error ↔ s.FirstFault error := by
  have hverdict := s.fault?_verdict
  constructor
  · intro hsome
    rw [hsome] at hverdict
    exact hverdict.first
  · intro hfirst
    cases hfault : s.fault? with
    | none =>
      obtain ⟨_, c, _, _, _, hfails⟩ := hfirst
      exact absurd hfails ((fault?_eq_none_iff.mp hfault).not_fails c error)
    | some error' =>
      rw [hfault] at hverdict
      rw [FirstFault.unique hverdict.first hfirst]

/-- The findings of a specification are reported exactly if it is sensible. -/
theorem validate_eq_ok_iff {warnings : List Warning} :
    s.validate = .ok warnings ↔ s.Sensible ∧ s.warnings = warnings := by
  rw [validate, ← fault?_eq_none_iff]
  cases s.fault? <;> simp

/-- Validation accepts exactly the sensible specifications, and reports the first check that fails
of any other. -/
theorem validate_iff (s : Specification) :
    ((∃ warnings, s.validate = .ok warnings) ↔ s.Sensible) ∧
      ∀ error, s.validate = .error error ↔ s.FirstFault error := by
  rw [← fault?_eq_none_iff]
  simp only [← fault?_eq_some_iff]
  rw [validate]
  cases s.fault? <;> simp

end Specification

/-- The specification of a table is sensible. -/
theorem Table.sensible (t : Table) : t.specification.Sensible :=
  (Specification.validate_eq_ok_iff.mp t.valid).1

/-- The findings of a table are those of its specification. -/
theorem Table.warnings_eq (t : Table) : t.warnings = t.specification.warnings :=
  (Specification.validate_eq_ok_iff.mp t.valid).2.symm

end RoundWorkflow
