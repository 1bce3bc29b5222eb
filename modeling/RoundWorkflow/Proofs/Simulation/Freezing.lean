import RoundWorkflow.Proofs.TransitionLog
import RoundWorkflow.Proofs.Simulation.Rounds

/-!
# When a simulation freezes

The events of a simulation come from two places.  An event that is picked is one that the
round accepts, as long as it accepts one that is no timeout.  But the preparation of an
action that finds a waiting hash concludes `DONE` without a look at its table.

What a simulated replica does next is decided by its `Position`: its round, whether a hash
waits, and the random source.  A run of the replica is a walk of its position
(`runFor_walk`), and to walk is a matter of the table alone.

`Jams` is the condition on a table under which a walk can fail: the preparation of an
action does not accept `DONE`, and edges without timeouts lead from the start to a
validation, on by its `DONE`, and from there to the preparation.  A walk that fails has
gone such a way, and where there is one a source can be told to go it (`Attains`).  So the
simulations of a table all succeed exactly if it does not jam, and the only fault that any
of them meets is the `DONE` of that preparation (`simulate_succeeds_iff`).
-/

namespace RoundWorkflow

variable {σ : Type}

namespace Simulation

/-! ## Positions -/

/-- What of a simulated replica decides how it goes on. -/
structure Position (σ : Type) where
  /-- The round. -/
  round : Round
  /-- Whether a hash waits to be settled. -/
  pending : Bool
  /-- The random source. -/
  memory : σ

namespace Position

/-- The position of a replica. -/
def of (g : Engine) (env : Environment σ) : Position σ :=
  ⟨g.current, (pendingHash? env.store).isSome, env.memory⟩

variable [RandomSource σ]

/-- The event that the round at a position concludes, and what is left of the source. -/
def conclusion (t : Table) (p : Position σ) : Event × σ :=
  if p.round = .actionPreparation ∧ p.pending = true then (.done, p.memory)
  else pick (choices t p.round) p.memory

/-- The position after one round. -/
def advance (t : Table) (p : Position σ) : Except Error (Position σ) :=
  (t.next p.round (p.conclusion t).1).map fun r =>
    ⟨r, pendingAfter p.round (p.conclusion t).1 p.pending, (p.conclusion t).2⟩

/-- The position after a number of rounds. -/
def walk (t : Table) : Nat → Position σ → Except Error (Position σ)
  | 0, p => .ok p
  | n + 1, p => (p.advance t).bind (walk t n)

theorem walk_add (t : Table) (m n : Nat) (p : Position σ) :
    p.walk t (m + n) = (p.walk t m).bind (walk t n) := by
  induction m generalizing p with
  | zero => rw [Nat.zero_add]; rfl
  | succ m ih =>
    rw [Nat.succ_add, walk, walk]
    cases p.advance t with
    | error fault => rfl
    | ok p' => exact ih p'

theorem walk_succ {t : Table} {n : Nat} {p p' : Position σ} (h : p.walk t n = .ok p') :
    p.walk t (n + 1) = p'.advance t := by
  rw [walk_add, h]
  change (p'.advance t).bind .ok = p'.advance t
  cases p'.advance t <;> rfl

theorem advance_eq_ok_iff {t : Table} {p p' : Position σ} :
    p.advance t = .ok p' ↔
      ∃ r, t.next p.round (p.conclusion t).1 = .ok r ∧
        p' = ⟨r, pendingAfter p.round (p.conclusion t).1 p.pending, (p.conclusion t).2⟩ := by
  rw [advance]
  cases t.next p.round (p.conclusion t).1 <;> simp [Except.map, eq_comm]

theorem advance_eq_error_iff {t : Table} {p : Position σ} {fault : Error} :
    p.advance t = .error fault ↔ t.next p.round (p.conclusion t).1 = .error fault := by
  rw [advance]
  cases t.next p.round (p.conclusion t).1 <;> simp [Except.map]

end Position

variable [RandomSource σ]

/-- The work of a round decides what its position concludes. -/
theorem decision_eq (t : Table) (g : Engine) (env : Environment σ) :
    decision t g.current env = (Position.of g env).conclusion t := by
  rw [decision, awaited?, Position.conclusion]
  by_cases hprepare : g.current = .actionPreparation
  · rw [if_pos hprepare]
    cases hpending : pendingHash? env.store with
    | none => simp [Position.of, hpending]
    | some hash => simp [Position.of, hpending, hprepare]
  · rw [if_neg hprepare, if_neg fun h => hprepare h.1]
    rfl

/-- The position after a move. -/
theorem Position.of_move (t : Table) (g : Engine) (env : Environment σ) (e : Event) (r : Round) :
    Position.of (g.move ⟨g.current, e, r⟩ false) (environmentAfter t ⟨g.current, g.period⟩ env) =
      ⟨r, pendingAfter g.current ((Position.of g env).conclusion t).1 (Position.of g env).pending,
        ((Position.of g env).conclusion t).2⟩ := by
  have hpending :=
    isSome_pendingHash?_storeAfter ⟨g.current, g.period⟩ (decision t g.current env).1 env.store
  rw [← decision_eq]
  exact congrArg (Position.mk r · (decision t g.current env).2) hpending

/-- A run of a simulated replica is a walk of its position. -/
theorem runFor_walk (n : Nat) {g : Engine} {env : Environment σ} (hrunning : g.frozen = false)
    (hstate : g.current ∈ g.table.states) (h : Filed env.store) :
    ∃ run, g.runFor (registry g.table) env n = some run ∧
      run.result = ((Position.of g env).walk g.table n).map Position.round := by
  induction n generalizing g env with
  | zero => exact ⟨_, rfl, rfl⟩
  | succ n ih =>
    have hround := runRound_registry hrunning hstate h
    rw [decision_eq] at hround
    rw [Engine.runFor, hround, Position.walk]
    cases hnext : g.table.next g.current ((Position.of g env).conclusion g.table).1 with
    | error fault =>
      rw [Engine.apply_of_next_error hrunning hnext, Position.advance_eq_error_iff.mpr hnext]
      exact ⟨_, rfl, rfl⟩
    | ok r =>
      rw [Engine.apply_of_next_ok hrunning hnext, Position.advance_eq_ok_iff.mpr ⟨r, hnext, rfl⟩]
      have hmoved : (g.move ⟨g.current, ((Position.of g env).conclusion g.table).1,
        r⟩ false).frozen = false :=
        hrunning
      have hfiled : Filed (environmentAfter g.table ⟨g.current, g.period⟩ env).store :=
        h.storeAfter _ _
      obtain ⟨run, hrun, hresult⟩ := ih hmoved (Table.mem_states_of_next hnext) hfiled
      refine ⟨run, hrun, ?_⟩
      rw [hresult, Position.of_move]
      rfl

/-- A simulation fails as the walk from its start does. -/
theorem simulate_eq_error_iff_walk {t : Table} {c : EngineConfig} {s : Supervisor} {g : Engine}
    (hstart : Engine.start t c s = .ok g) (steps : Nat) (source : σ) (fault : Error) :
    simulate g steps source = .error fault ↔
      Position.walk t steps ⟨g.current, false, source⟩ = .error fault := by
  have hsetUp := Engine.start_setUp hstart
  have hstate : g.current ∈ g.table.states := by
    rw [hsetUp.table]
    exact Table.mem_states_of_isStart hsetUp.isStart
  have hfiled : Filed (⟨.empty, false, source⟩ : Environment σ).store := filed_empty
  obtain ⟨run, hrun, hresult⟩ := runFor_walk steps hsetUp.frozen hstate hfiled
  cases (runFor_eq_run g steps source).symm.trans hrun
  rw [simulate_eq_error_iff, hresult, hsetUp.table]
  change ((Position.walk t steps ⟨g.current, false, source⟩).map Position.round) = .error fault ↔ _
  cases Position.walk t steps ⟨g.current, false, source⟩ <;> simp [Except.map]

/-! ## Walks that fail have gone a way -/

/-- The edges of a table whose events are no timeouts. -/
def quiet (t : Table) : List Edge := t.specification.edges.filter fun e => !e.event.isTimeout

/-- A way without timeouts leads to a round, on which a validation records a hash. -/
def Recorded (t : Table) (start r : Round) : Prop :=
  ∃ r', Path (quiet t) start .validateTransaction ∧
    ⟨.validateTransaction, .done, r'⟩ ∈ t.specification.edges ∧
    Path (quiet t) r' r

/-- The preparation of an action can find a hash, and does not accept the event that it concludes
then. -/
structure Jams (t : Table) (start : Round) : Prop where
  refused : .done ∉ t.accepted .actionPreparation
  recorded : Recorded t start .actionPreparation

theorem mem_quiet_iff {t : Table} {e : Edge} :
    e ∈ quiet t ↔ e ∈ t.specification.edges ∧ e.event.isTimeout = false := by
  rw [quiet, List.mem_filter, Bool.not_eq_true']

theorem mem_choices_iff {t : Table} {r : Round} {e : Event} :
    e ∈ choices t r ↔ ∃ r', ⟨r, e, r'⟩ ∈ quiet t := by
  simp only [choices, List.mem_filter, Table.mem_accepted_iff, mem_quiet_iff, Bool.not_eq_true',
    exists_and_right]

theorem mem_states_of_path {t : Table} {start r : Round} (hstart : start ∈ t.states)
    (h : Path (quiet t) start r) : r ∈ t.states := by
  induction h with
  | refl => exact hstart
  | step _ he _ => exact (t.sensible.ends _ (mem_quiet_iff.mp he).1).2

/-- Of events there are, one of them is picked. -/
theorem pick_mem {choices : List Event} (h : choices ≠ []) (source : σ) :
    (pick choices source).1 ∈ choices := by
  cases choices with
  | nil => exact absurd rfl h
  | cons e es =>
    have hchoose : ∀ source : σ, (RandomSource.choose e es source).1 ∈ e :: es :=
      fun _ => List.getElem_mem _
    rw [pick]
    split
    · split
      · exact List.contains_iff_mem.mp ‹_›
      · exact hchoose _
    · exact hchoose _

namespace Position

variable {t : Table} {start : Round} {p p' : Position σ} {fault : Error}

/-- No round concludes a timeout. -/
theorem conclusion_isTimeout (t : Table) (p : Position σ) :
    (p.conclusion t).1.isTimeout = false := by
  rw [conclusion]
  split
  · rfl
  · by_cases hnone : choices t p.round = []
    · rw [hnone]
      rfl
    · obtain ⟨r, hr⟩ := mem_choices_iff.mp (pick_mem hnone p.memory)
      exact (mem_quiet_iff.mp hr).2

/-- A position that a walk from a start may come to. -/
structure Traced (t : Table) (start : Round) (p : Position σ) : Prop where
  way : Path (quiet t) start p.round
  recorded : p.pending = true → Recorded t start p.round

theorem Traced.advance (h : Traced t start p) (hadvance : p.advance t = .ok p') :
    Traced t start p' := by
  obtain ⟨r, hnext, rfl⟩ := advance_eq_ok_iff.mp hadvance
  have hlisted := Table.next_eq_ok_iff.mp hnext
  have hquiet : ⟨p.round, (p.conclusion t).1, r⟩ ∈ quiet t :=
    mem_quiet_iff.mpr ⟨hlisted, p.conclusion_isTimeout t⟩
  refine ⟨.step h.way hquiet, fun hpending => ?_⟩
  simp only [pendingAfter, Bool.and_eq_true, Bool.or_eq_true, decide_eq_true_eq] at hpending
  -- A hash that waits has waited before, or this round recorded it.
  obtain ⟨-, hpending | ⟨hround, hdone⟩⟩ := hpending
  · obtain ⟨r', hvalidate, hrecords, hway⟩ := h.recorded hpending
    exact ⟨r', hvalidate, hrecords, .step hway hquiet⟩
  · rw [hdone, hround] at hlisted
    exact ⟨r, hround ▸ h.way, hlisted, .refl⟩

/-- A walk that fails does so at a position that it came to. -/
theorem Traced.of_walk_eq_error {n : Nat} (h : Traced t start p)
    (hwalk : p.walk t n = .error fault) :
    ∃ p' : Position σ, Traced t start p' ∧ p'.advance t = .error fault := by
  induction n generalizing p with
  | zero => cases hwalk
  | succ n ih =>
    rw [walk] at hwalk
    cases hadvance : p.advance t with
    | error fault' =>
      rw [hadvance] at hwalk
      cases hwalk
      exact ⟨p, h, hadvance⟩
    | ok p' =>
      rw [hadvance] at hwalk
      exact ih (h.advance hadvance) hwalk

/-- A round that accepts an event without a timeout fails only where the table jams. -/
theorem Traced.jams (h : Traced t start p) (hchoices : choices t p.round ≠ [])
    (hadvance : p.advance t = .error fault) :
    Jams t start ∧ fault = .protocolViolation .actionPreparation .done := by
  obtain ⟨hnone, rfl⟩ := Table.next_eq_error_iff.mp (advance_eq_error_iff.mp hadvance)
  by_cases hsettles : p.round = .actionPreparation ∧ p.pending = true
  · have hdone : (p.conclusion t).1 = .done := by rw [conclusion, if_pos hsettles]
    obtain ⟨hprepare, hpending⟩ := hsettles
    rw [hdone, hprepare] at hnone ⊢
    refine ⟨⟨fun haccepted => ?_, hprepare ▸ h.recorded hpending⟩, rfl⟩
    obtain ⟨r, hr⟩ := Table.mem_accepted_iff.mp haccepted
    exact hnone r hr
  · have hpick : (p.conclusion t).1 ∈ choices t p.round := by
      rw [conclusion, if_neg hsettles]
      exact pick_mem hchoices p.memory
    obtain ⟨r, hr⟩ := mem_choices_iff.mp hpick
    exact absurd (mem_quiet_iff.mp hr).1 (hnone r)

end Position

/-! ## A source can be told to go a way -/

/-- A source can be told to lead a walk to a round, with a hash waiting or not, and is then free. -/
def Attains (t : Table) (start r : Round) (pending : Bool) : Prop :=
  ∃ n numbers, ∀ rest,
    Position.walk t n (⟨start, false, ⟨numbers ++ rest⟩⟩ : Position Decisions) =
      .ok ⟨r, pending, ⟨rest⟩⟩

variable {t : Table} {start r r' : Round} {e : Event} {pending : Bool}

theorem Attains.refl : Attains t start start false := ⟨0, [], fun _ => rfl⟩

/-- Where nothing is to be settled, the source chooses the edge that is gone. -/
theorem Attains.step (h : Attains t start r pending) (hedge : ⟨r, e, r'⟩ ∈ quiet t)
    (hfree : ¬(r = .actionPreparation ∧ pending = true)) :
    Attains t start r' (pendingAfter r e pending) := by
  obtain ⟨n, numbers, hwalk⟩ := h
  obtain ⟨i, hpick⟩ := Decisions.exists_pick (mem_choices_iff.mpr ⟨r', hedge⟩)
  refine ⟨n + 1, numbers ++ [i], fun rest => ?_⟩
  have hconclusion : Position.conclusion t (⟨r, pending, ⟨i :: rest⟩⟩ : Position Decisions) =
    (e, ⟨rest⟩) :=
    (if_neg hfree).trans (hpick rest)
  have hnext : t.next r e = .ok r' := Table.next_eq_ok_iff.mpr (mem_quiet_iff.mp hedge).1
  rw [List.append_assoc, Position.walk_succ (hwalk ([i] ++ rest)), List.singleton_append,
    Position.advance_eq_ok_iff, hconclusion]
  exact ⟨r', hnext, rfl⟩

/-- A source can be told to go any way without timeouts, up to the settlement of a hash. -/
theorem Attains.follow (h : Attains t start r pending) (hway : Path (quiet t) r r') :
    (∃ pending', Attains t start r' pending' ∧ (pending = true → pending' = true)) ∨
      Attains t start .actionPreparation true := by
  induction hway with
  | refl => exact .inl ⟨pending, h, id⟩
  | @step e _ he ih =>
    rcases ih with ⟨pending', hattains, hkept⟩ | hsettles
    -- A hash is kept waiting everywhere but in the preparation, and there the way may end.
    · by_cases hfree : e.source = .actionPreparation ∧ pending' = true
      · obtain ⟨hprepare, rfl⟩ := hfree
        exact .inr (hprepare ▸ hattains)
      · refine .inl ⟨_, hattains.step he hfree, fun hpending => ?_⟩
        have hpending' := hkept hpending
        have hprepare : e.source ≠ .actionPreparation := fun hprepare => hfree ⟨hprepare, hpending'⟩
        simp [pendingAfter, hprepare, hpending']
    · exact .inr hsettles

/-- Where a hash can be found waiting, a source can be told to let the preparation find it. -/
theorem Recorded.attains (h : Recorded t start .actionPreparation) :
    Attains t start .actionPreparation true := by
  obtain ⟨r, hvalidate, hrecords, hprepare⟩ := h
  rcases Attains.refl.follow hvalidate with ⟨pending, hattains, -⟩ | hsettles
  · have hquiet : ⟨.validateTransaction, .done, r⟩ ∈ quiet t := mem_quiet_iff.mpr ⟨hrecords, rfl⟩
    have hrecorded := hattains.step hquiet (by simp)
    have hpending : pendingAfter .validateTransaction .done pending = true := by simp [pendingAfter]
    rw [hpending] at hrecorded
    rcases hrecorded.follow hprepare with ⟨pending', hattains', hkept⟩ | hsettles
    · rwa [hkept rfl] at hattains'
    · exact hsettles
  · exact hsettles

/-- In a table that jams a walk can be made to fail. -/
theorem Jams.walk_fails (h : Jams t start) :
    ∃ n numbers, Position.walk t n (⟨start, false, ⟨numbers⟩⟩ : Position Decisions) =
      .error (.protocolViolation .actionPreparation .done) := by
  obtain ⟨n, numbers, hwalk⟩ := h.recorded.attains
  refine ⟨n + 1, numbers ++ [], ?_⟩
  rw [Position.walk_succ (hwalk [])]
  refine Position.advance_eq_error_iff.mpr (Table.next_eq_error_iff.mpr ⟨fun r hr => ?_, rfl⟩)
  exact h.refused (Table.mem_accepted_iff.mpr ⟨r, hr⟩)

end Simulation

open Simulation

variable {t : Table} {c : EngineConfig} {s : Supervisor} {g : Engine}

/-- If every state accepts an event without a timeout, the simulations of a table all succeed
exactly if it does not jam, and one that fails has met the `DONE` that the preparation of an action
does not accept. -/
theorem simulate_succeeds_iff (hchoices : ∀ r ∈ t.states, choices t r ≠ [])
    (hstart : Engine.start t c s = .ok g) :
    ((∀ (σ : Type) [RandomSource σ] (source : σ) (steps : Nat), ∃ sim,
        simulate g steps source = .ok sim) ↔
        ¬Jams t g.current) ∧
      ∀ (σ : Type) [RandomSource σ] (source : σ) (steps : Nat) (fault : Error),
        simulate g steps source = .error fault →
        fault = .protocolViolation .actionPreparation .done := by
  have hsetUp := Engine.start_setUp hstart
  have hstate : g.current ∈ t.states := Table.mem_states_of_isStart hsetUp.isStart
  have hfault : ∀ (σ : Type) [RandomSource σ] (source : σ) (steps : Nat) (fault : Error),
      simulate g steps source = .error fault →
        Jams t g.current ∧ fault = .protocolViolation .actionPreparation .done := by
    intro σ _ source steps fault hfails
    have hwalk := (simulate_eq_error_iff_walk hstart steps source fault).mp hfails
    have hbegin : Position.Traced t g.current (⟨g.current, false, source⟩ : Position σ) :=
      ⟨.refl, fun h => nomatch h⟩
    obtain ⟨p, htraced, hadvance⟩ := hbegin.of_walk_eq_error hwalk
    exact htraced.jams (hchoices _ (mem_states_of_path hstate htraced.way)) hadvance
  refine ⟨⟨fun hsucceed hjams => ?_, fun hjams σ _ source steps => ?_⟩,
    fun σ _ source steps fault hfails => (hfault σ source steps fault hfails).2⟩
  · obtain ⟨steps, numbers, hwalk⟩ := hjams.walk_fails
    obtain ⟨sim, hsim⟩ := hsucceed Decisions ⟨numbers⟩ steps
    rw [(simulate_eq_error_iff_walk hstart steps _ _).mpr hwalk] at hsim
    cases hsim
  · cases hsim : simulate g steps source with
    | ok sim => exact ⟨sim, rfl⟩
    | error fault => exact absurd (hfault σ source steps fault hsim).1 hjams

/-- A validation, then a preparation that only ever finds no majority. -/
def jamming : Table where
  specification := .ofEdges .registrationStartup [.registrationStartup]
    [⟨.registrationStartup, .done, .validateTransaction⟩,
      ⟨.validateTransaction, .done, .actionPreparation⟩,
      ⟨.actionPreparation, .noMajority, .actionPreparation⟩]
  warnings :=
    [.unroutedTimeout .actionPreparation .roundTimeout,
      .unroutedTimeout .validateTransaction .validateTimeout]
  valid := by cbv

theorem jams_jamming : Jams jamming .registrationStartup := by
  have hvalidate : Path (quiet jamming) .registrationStartup .validateTransaction :=
    .step (e := ⟨.registrationStartup, .done, .validateTransaction⟩) .refl (by decide)
  exact ⟨by decide, .actionPreparation, hvalidate, by decide, .refl⟩

theorem jamming_simulation_fails :
    ∃ g, Engine.start jamming .standard .standard = .ok g ∧
      (∀ r ∈ jamming.states, choices jamming r ≠ []) ∧
      ¬∀ (σ : Type) [RandomSource σ] (source : σ) (steps : Nat), ∃ sim,
        simulate g steps source = .ok sim := by
  have hchoices : ∀ r ∈ jamming.states, choices jamming r ≠ [] := by decide
  have hstart : Engine.start jamming .standard .standard = .ok _ := rfl
  exact ⟨_, hstart, hchoices, fun h => (simulate_succeeds_iff hchoices hstart).1.mp h jams_jamming⟩

/-- The third round finds the hash that the second recorded. -/
theorem jamming_freezes :
    ∃ g, Engine.start jamming .standard .standard = .ok g ∧
      (∀ r ∈ jamming.states, choices jamming r ≠ []) ∧
      simulate g 3 (⟨[]⟩ : Decisions) = .error (.protocolViolation .actionPreparation .done) :=
  ⟨_, rfl, by decide, rfl⟩

end RoundWorkflow
