import RoundWorkflow.Proofs.Progress

/-!
# Telling a replica to stop

A replica that runs until it is told to stop reads a flag, and reads it only between two
rounds.  The work of a round may raise the flag at any point and go on, and it may even lower
it again.  None of this is seen before the round is over: its transition is applied, and only
then does the replica look.

So such a run is a run of a number of rounds that nobody has to know beforehand.
`Engine.StopsAfter` says which number it is, in terms of runs of fixed numbers of rounds alone:
the flag reads true after so many rounds and false after any fewer.  The main statement is
`stops_between_rounds`.  Before all rounds there is the check that every state has work.  It
reports the first state that has none, and then nothing has happened.
-/

namespace RoundWorkflow

variable {σ : Type}

/-! ## The check for completeness -/

/-- The first round, in the order of their names, that is a state of a table and has no work. -/
def Registry.FirstMissing (reg : Registry σ) (t : Table) (r : Round) : Prop :=
  ∃ before after, Round.all = before ++ r :: after ∧ r ∈ t.states ∧ reg.behaviour? r = none ∧
    ∀ r' ∈ before, r' ∈ t.states → reg.behaviour? r' ≠ none

/-- The check for completeness reports the first state that has no work. -/
theorem Registry.checkComplete_eq_error_iff {reg : Registry σ} {t : Table} {fault : Error} :
    reg.checkComplete t = .error fault ↔ ∃ r, reg.FirstMissing t r ∧
      fault = .missingBehaviour r := by
  have hstates : t.states = Round.all.filter (t.states.contains ·) :=
    t.specification.states.canonical
  have hnone : ∀ r, reg.contains r = false ↔ reg.behaviour? r = none := fun r => by
    rw [contains, Option.isSome_eq_false_iff, Option.isNone_iff_eq_none]
  have hfind : ∀ r, (t.states.find? fun r => !reg.contains r) = some r ↔ reg.FirstMissing t r := by
    intro r
    rw [hstates, List.find?_filter, List.find?_eq_some_iff_append]
    simp only [decide_eq_true_eq, Bool.not_eq_true', decide_eq_false_iff_not, not_and,
      List.contains_iff_mem, hnone]
    constructor
    · rintro ⟨⟨hstate, hnone⟩, before, after, hall, hbefore⟩
      exact ⟨before, after, hall, hstate, hnone, hbefore⟩
    · rintro ⟨before, after, hall, hstate, hnone, hbefore⟩
      exact ⟨⟨hstate, hnone⟩, before, after, hall, hbefore⟩
  simp only [← hfind]
  rw [checkComplete]
  cases t.states.find? fun r => !reg.contains r with
  | none => simp
  | some r => simp [eq_comm]

theorem Registry.exists_firstMissing {reg : Registry σ} {t : Table}
    (h : ∃ r ∈ t.states, reg.behaviour? r = none) : ∃ r, reg.FirstMissing t r := by
  cases hcomplete : reg.checkComplete t with
  | error fault =>
    obtain ⟨r, hmissing, -⟩ := checkComplete_eq_error_iff.mp hcomplete
    exact ⟨r, hmissing⟩
  | ok _ =>
    obtain ⟨r, hstate, hnone⟩ := h
    obtain ⟨behaviour, hsome⟩ := checkComplete_eq_ok_iff.mp hcomplete r hstate
    cases hnone.symm.trans hsome

namespace Engine

/-! ## Rounds in turn -/

/-- A number of rounds succeed, and lead to a replica and an environment. -/
def RoundsLead (g : Engine) (reg : Registry σ) (env : Environment σ) (n : Nat) (g' : Engine)
    (env' : Environment σ) :
    Prop :=
  ∃ r, g.runFor reg env n = some ⟨.ok r, g', env'⟩

/-- Told to stop by the works of its rounds alone, a replica runs a number of rounds. -/
structure StopsAfter (g : Engine) (reg : Registry σ) (env : Environment σ) (n : Nat) (g' : Engine)
    (env' : Environment σ) : Prop where
  rounds : g.RoundsLead reg env n g' env'
  /-- Before each of the rounds the flag reads false. -/
  running : ∀ k < n, ∃ gₖ envₖ, g.RoundsLead reg env k gₖ envₖ ∧ envₖ.stopped = false
  /-- After the last one it reads true. -/
  stopped : env'.stopped = true

/-- A round succeeds, and moves the replica along an edge of its table. -/
def CompletesRound (g : Engine) (reg : Registry σ) (env : Environment σ) (g' : Engine)
    (env' : Environment σ) : Prop :=
  ∃ e r timedOut, g.runRound reg env = some ⟨.ok r, g', env'⟩ ∧ g.table.next g.current e = .ok r ∧
    g' = g.move ⟨g.current, e, r⟩ timedOut

variable {g g' : Engine} {reg : Registry σ} {env env' : Environment σ} {n : Nat}

theorem roundsLead_zero_iff : g.RoundsLead reg env 0 g' env' ↔ g' = g ∧ env' = env := by
  rw [RoundsLead, runFor]
  constructor
  · rintro ⟨r, h⟩
    cases h
    exact ⟨rfl, rfl⟩
  · rintro ⟨rfl, rfl⟩
    exact ⟨_, rfl⟩

/-- Rounds lead where the first one leads and then the others do. -/
theorem roundsLead_succ_iff :
    g.RoundsLead reg env (n + 1) g' env' ↔
      ∃ r g₁ env₁, g.runRound reg env = some ⟨.ok r, g₁, env₁⟩ ∧
        g₁.RoundsLead reg env₁ n g' env' := by
  simp only [RoundsLead, runFor_succ_eq_some_iff]
  constructor
  · rintro ⟨r, ⟨r₁, g₁, env₁, hround, hrest⟩ | ⟨fault, -, h⟩⟩
    · exact ⟨r₁, g₁, env₁, hround, r, hrest⟩
    · cases h
  · rintro ⟨r₁, g₁, env₁, hround, r, hrest⟩
    exact ⟨r, .inl ⟨r₁, g₁, env₁, hround, hrest⟩⟩

/-- Rounds lead where all but the last one lead and then the last one does. -/
theorem roundsLead_succ_iff_last :
    g.RoundsLead reg env (n + 1) g' env' ↔
      ∃ g₁ env₁ r, g.RoundsLead reg env n g₁ env₁ ∧
        g₁.runRound reg env₁ = some ⟨.ok r, g', env'⟩ := by
  induction n generalizing g env with
  | zero =>
    rw [roundsLead_succ_iff]
    simp only [roundsLead_zero_iff]
    constructor
    · rintro ⟨r, _, _, hround, rfl, rfl⟩
      exact ⟨g, env, r, ⟨rfl, rfl⟩, hround⟩
    · rintro ⟨_, _, r, ⟨rfl, rfl⟩, hround⟩
      exact ⟨r, g', env', hround, rfl, rfl⟩
  | succ n ih =>
    rw [roundsLead_succ_iff]
    simp only [ih, roundsLead_succ_iff (n := n)]
    constructor
    · rintro ⟨r₁, g₁, env₁, hround, g₂, env₂, r, hrest, hlast⟩
      exact ⟨g₂, env₂, r, ⟨r₁, g₁, env₁, hround, hrest⟩, hlast⟩
    · rintro ⟨g₂, env₂, r, ⟨r₁, g₁, env₁, hround, hrest⟩, hlast⟩
      exact ⟨r₁, g₁, env₁, hround, g₂, env₂, r, hrest, hlast⟩

theorem stopsAfter_zero_iff :
    g.StopsAfter reg env 0 g' env' ↔ env.stopped = true ∧ g' = g ∧ env' = env := by
  constructor
  · rintro ⟨hrounds, -, hstopped⟩
    obtain ⟨rfl, rfl⟩ := roundsLead_zero_iff.mp hrounds
    exact ⟨hstopped, rfl, rfl⟩
  · rintro ⟨hstopped, rfl, rfl⟩
    exact ⟨roundsLead_zero_iff.mpr ⟨rfl, rfl⟩, fun k hk => absurd hk (Nat.not_lt_zero k), hstopped⟩

theorem stopsAfter_succ_iff :
    g.StopsAfter reg env (n + 1) g' env' ↔
      env.stopped = false ∧
        ∃ r g₁ env₁, g.runRound reg env = some ⟨.ok r, g₁, env₁⟩ ∧
          g₁.StopsAfter reg env₁ n g' env' := by
  constructor
  · rintro ⟨hrounds, hrunning, hstopped⟩
    obtain ⟨r, g₁, env₁, hround, hrest⟩ := roundsLead_succ_iff.mp hrounds
    obtain ⟨_, _, hnone, hfirst⟩ := hrunning 0 (Nat.zero_lt_succ n)
    obtain ⟨rfl, rfl⟩ := roundsLead_zero_iff.mp hnone
    refine ⟨hfirst, r, g₁, env₁, hround, hrest, fun k hk => ?_, hstopped⟩
    obtain ⟨gₖ, envₖ, hleads, hflag⟩ := hrunning (k + 1) (Nat.succ_lt_succ hk)
    obtain ⟨_, _, _, hround', hleads⟩ := roundsLead_succ_iff.mp hleads
    cases hround.symm.trans hround'
    exact ⟨gₖ, envₖ, hleads, hflag⟩
  · rintro ⟨hfirst, r, g₁, env₁, hround, hrounds, hrunning, hstopped⟩
    refine ⟨roundsLead_succ_iff.mpr ⟨r, g₁, env₁, hround, hrounds⟩, fun k hk => ?_, hstopped⟩
    cases k with
    | zero => exact ⟨g, env, roundsLead_zero_iff.mpr ⟨rfl, rfl⟩, hfirst⟩
    | succ k =>
      obtain ⟨gₖ, envₖ, hleads, hflag⟩ := hrunning k (Nat.lt_of_succ_lt_succ hk)
      exact ⟨gₖ, envₖ, roundsLead_succ_iff.mpr ⟨r, g₁, env₁, hround, hleads⟩, hflag⟩

/-! ## Running until told to stop -/

/-- Running until told to stop succeeds exactly if the replica stops after some number of rounds
that is not above the limit. -/
theorem runUntilStopped_eq_ok_iff {limit executed total : Nat} :
    g.runUntilStopped reg env executed limit = some ⟨.ok total, g', env'⟩ ↔
      ∃ n ≤ limit, total = executed + n ∧ g.StopsAfter reg env n g' env' := by
  induction limit generalizing g env executed with
  | zero =>
    rw [runUntilStopped]
    simp only [Nat.le_zero, exists_eq_left, stopsAfter_zero_iff, Nat.add_zero]
    split <;> simp [*, eq_comm]
  | succ limit ih =>
    rw [runUntilStopped]
    cases hflag : env.stopped with
    | true =>
      constructor
      · intro h
        cases h
        exact ⟨0, Nat.zero_le _, rfl, stopsAfter_zero_iff.mpr ⟨hflag, rfl, rfl⟩⟩
      · rintro ⟨n, -, rfl, hstops⟩
        cases n with
        | zero =>
          obtain ⟨-, rfl, rfl⟩ := stopsAfter_zero_iff.mp hstops
          rfl
        | succ n => cases hflag.symm.trans (stopsAfter_succ_iff.mp hstops).1
    | false =>
      -- The first round is run; whether the others are is for the induction to say.
      have hsucc : (∃ n ≤ limit + 1, total = executed + n ∧ g.StopsAfter reg env n g' env') ↔
          ∃ r g₁ env₁, g.runRound reg env = some ⟨.ok r, g₁, env₁⟩ ∧
            ∃ n ≤ limit, total = executed + 1 + n ∧ g₁.StopsAfter reg env₁ n g' env' := by
        constructor
        · rintro ⟨n, hle, rfl, hstops⟩
          cases n with
          | zero => cases hflag.symm.trans (stopsAfter_zero_iff.mp hstops).1
          | succ n =>
            obtain ⟨-, r, g₁, env₁, hround, hrest⟩ := stopsAfter_succ_iff.mp hstops
            exact ⟨r, g₁, env₁, hround, n, Nat.le_of_succ_le_succ hle, by omega, hrest⟩
        · rintro ⟨r, g₁, env₁, hround, n, hle, rfl, hrest⟩
          exact ⟨n + 1, Nat.succ_le_succ hle, by omega,
            stopsAfter_succ_iff.mpr ⟨hflag, r, g₁, env₁, hround, hrest⟩⟩
      rw [hsucc, if_neg Bool.false_ne_true]
      cases hround : g.runRound reg env with
      | none => simp
      | some round =>
        obtain ⟨result, g₁, env₁⟩ := round
        cases result with
        | error fault => simp
        | ok r => simp [ih]

/-- A replica that stops has logged what it logs when it runs as many rounds. -/
theorem StopsAfter.log {limit : Nat} (h : g.StopsAfter reg env n g' env') (hle : n ≤ limit) :
    g.runUntilStoppedLog reg env limit = g.runForLog reg env n := by
  induction n generalizing g env limit with
  | zero =>
    obtain ⟨hstopped, -, -⟩ := stopsAfter_zero_iff.mp h
    cases limit with
    | zero => rfl
    | succ limit => rw [runUntilStoppedLog, if_pos hstopped, runForLog]
  | succ n ih =>
    obtain ⟨hflag, r, g₁, env₁, hround, hrest⟩ := stopsAfter_succ_iff.mp h
    cases limit with
    | zero => cases hle
    | succ limit =>
      rw [runUntilStoppedLog, if_neg (Bool.eq_false_iff.mp hflag), runForLog, hround]
      dsimp only
      rw [ih hrest (Nat.le_of_succ_le_succ hle)]

theorem StopsAfter.steps (h : g.StopsAfter reg env n g' env') : g'.steps = g.steps + n := by
  obtain ⟨r, hrun⟩ := h.rounds
  rw [(runFor_moves n g hrun).steps, length_runForLog n g hrun rfl]

/-- The last round begins with the flag down and ends with it up, and in between it is completed. -/
theorem StopsAfter.lastRound (h : g.StopsAfter reg env (n + 1) g' env') :
    ∃ gₙ envₙ, g.RoundsLead reg env n gₙ envₙ ∧ envₙ.stopped = false ∧ env'.stopped = true ∧
      gₙ.CompletesRound reg envₙ g' env' := by
  obtain ⟨gₙ, envₙ, r, hleads, hround⟩ := roundsLead_succ_iff_last.mp h.rounds
  obtain ⟨_, _, ⟨_, hrun⟩, hflag⟩ := h.running n (Nat.lt_succ_self n)
  obtain ⟨_, hrun'⟩ := hleads
  cases hrun.symm.trans hrun'
  refine ⟨gₙ, envₙ, ⟨_, hrun⟩, hflag, h.stopped, ?_⟩
  cases runRound_turn hround with
  | moved _ hnext => exact ⟨_, _, _, hround, hnext, rfl⟩

/-- Told to stop by works that raise the flag wherever they like, a replica with work for every
state runs `n` rounds exactly if the flag reads false before each of them and true after the last.
It ends up where it does when it is told to run `n` rounds.  It has made `n` transitions, and the
last of them is that of the round in which the flag was raised.  If the flag was up from the start,
nothing happens.  A state without work is reported, the first one if there are several, and nothing
happens either. -/
theorem stops_between_rounds (g : Engine) (reg : Registry σ) (env : Environment σ) :
    ((∀ r ∈ g.table.states, ∃ behaviour, reg.behaviour? r = some behaviour) →
      (∀ limit n g' env', g.run reg env limit = some ⟨.ok n, g', env'⟩ ↔
        n ≤ limit ∧ g.StopsAfter reg env n g' env') ∧
      (∀ limit n g' env', g.run reg env limit = some ⟨.ok n, g', env'⟩ →
        g'.steps = g.steps + n ∧ ((Call.run limit reg env).log g).length = n ∧
          ∀ m, n = m + 1 → ∃ gₘ envₘ, g.RoundsLead reg env m gₘ envₘ ∧ envₘ.stopped = false ∧
            env'.stopped = true ∧ gₘ.CompletesRound reg envₘ g' env') ∧
      (env.stopped = true → ∀ limit, g.run reg env limit = some ⟨.ok 0, g, env⟩)) ∧
    ((∃ r ∈ g.table.states, reg.behaviour? r = none) →
      ∃ r, reg.FirstMissing g.table r ∧
        ∀ limit, g.run reg env limit = some ⟨.error (.missingBehaviour r), g, env⟩) := by
  constructor
  · intro hwork
    have hcomplete := Registry.checkComplete_eq_ok_iff.mpr hwork
    have hrun : ∀ limit n g' env', g.run reg env limit = some ⟨.ok n, g', env'⟩ ↔
        n ≤ limit ∧ g.StopsAfter reg env n g' env' := by
      intro limit n g' env'
      rw [run, hcomplete]
      dsimp only
      rw [runUntilStopped_eq_ok_iff]
      simp only [Nat.zero_add]
      constructor
      · rintro ⟨n, hle, rfl, hstops⟩
        exact ⟨hle, hstops⟩
      · rintro ⟨hle, hstops⟩
        exact ⟨n, hle, rfl, hstops⟩
    refine ⟨hrun, fun limit n g' env' h => ?_, fun hstopped limit => ?_⟩
    · obtain ⟨hle, hstops⟩ := (hrun limit n g' env').mp h
      refine ⟨hstops.steps, ?_, ?_⟩
      · rw [Call.log, hcomplete]
        dsimp only
        obtain ⟨r, hrounds⟩ := hstops.rounds
        rw [hstops.log hle, length_runForLog n g hrounds rfl]
      · rintro m rfl
        exact hstops.lastRound
    · exact (hrun limit 0 g env).mpr ⟨Nat.zero_le _, stopsAfter_zero_iff.mpr ⟨hstopped, rfl, rfl⟩⟩
  · intro hmissing
    obtain ⟨r, hfirst⟩ := Registry.exists_firstMissing hmissing
    refine ⟨r, hfirst, fun limit => ?_⟩
    rw [run, Registry.checkComplete_eq_error_iff.mpr ⟨r, hfirst, rfl⟩]

/-- A replica at the start of the waits. -/
def waiting : Engine where
  table := waits
  supervisor := .standard
  current := .pullMemes
  period := 0
  frozen := false
  streak := .fresh
  history := .empty 2
  channel := .empty 1

/-- Items are pulled in vain, and then the replica is told to stop by work that waits forever. -/
def stopping : Environment Plans :=
  ⟨.empty, false, Plans.done.set .pullMemes (.program [[.conclude .noMajority], [.stop, .stall]])⟩

/-- The second pulling of items raises the flag and runs out of its budget.  It is completed all the
same, and there is no third one.  A replica that was told to stop before does nothing, and one
without work is refused. -/
theorem waits_stops :
    start waits ⟨none, 1, 2⟩ .standard = .ok waiting ∧
      (∃ g env, waiting.run (plannedRegistry waits) stopping 5 = some ⟨.ok 2, g, env⟩ ∧
        waiting.StopsAfter (plannedRegistry waits) stopping 2 g env ∧ g.steps = waiting.steps + 2 ∧
        g.history.last?.map Record.timedOut = some true) ∧
      waiting.run (plannedRegistry waits) { stopping with stopped := true } 5 =
        some ⟨.ok 0, waiting, { stopping with stopped := true }⟩ ∧
      ∃ r, (Registry.empty : Registry Plans).FirstMissing waits r ∧
        waiting.run .empty stopping 5 = some ⟨.error (.missingBehaviour r), waiting, stopping⟩ := by
  have hwork : ∀ r ∈ waits.states, ∃ behaviour,
    (plannedRegistry waits).behaviour? r = some behaviour :=
    Registry.checkComplete_eq_ok_iff.mp rfl
  obtain ⟨hstops, hran, -⟩ :=
    (stops_between_rounds waiting (plannedRegistry waits) stopping).1 hwork
  obtain ⟨-, -, hrefuses⟩ :=
    (stops_between_rounds waiting (plannedRegistry waits) { stopping with stopped := true }).1 hwork
  obtain ⟨r, hfirst, hmissing⟩ :=
    (stops_between_rounds waiting .empty stopping).2 ⟨.pullMemes, by decide, rfl⟩
  exact ⟨rfl, ⟨_, _, rfl, ((hstops 5 _ _ _).mp rfl).2, (hran 5 _ _ _ rfl).1, rfl⟩, hrefuses rfl 5,
    r, hfirst, hmissing 5⟩

end Engine

end RoundWorkflow
