import RoundWorkflow.Proofs.Canonical
import RoundWorkflow.Proofs.TransitionLog

/-!
# The content cycle

On the canonical table a replica cannot get trapped.  Every round accepts the event `done`,
and from every round `done` after `done` leads to the end of the period: seven of them make up
the content cycle, and the ways into it, from a registration or out of a settlement, make the
first period longer, by two at most (`Round.toPeriodEnd`).

Every `done` brings a replica one nearer to the end of its period, or ends it and leaves a
whole cycle before the next end (`toPeriodEnd_of_transition`).  So it is known how many periods
end with a number of them (`Round.periodsIn`).  The main statement is `Engine.never_trapped`:
wherever a replica has come to without being frozen, any number of events `done` succeeds, and
nine are always enough for a period.
-/

namespace RoundWorkflow

/-- The number of events `done` in a row that it takes from a round to the end of its period. -/
def Round.toPeriodEnd : Round → Nat
  | .resetAndPause => 1
  | .actionTweet => 2
  | .actionPreparation => 3
  | .actionDecision | .validateTransaction | .checkTransactionHistory | .checkLateTxHashes => 4
  | .engageTwitter | .finalization | .synchronizeLateMessages => 5
  | .collectFeedback | .collectSignature | .selectKeeperTransactionSubmissionB
  | .selectKeeperTransactionSubmissionBAfterTimeout => 6
  | .pullMemes | .selectKeeperTransactionSubmissionA => 7
  | .loadDatabase | .randomnessTransactionSubmission => 8
  | .registration | .registrationStartup | .checkFunds | .reset => 9

/-- The number of periods that a number of events `done` in a row ends, from a round on. -/
def Round.periodsIn (r : Round) (n : Nat) : Nat := (n + 7 - r.toPeriodEnd) / 7

variable {r r' : Round}

/-! ## The way to the end of the period -/

theorem toPeriodEnd_pos (r : Round) : 0 < r.toPeriodEnd := by
  cases r <;> decide

theorem toPeriodEnd_le (r : Round) : r.toPeriodEnd ≤ 9 := by
  cases r <;> decide

/-- A `done` ends the period, with a whole cycle before the next end, or the end is one nearer. -/
theorem toPeriodEnd_of_transition (h : transition r .done = some r') :
    (Engine.completesPeriod ⟨r, .done, r'⟩ = true ∧ r.toPeriodEnd = 1 ∧ r'.toPeriodEnd = 7) ∨
      (Engine.completesPeriod ⟨r, .done, r'⟩ = false ∧ r.toPeriodEnd = r'.toPeriodEnd + 1) := by
  cases r <;> cases h <;> decide

theorem periodsIn_zero (r : Round) : r.periodsIn 0 = 0 := by
  have hpos := toPeriodEnd_pos r
  rw [Round.periodsIn, Nat.div_eq_zero_iff]
  omega

/-- The periods that end with the first `done` and with those after it. -/
theorem periodsIn_succ (h : transition r .done = some r') (n : Nat) :
    r.periodsIn (n + 1) =
      (if Engine.completesPeriod ⟨r, .done, r'⟩ then 1 else 0) + r'.periodsIn n := by
  rw [Round.periodsIn, Round.periodsIn]
  rcases toPeriodEnd_of_transition h with ⟨hends, hlast, hcycle⟩ | ⟨hgoes, hnearer⟩
  · rw [if_pos hends]
    omega
  · rw [if_neg (Bool.eq_false_iff.mp hgoes)]
    omega

/-- No round is more than nine events from the end of its period. -/
theorem le_periodsIn (r : Round) (n : Nat) : (n - 2) / 7 ≤ r.periodsIn n := by
  have hle := toPeriodEnd_le r
  rw [Round.periodsIn]
  exact Nat.div_le_div_right (by omega)

namespace Engine

variable {g : Engine}

/-! ## Runs -/

/-- A running replica of the canonical table moves on `done`. -/
theorem step_done (htable : g.table = .canonical) (hrunning : g.frozen = false) :
    ∃ r, transition g.current .done = some r ∧
      g.step .done = (.ok r, g.move ⟨g.current, .done, r⟩ false) := by
  obtain ⟨r, hr⟩ := exists_transition_done g.current
  have hnext : g.table.next g.current .done = .ok r := by
    rw [htable, Table.canonical_next_eq_ok_iff]
    exact hr
  exact ⟨r, hr, apply_of_next_ok hrunning hnext false⟩

/-- Any number of events `done` succeeds, and ends as many periods as the way to the first end
leaves room for. -/
theorem stepAll_done (htable : g.table = .canonical) (hrunning : g.frozen = false) (n : Nat) :
    ∃ g', g.stepAll (List.replicate n .done) = (.ok g'.current, g') ∧ g'.frozen = false ∧
      g'.period = g.period + g.current.periodsIn n := by
  induction n generalizing g with
  | zero =>
    refine ⟨g, rfl, hrunning, ?_⟩
    rw [periodsIn_zero, Nat.add_zero]
  | succ n ih =>
    obtain ⟨r, hr, hstep⟩ := step_done htable hrunning
    obtain ⟨g', hsteps, hrunning', hperiod⟩ :=
      ih (g := g.move ⟨g.current, .done, r⟩ false) htable hrunning
    refine ⟨g', ?_, hrunning', ?_⟩
    · rw [List.replicate_succ, stepAll, hstep]
      exact hsteps
    · rw [hperiod, move_period, periodsIn_succ hr, Nat.add_assoc]
      rfl

/-- Whatever has been asked of a replica of the canonical table, if it is not frozen then any number
of events `done` succeeds.  How many periods they end depends on the round alone; it is at least one
for every seven after the first two, so nine always end one. -/
theorem never_trapped {c : EngineConfig} {s : Supervisor} {g₀ g : Engine} {calls : List Call}
    (hstart : start .canonical c s = .ok g₀) (hcalls : g₀.performAll calls = some g)
    (hrunning : g.frozen = false) (n : Nat) :
    ∃ g', g.stepAll (List.replicate n .done) = (.ok g'.current, g') ∧ g'.frozen = false ∧
      g'.period = g.period + g.current.periodsIn n ∧ g.period + (n - 2) / 7 ≤ g'.period ∧
      (9 ≤ n → g.period < g'.period) := by
  have htable : g.table = .canonical :=
    (performAll_moves hcalls).table.trans (start_setUp hstart).table
  obtain ⟨g', hsteps, hrunning', hperiod⟩ := stepAll_done htable hrunning n
  have hbound : g.period + (n - 2) / 7 ≤ g'.period := by
    rw [hperiod]
    exact Nat.add_le_add_left (le_periodsIn g.current n) g.period
  exact ⟨g', hsteps, hrunning', hperiod, hbound, fun hn => by omega⟩

/-- A period and a second registration, and then the loss of a keeper in a settlement. -/
def detourEvents : List Event := List.replicate 15 .done ++ [.noMajority] ++ wayTo .reset

/-- The round after the loss of a keeper is as far from the end of its period as can be: eight
events are not enough, and nine are. -/
theorem detourEvents_never_trap :
    ∃ g₀ g g₈ g₉, start .canonical ⟨some .registration, 4, 4⟩ .standard = .ok g₀ ∧
      g₀.performAll [.stepAll detourEvents] = some g ∧ g.frozen = false ∧
      g.current = .reset ∧ g.period = 1 ∧
      g.stepAll (List.replicate 8 .done) = (.ok .resetAndPause, g₈) ∧ g₈.period = 1 ∧
      g.stepAll (List.replicate 9 .done) = (.ok g₉.current, g₉) ∧ g.period < g₉.period := by
  obtain ⟨g₉, hsteps, -, -, -, hends⟩ :=
    @never_trapped ⟨some .registration, 4, 4⟩ .standard _ _ [.stepAll detourEvents] rfl rfl rfl 9
  exact ⟨_, _, _, g₉, rfl, rfl, rfl, rfl, rfl, rfl, rfl, hsteps, hends (Nat.le_refl 9)⟩

end Engine

end RoundWorkflow
