import RoundWorkflow.Configuration
import RoundWorkflow.Proofs.Canonical
import RoundWorkflow.Proofs.Deadlines
import RoundWorkflow.Proofs.Retries

/-!
# What a configuration can ask for

The numbers of a configuration are not restricted, and they reach operations that do not take
every number: a channel may be asked for some capacities only, a history makes room in advance,
and a deadline is a sum on a clock that ends.

The last two cannot go wrong.  A history has room for one record at least and makes room for
10000 at most, and a budget is at most a year once a supervisor is made from the configuration
(`Configuration.supervisor_budget_le`), so that a deadline is set within the clock or not at all
(`Supervisor.SetsDeadline`).  The capacity of the channel is raised to one and not cut off above.
So a launch asks for a capacity outside the documented domain of a channel exactly if the
configuration has more than `maxChannelCapacity` notifications, and that is what aborts it here;
`Engine.launch_within_domains` is the main statement.

This is about the domains of the operations and not about memory.  A channel makes room for its
messages in advance, so a capacity far below the greatest of the domain may be more than there is
memory for.
-/

namespace RoundWorkflow

/-! ## Deadlines -/

namespace Supervisor

variable {s : Supervisor}

/-- A round that begins now has no deadline because it is unbounded, or it has one within the clock,
a budget of at most a year from now. -/
def SetsDeadline (s : Supervisor) (r : Round) (now : Nat) : Prop :=
  (s.Unbounded r now ∧ s.deadline? r now = none) ∨
    ∃ budget e, s.budget r = some budget ∧ budget ≤ 1000 * maxBudgetSeconds ∧
      (now + budget) / 1000 ≤ clockEnd ∧ s.deadline? r now = some ⟨r, e, now + budget⟩

theorem Covers.setsDeadline (hcovers : s.Covers)
    (hbudgets : ∀ r budget, s.budget r = some budget → budget ≤ 1000 * maxBudgetSeconds) (r : Round)
    (now : Nat) :
    s.SetsDeadline r now := by
  by_cases hunbounded : s.Unbounded r now
  · exact .inl ⟨hunbounded, deadline?_of_unbounded hunbounded⟩
  · obtain ⟨budget, e, hbudget, -, hdeadline⟩ := hcovers.deadline?_of_not_unbounded hunbounded
    have hclock : (now + budget) / 1000 ≤ clockEnd :=
      Nat.not_lt.mp fun hpast => hunbounded (.inr ⟨budget, hbudget, hpast⟩)
    exact .inr ⟨budget, e, hbudget, hbudgets r budget hbudget, hclock, hdeadline⟩

end Supervisor

namespace Configuration

variable {c : Configuration} {s : Supervisor} {ec : EngineConfig}

/-- A configured supervisor is one for the configured budgets, with retry policies. -/
theorem exists_of_supervisor (h : c.supervisor = .ok s) :
    ∃ s₀, Supervisor.ofTimeouts c.timeouts = .ok s₀ ∧ s₀.withRetries c.retry = .ok s := by
  rw [supervisor] at h
  exact bind_eq_ok_iff.mp h

theorem supervisor_covers (h : c.supervisor = .ok s) : s.Covers := by
  obtain ⟨s₀, htimeouts, hretries⟩ := exists_of_supervisor h
  exact (Supervisor.ofTimeouts_covers htimeouts).withRetries hretries

theorem supervisor_budget_le (h : c.supervisor = .ok s) (r : Round) (budget : Nat)
    (hbudget : s.budget r = some budget) : budget ≤ 1000 * maxBudgetSeconds := by
  obtain ⟨s₀, htimeouts, hretries⟩ := exists_of_supervisor h
  rw [Supervisor.budget_of_withRetries hretries] at hbudget
  exact Supervisor.le_of_budgetFault? (Supervisor.exists_of_ofTimeouts htimeouts).1 hbudget

/-- The capacities of the engine are those of the configuration. -/
theorem capacities_of_engineConfig (h : c.engineConfig = .ok ec) :
    ec.notificationCapacity = c.engine.notificationCapacity ∧
      ec.historyCapacity = c.engine.historyCapacity := by
  rw [engineConfig] at h
  split at h
  · cases h
    exact ⟨rfl, rfl⟩
  · obtain ⟨start, -, h⟩ := bind_eq_ok_iff.mp h
    cases h
    exact ⟨rfl, rfl⟩

end Configuration

/-! ## Capacities -/

theorem EngineConfig.channelCapacity_pos (c : EngineConfig) : 0 < c.channelCapacity :=
  Nat.le_max_right _ _

theorem EngineConfig.channelCapacity_le_iff (c : EngineConfig) :
    c.channelCapacity ≤ maxChannelCapacity ↔ c.notificationCapacity.toNat ≤ maxChannelCapacity := by
  have hpos : 1 ≤ maxChannelCapacity := by decide
  rw [channelCapacity, Nat.max_le]
  exact and_iff_left hpos

theorem EngineConfig.isMadeFor_iff (c : EngineConfig) :
    Channel.isMadeFor c.channelCapacity = true ↔ c.channelCapacity ≤ maxChannelCapacity := by
  rw [Channel.isMadeFor, Bool.and_eq_true, decide_eq_true_iff, decide_eq_true_iff]
  exact and_iff_right c.channelCapacity_pos

theorem History.reserved_bounds (capacity : Nat) :
    1 ≤ reserved capacity ∧ reserved capacity ≤ 10000 := by
  rw [reserved, defaultHistoryCapacity]
  omega

namespace Engine

variable {t : Table} {ec : EngineConfig} {s : Supervisor} {g : Engine}

theorem launch_eq_ready_iff :
    launch t ec s = .ready g ↔ start t ec s = .ok g ∧
      Channel.isMadeFor ec.channelCapacity = true := by
  rw [launch]
  cases start t ec s with
  | error fault => exact ⟨nofun, nofun⟩
  | ok g' =>
    cases Channel.isMadeFor ec.channelCapacity with
    | false => exact ⟨nofun, nofun⟩
    | true => simp

/-- Only a capacity that is too large aborts a launch, and only after the start was accepted. -/
theorem launch_eq_aborted_iff :
    launch t ec s = .aborted ↔
      t.isStart (ec.startState.getD t.defaultStart) = true ∧
      maxChannelCapacity < ec.channelCapacity := by
  rw [← Nat.not_le, ← ec.isMadeFor_iff, launch, start]
  cases t.isStart (ec.startState.getD t.defaultStart) with
  | false => exact iff_of_false (fun h => by cases h) fun h => Bool.noConfusion h.1
  | true => cases Channel.isMadeFor ec.channelCapacity <;> simp

/-- Whatever numbers are configured, if an engine and a supervisor can be made from them: the
channel is asked for one notification at least, and for a capacity outside its documented domain
exactly if the configuration has such a capacity, which aborts the launch; room is made for 10000
records at most, and one at least; and however long the replica runs, every deadline is set within
the clock or not at all. -/
theorem launch_within_domains {c : Configuration} (hengine : c.engineConfig = .ok ec)
    (hsupervisor : c.supervisor = .ok s) (t : Table) :
    (0 < ec.channelCapacity ∧
        (ec.channelCapacity ≤ maxChannelCapacity ↔
          c.engine.notificationCapacity.toNat ≤ maxChannelCapacity)) ∧
      (launch t ec s = .aborted ↔ t.isStart (ec.startState.getD t.defaultStart) = true ∧
        maxChannelCapacity < c.engine.notificationCapacity.toNat) ∧
      (1 ≤ History.reserved ec.historyCapacity.toNat ∧
        History.reserved ec.historyCapacity.toNat ≤ 10000) ∧
      ∀ g₀, launch t ec s = .ready g₀ → ∀ (calls : List Call) (g : Engine),
        g₀.performAll calls = some g →
        g.history.log.capacity = max c.engine.historyCapacity.toNat 1 ∧
          ∀ (r : Round) (now : Nat), g.supervisor.SetsDeadline r now := by
  obtain ⟨hnotifications, hrecords⟩ := Configuration.capacities_of_engineConfig hengine
  refine ⟨⟨ec.channelCapacity_pos, ?_⟩, ?_, History.reserved_bounds _,
    fun g₀ hlaunch calls g hcalls => ?_⟩
  · rw [ec.channelCapacity_le_iff, hnotifications]
  · rw [launch_eq_aborted_iff, ← Nat.not_le, ec.channelCapacity_le_iff, hnotifications, Nat.not_le]
  · obtain ⟨hstart, -⟩ := launch_eq_ready_iff.mp hlaunch
    have hmoves := performAll_moves hcalls
    rw [hmoves.history_capacity, (start_setUp hstart).history, ← hrecords, hmoves.supervisor,
      start_supervisor hstart]
    exact ⟨rfl, (Configuration.supervisor_covers hsupervisor).setsDeadline
      (Configuration.supervisor_budget_le hsupervisor)⟩

/-- The configuration in which only the two capacities are configured. -/
def configured (notifications records : UInt64) : Configuration :=
  { Configuration.standard with engine := ⟨none, notifications, records, none⟩ }

/-- A channel for some thousand notifications and the largest history. -/
theorem configured_launches :
    ∃ ec s g, (configured 4096 0xffffffffffffffff).engineConfig = .ok ec ∧
      (configured 4096 0xffffffffffffffff).supervisor = .ok s ∧
      launch .canonical ec s = .ready g ∧ launch .canonical ec s ≠ .aborted ∧
      History.reserved ec.historyCapacity.toNat = 10000 ∧
      g.supervisor.SetsDeadline .pullMemes 0 := by
  obtain ⟨-, haborted, -, hruns⟩ :=
    @launch_within_domains _ _ (configured 4096 0xffffffffffffffff) rfl rfl .canonical
  refine ⟨_, _, _, rfl, rfl, rfl, fun h => ?_, rfl, (hruns _ rfl [] _ rfl).2 .pullMemes 0⟩
  exact absurd (haborted.mp h).2 (by decide)

/-- One notification more than the greatest capacity, and the launch is the end of the program. -/
theorem configured_aborts :
    ∃ ec s, (configured 0x8000000000000000 1).engineConfig = .ok ec ∧
      (configured 0x8000000000000000 1).supervisor = .ok s ∧
      ¬ec.channelCapacity ≤ maxChannelCapacity ∧
      launch .canonical ec s = .aborted :=
  ⟨_, _, rfl, rfl, by decide, rfl⟩

end Engine

end RoundWorkflow
