import RoundWorkflow.Proofs.TransitionLog
import RoundWorkflow.Proofs.Simulation.Rounds

/-!
# The retry signals of a simulation

A simulation counts its retry signals after the run, out of the notifications that a
subscriber from before the first round gets.  The subscriber takes notifications until
there is none, or until it learns that it missed some.

Every step sends one notification.  So a simulation of no more steps than the channel
holds counts all signals that were raised.  With one step more the subscriber has missed
the oldest notification, learns that before anything else, and the count is zero, however
many signals were raised (`simulate_retrySignals`).
-/

namespace RoundWorkflow

variable {σ : Type} [RandomSource σ] {t : Table} {c : EngineConfig} {s : Supervisor}
  {g : Engine} {steps : Nat} {source : σ}

namespace Simulation

/-- The number of transitions of a simulation that raise a retry signal. -/
def signalsRaised (g : Engine) (steps : Nat) (source : σ) : Nat :=
  (g.runForLog (registry g.table) ⟨.empty, false, source⟩ steps).countP Change.limitExceeded

/-- A subscriber counts the signals since it subscribed if all of that is still held, and else
none. -/
theorem signalsSeen_of_keeps {channel : Channel (Change Record)} {sent : TransitionLog}
    (h : channel.log.Keeps sent) (since : Subscription) :
    signalsSeen channel since =
      if sent.length ≤ since + channel.log.capacity then
          (sent.drop since).countP Change.limitExceeded else 0 := by
  rw [signalsSeen]
  by_cases hmissed : channel.missed since = 0
  · rw [if_pos hmissed, if_pos ((Channel.missed_eq_zero_iff h since).mp hmissed),
      Channel.due_of_missed_eq_zero h hmissed]
  · rw [if_neg hmissed,
      if_neg fun hfits => hmissed ((Channel.missed_eq_zero_iff h since).mpr hfits)]

/-- The channel of a simulation keeps the notifications of its run. -/
theorem run_channel_keeps (h : Engine.SetUp t c g) (steps : Nat) (source : σ) :
    (run g steps source).engine.channel.log.Keeps
      (g.runForLog (registry g.table) ⟨.empty, false, source⟩ steps) :=
  (Engine.runFor_moves steps g (runFor_eq_run g steps source)).channel_keeps h.channel_keeps

theorem run_channel_capacity (h : Engine.SetUp t c g) (steps : Nat) (source : σ) :
    (run g steps source).engine.channel.log.capacity = powerOfTwoFrom c.channelCapacity := by
  rw [(Engine.runFor_moves steps g (runFor_eq_run g steps source)).channel_capacity, h.channel,
    Channel.capacity_empty]

end Simulation

open Simulation

/-- A simulation counts the signals that were raised if its steps fit the channel, and else none. -/
theorem retrySignals_eq {sim : Simulation} (hstart : Engine.start t c s = .ok g)
    (hsim : simulate g steps source = .ok sim) :
    sim.retrySignals = if steps ≤ powerOfTwoFrom c.channelCapacity then
      signalsRaised g steps source else 0 := by
  obtain ⟨⟨r, hok⟩, rfl⟩ := simulate_eq_ok_iff.mp hsim
  have hsetUp := Engine.start_setUp hstart
  have hlength := Engine.length_runForLog steps g (runFor_eq_run g steps source) hok
  have hsubscribe : g.channel.subscribe = 0 := by
    rw [hsetUp.channel]
    rfl
  rw [signalsSeen_of_keeps (run_channel_keeps hsetUp steps source), run_channel_capacity hsetUp,
    hsubscribe, hlength, Nat.zero_add, List.drop_zero, signalsRaised]

/-- A simulation counts all signals that were raised exactly if its steps fit the channel or none
was raised. -/
theorem simulate_retrySignals {sim : Simulation} (hstart : Engine.start t c s = .ok g)
    (hsim : simulate g steps source = .ok sim) :
    (steps ≤ powerOfTwoFrom c.channelCapacity → sim.retrySignals = signalsRaised g steps source) ∧
      (powerOfTwoFrom c.channelCapacity < steps → sim.retrySignals = 0) ∧
      (sim.retrySignals = signalsRaised g steps source ↔
        steps ≤ powerOfTwoFrom c.channelCapacity ∨ signalsRaised g steps source = 0) := by
  have hseen := retrySignals_eq hstart hsim
  by_cases hfits : steps ≤ powerOfTwoFrom c.channelCapacity
  · rw [if_pos hfits] at hseen
    exact ⟨fun _ => hseen, fun hlt => absurd hfits (Nat.not_le_of_lt hlt),
      iff_of_true hseen (.inl hfits)⟩
  · rw [if_neg hfits] at hseen
    refine ⟨fun h => absurd h hfits, fun _ => hseen, ?_⟩
    rw [hseen, or_iff_right hfits]
    exact eq_comm

/-- A round that retries for good after the start. -/
def retries : Table where
  specification := .ofEdges .registrationStartup [.registrationStartup]
    [⟨.registrationStartup, .done, .loadDatabase⟩, ⟨.loadDatabase, .noMajority, .loadDatabase⟩]
  warnings := [.unroutedTimeout .loadDatabase .roundTimeout]
  valid := by cbv

/-- Every retry is worth a signal. -/
def strict : Supervisor := { Supervisor.standard with policy := fun _ => ⟨some 0⟩ }

/-- A channel for two notifications holds those of two steps, and the signal is counted. -/
theorem retries_signal_seen :
    ∃ g sim, Engine.start retries ⟨none, 2, 1⟩ strict = .ok g ∧
      simulate g 2 (⟨[]⟩ : Decisions) = .ok sim ∧
      signalsRaised g 2 (⟨[]⟩ : Decisions) = 1 ∧ sim.retrySignals = 1 :=
  ⟨_, _, rfl, rfl, rfl,
    (@simulate_retrySignals Decisions _ retries ⟨none, 2, 1⟩ strict _ 2 ⟨[]⟩ _ rfl rfl).1
      (by decide)⟩

/-- A channel for one notification does not, and the signal that was raised is not counted. -/
theorem retries_signal_missed :
    ∃ g sim, Engine.start retries ⟨none, 1, 1⟩ strict = .ok g ∧
      simulate g 2 (⟨[]⟩ : Decisions) = .ok sim ∧
      signalsRaised g 2 (⟨[]⟩ : Decisions) = 1 ∧ sim.retrySignals = 0 :=
  ⟨_, _, rfl, rfl, rfl, rfl⟩

end RoundWorkflow
