import RoundWorkflow.Proofs.TransitionLog

/-!
# Rounds and plain steps

A replica that runs rounds asks behaviours for its events, waits for them against
deadlines, and injects timeouts.  A replica that is stepped is told its events.  Where
the two go is the same: what a run applied can be given, event for event, to a fresh
replica, and it ends up where the run did, after the same transitions.

`Engine.plain` is a replica as plain steps would have left it: it is not frozen, and no
record says that its event was injected.  A move of a replica is a plain step of its plain
one (`plain_move`), and a freeze is nothing.  So the moves that a run amounts to are steps
through the events of its log (`Moves.plain`).

It follows that a run is decided by its events.  Work, store and time have no other way to
tell where a replica goes (`performAll_refines_stepAll`).
-/

namespace RoundWorkflow

/-- The record of the transition if its event had been delivered. -/
def Record.plain (r : Record) : Record := { r with timedOut := false }

/-- The notification of the transition if its event had been delivered. -/
def Change.plain (c : Change Record) : Change Record := { c with record := c.record.plain }

/-- The event of a transition. -/
def Change.event (c : Change Record) : Event := c.record.event

namespace Engine

/-- The replica as plain steps would have left it. -/
def plain (g : Engine) : Engine :=
  { g with
    frozen := false
    history := ⟨g.history.log.map Record.plain⟩
    channel := ⟨g.channel.log.map Change.plain⟩ }

variable {g g' : Engine} {L : TransitionLog}

/-! ## Steps in turn -/

theorem stepAll_append {es : List Event} {r : Round} (h : g.stepAll es = (.ok r, g'))
    (es' : List Event) :
    g.stepAll (es ++ es') = g'.stepAll es' := by
  induction es generalizing g with
  | nil =>
    cases h
    rfl
  | cons e es ih =>
    rw [stepAll] at h
    rw [List.cons_append, stepAll]
    cases hstep : g.step e with
    | mk result g₁ =>
      rw [hstep] at h
      cases result with
      | ok r' => exact ih h
      | error fault => cases h

theorem stepAllLog_append {es : List Event} {r : Round} (h : g.stepAll es = (.ok r, g'))
    (es' : List Event) :
    g.stepAllLog (es ++ es') = g.stepAllLog es ++ g'.stepAllLog es' := by
  induction es generalizing g with
  | nil =>
    cases h
    rfl
  | cons e es ih =>
    rw [stepAll] at h
    rw [List.cons_append, stepAllLog, stepAllLog]
    cases hstep : g.step e with
    | mk result g₁ =>
      rw [hstep] at h
      cases result with
      | ok r' =>
        dsimp only
        rw [ih h, List.append_assoc]
      | error fault => cases h

/-! ## Plain replicas -/

/-- A move is a plain step of the plain replica. -/
theorem plain_move (g : Engine) (e : Edge) (timedOut : Bool) :
    (g.move e timedOut).plain = g.plain.move e false := by
  have hhistory : (g.history.log.push (g.history.next e g.period timedOut)).map Record.plain =
      (g.history.log.map Record.plain).push (g.plain.history.next e g.period false) :=
    Recent.map_push Record.plain _ _
  have hchannel : (g.channel.log.push (g.notice e timedOut)).map Change.plain =
      (g.channel.log.map Change.plain).push (g.plain.notice e false) :=
    Recent.map_push Change.plain _ _
  simp only [move, plain, History.record, Channel.send, Engine.mk.injEq,
    History.mk.injEq, Channel.mk.injEq]
  exact ⟨trivial, trivial, trivial, trivial, trivial, trivial, hhistory, hchannel⟩

/-- Moves are steps through the events that they log. -/
theorem Moves.plain (h : Moves g L g') :
    g.plain.stepAll (L.map Change.event) = (.ok g'.current, g'.plain) ∧
      g.plain.stepAllLog (L.map Change.event) = L.map Change.plain := by
  induction h with
  | refl => exact ⟨rfl, rfl⟩
  | freeze _ ih => exact ih
  | @move L g' e r timedOut _ hnext ih =>
    have hstep : g'.plain.step e = (.ok r, (g'.move ⟨g'.current, e, r⟩ timedOut).plain) := by
      rw [plain_move]
      exact apply_of_next_ok (g := g'.plain) rfl hnext false
    rw [List.map_append, List.map_append, stepAll_append ih.1, stepAllLog_append ih.1, ih.2]
    constructor
    · change g'.plain.stepAll [e] = _
      rw [stepAll, hstep]
      rfl
    · congr 1
      change g'.plain.stepAllLog [e] = _
      rw [stepAllLog, hstep, plain_move]
      dsimp only
      rw [turnLog_move]
      rfl

/-- A replica as it is set up is plain. -/
theorem SetUp.plain_eq {t : Table} {c : EngineConfig} (h : SetUp t c g) : g.plain = g := by
  obtain ⟨-, -, -, -, hfrozen, -, hhistory, hchannel⟩ := h
  cases g
  cases hfrozen
  cases hhistory
  cases hchannel
  rfl

/-! ## Runs -/

/-- A replica that was only ever stepped has come as far as another one. -/
structure Replays (g' g : Engine) : Prop where
  current : g'.current = g.current
  period : g'.period = g.period
  steps : g'.steps = g.steps
  streak : g'.streak = g.streak
  /-- It shows the same records, none of them of an injected event. -/
  records : g'.history.records = g.history.records.map Record.plain
  /-- Its subscribers have missed as many notifications. -/
  missed : ∀ since, g'.channel.missed since = g.channel.missed since
  /-- Its subscribers are due the same notifications, none of them of an injected event. -/
  due : ∀ since, g'.channel.due since = (g.channel.due since).map Change.plain

theorem plain_replays (g : Engine) : g.plain.Replays g where
  current := rfl
  period := rfl
  steps := rfl
  streak := rfl
  records := Recent.toList_map Record.plain g.history.log
  missed _ := rfl
  due since := by
    rw [Channel.due, Channel.due, List.map_drop, ← Recent.toList_map]
    rfl

/-- Whatever calls a replica was given, a fresh replica that is told the events they applied accepts
them all and comes as far, with the same records and notifications apart from the marks of injected
events.  So do all calls that apply the same events, with whatever work, store and time. -/
theorem performAll_refines_stepAll {t : Table} {c : EngineConfig} {s : Supervisor} {g₀ g : Engine}
    {calls : List Call} (hstart : start t c s = .ok g₀) (hcalls : g₀.performAll calls = some g) :
    ∃ g', g₀.stepAll ((g₀.performAllLog calls).map Change.event) = (.ok g.current, g') ∧
      g'.Replays g ∧
      g₀.stepAllLog ((g₀.performAllLog calls).map Change.event) =
        (g₀.performAllLog calls).map Change.plain ∧
      ∀ calls₁ g₁, g₀.performAll calls₁ = some g₁ →
        (g₀.performAllLog calls₁).map Change.event = (g₀.performAllLog calls).map Change.event →
          g'.Replays g₁ ∧
            (g₀.performAllLog calls₁).map Change.plain =
              (g₀.performAllLog calls).map Change.plain := by
  have hplain := (start_setUp hstart).plain_eq
  have hmoves := (performAll_moves hcalls).plain
  rw [hplain] at hmoves
  refine ⟨g.plain, hmoves.1, plain_replays g, hmoves.2, fun calls₁ g₁ hcalls₁ hevents => ?_⟩
  have hmoves₁ := (performAll_moves hcalls₁).plain
  rw [hplain, hevents] at hmoves₁
  -- Both calls are replayed through the same events, so by the same replica.
  have hsame : g₁.plain = g.plain := (Prod.mk.inj (hmoves₁.1.symm.trans hmoves.1)).2
  rw [← hsame]
  exact ⟨plain_replays g₁, hmoves₁.2.symm.trans hmoves.2⟩

/-- Items are pulled three times, first until the budget is used up; the pause does not accept the
last event. -/
def waitCalls : List Call :=
  [.runFor 3 (plannedRegistry waits)
      ⟨.empty, false, Plans.done.set .pullMemes (.program [[.stall], [.conclude .noMajority],
        [.conclude .done]])⟩,
    .step .wait]

/-- A replica that is told the three events comes as far as one that was timed out and frozen. -/
theorem waits_replayed :
    ∃ g₀ g g', start waits ⟨none, 1, 2⟩ .standard = .ok g₀ ∧
      g₀.performAll waitCalls = some g ∧ g.frozen = true ∧
      (g₀.performAllLog waitCalls).map (fun c => c.record.timedOut) = [true, false, false] ∧
      g₀.stepAll [.roundTimeout, .noMajority, .done] = (.ok .resetAndPause, g') ∧ g'.Replays g := by
  obtain ⟨g', hsteps, hreplays, -⟩ :=
    @performAll_refines_stepAll waits ⟨none, 1, 2⟩ .standard _ _ waitCalls rfl rfl
  exact ⟨_, _, g', rfl, rfl, rfl, rfl, hsteps, hreplays⟩

end Engine

end RoundWorkflow
