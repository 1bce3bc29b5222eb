import RoundWorkflow.Proofs.Progress
import RoundWorkflow.Proofs.PlainStepping
import Mathlib.Data.List.Nodup

/-!
# What warnings warn of

The warnings of a table are read off its edges.  What they warn of are things that happen,
or cannot happen, to the replicas that run it.

A path of edges is a way for a replica: told the events of the path, a replica at its first
round goes to its last (`Path.stepAll`).  Every state is at the end of a path from a start.
So whatever is said of a state or of an edge is said of a replica that comes there.

Work *overruns* if it never ends and the clock can tell when its budget is used up
(`Engine.Overruns`).  Then the timeout of the round is injected, and if no edge takes it up
the replica freezes.  That is what an unrouted timeout warns of.  An unused event is one
that no replica ever applies.  The main statement is `Table.warnings_exact`: each of these
is reported exactly where it is so, and once.
-/

namespace RoundWorkflow

variable {σ : Type}

/-! ## Warnings and edges -/

theorem Specification.unroutedTimeout?_eq_some_iff {s : Specification} {r : Round} {w : Warning} :
    s.unroutedTimeout? r = some w ↔
      ∃ e, r.timeoutEvent = some e ∧ s.hasKey ⟨r, e⟩ = false ∧ w = .unroutedTimeout r e := by
  rw [unroutedTimeout?]
  cases r.timeoutEvent with
  | none => simp
  | some e =>
    cases hkey : s.hasKey ⟨r, e⟩ with
    | true => simp [hkey]
    | false =>
      simp only [hkey, Bool.false_eq_true, if_false]
      constructor
      · rintro ⟨⟩
        exact ⟨e, rfl, hkey, rfl⟩
      · rintro ⟨_, ⟨⟩, -, rfl⟩
        rfl

/-- An unrouted timeout is that of a state without an edge for it. -/
theorem Table.unroutedTimeout_mem_warnings_iff {t : Table} {r : Round} {e : Event} :
    .unroutedTimeout r e ∈ t.warnings ↔ r ∈ t.states ∧ r.timeoutEvent = some e ∧
      e ∉ t.accepted r := by
  have hkey : t.specification.hasKey ⟨r, e⟩ = false ↔ e ∉ t.accepted r := by
    rw [mem_accepted_iff, Specification.hasKey, List.any_eq_false]
    simp only [decide_eq_true_eq, not_exists]
    constructor
    · exact fun h r' hedge => h _ hedge rfl
    · rintro h ⟨r₁, e₁, r'⟩ hedge hkey
      cases hkey
      exact h r' hedge
  rw [warnings_eq, Specification.warnings, ← hkey, List.mem_append]
  simp only [List.mem_map, reduceCtorEq, and_false, exists_false, false_or, List.mem_filterMap,
    Specification.unroutedTimeout?_eq_some_iff, Warning.unroutedTimeout.injEq]
  constructor
  · rintro ⟨_, hstate, _, htimeout, hnone, rfl, rfl⟩
    exact ⟨hstate, htimeout, hnone⟩
  · rintro ⟨hstate, htimeout, hnone⟩
    exact ⟨r, hstate, e, htimeout, hnone, rfl, rfl⟩

/-- An unused event is one of the alphabet that no edge has. -/
theorem Table.unusedEvent_mem_warnings_iff {t : Table} {e : Event} :
    .unusedEvent e ∈ t.warnings ↔
      e ∈ t.specification.alphabet ∧ ∀ edge ∈ t.specification.edges, edge.event ≠ e := by
  rw [warnings_eq, Specification.warnings, List.mem_append]
  simp only [List.mem_map, Warning.unusedEvent.injEq, exists_eq_right, List.mem_filterMap,
    Specification.unroutedTimeout?_eq_some_iff, reduceCtorEq, and_false, exists_false, or_false,
    Specification.unusedEvents, List.mem_filter, Bool.not_eq_true', List.any_eq_false,
    decide_eq_true_eq]
  rfl

/-- Of a round at most one timeout is reported. -/
theorem Specification.filterMap_unroutedTimeout? (s : Specification) (rs : List Round) :
    ∃ keys : List Key,
      rs.filterMap s.unroutedTimeout? = keys.map (fun k => .unroutedTimeout k.round k.event) ∧
      (keys.map Key.round).Sublist rs := by
  induction rs with
  | nil => exact ⟨[], rfl, .slnil⟩
  | cons r rs ih =>
    obtain ⟨keys, hkeys, hsublist⟩ := ih
    cases hwarning : s.unroutedTimeout? r with
    | none =>
      rw [List.filterMap_cons_none hwarning]
      exact ⟨keys, hkeys, hsublist.cons r⟩
    | some w =>
      obtain ⟨e, -, -, rfl⟩ := unroutedTimeout?_eq_some_iff.mp hwarning
      rw [List.filterMap_cons_some hwarning, hkeys]
      exact ⟨⟨r, e⟩ :: keys, rfl, hsublist.cons_cons r⟩

/-- Unused events are reported in the order of the alphabet, then unrouted timeouts in the order of
the states. -/
theorem Table.warnings_ordered (t : Table) :
    ∃ (events : List Event) (keys : List Key),
      t.warnings = events.map .unusedEvent ++ keys.map (fun k => .unroutedTimeout k.round k.event) ∧
        events.Sublist t.specification.alphabet.toList ∧ (keys.map Key.round).Sublist t.states := by
  obtain ⟨keys, hkeys, hsublist⟩ := t.specification.filterMap_unroutedTimeout? t.states
  refine ⟨t.specification.unusedEvents, keys, ?_, List.filter_sublist, hsublist⟩
  rw [warnings_eq, Specification.warnings, ← hkeys]
  rfl

theorem Table.nodup_warnings (t : Table) : t.warnings.Nodup := by
  obtain ⟨events, keys, hwarnings, hevents, hkeys⟩ := t.warnings_ordered
  have hevents : events.Nodup := hevents.nodup (EnumSet.nodup_toList Event.nodup_all _)
  have hkeys : keys.Nodup :=
    List.Nodup.of_map _ (hkeys.nodup (EnumSet.nodup_toList Round.nodup_all _))
  rw [hwarnings, List.nodup_append]
  refine ⟨List.Nodup.map (fun e e' h => ?_) hevents, List.Nodup.map (fun k k' h => ?_) hkeys,
    fun w hw w' hw' => ?_⟩
  · cases h
    rfl
  · cases k
    cases k'
    cases h
    rfl
  · obtain ⟨e, -, rfl⟩ := List.mem_map.mp hw
    obtain ⟨k, -, rfl⟩ := List.mem_map.mp hw'
    exact nofun

/-! ## Paths and replicas -/

/-- A path is a way for every replica at its beginning. -/
theorem Path.stepAll {t : Table} {a r : Round} (h : Path t.specification.edges a r) :
    ∃ es, ∀ g : Engine, g.table = t → g.current = a → g.frozen = false →
      ∃ g', g.stepAll es = (.ok r, g') ∧ g'.table = t ∧ g'.current = r ∧ g'.frozen = false := by
  induction h with
  | refl =>
    refine ⟨[], fun g htable hcurrent hrunning => ⟨g, ?_, htable, hcurrent, hrunning⟩⟩
    rw [Engine.stepAll, hcurrent]
  | @step edge _ hedge ih =>
    obtain ⟨es, hes⟩ := ih
    refine ⟨es ++ [edge.event], fun g htable hcurrent hrunning => ?_⟩
    obtain ⟨g', hsteps, htable', hcurrent', hrunning'⟩ := hes g htable hcurrent hrunning
    have hnext : g'.table.next g'.current edge.event = .ok edge.target := by
      rw [htable', hcurrent']
      exact Table.next_eq_ok_iff.mpr hedge
    have hstep := Engine.apply_of_next_ok hrunning' hnext false
    rw [Engine.stepAll_append hsteps, Engine.stepAll, Engine.step, hstep]
    exact ⟨_, rfl, htable', rfl, hrunning'⟩

/-- Events lead from a start to every state. -/
theorem Table.exists_stepAll {t : Table} {r : Round} (h : r ∈ t.states) :
    ∃ a es, t.isStart a = true ∧ ∀ (c : EngineConfig) (s : Supervisor), c.startState = some a →
      ∃ g₀ g, Engine.start t c s = .ok g₀ ∧ g₀.stepAll es = (.ok r, g) ∧ g.current = r ∧
        g.frozen = false := by
  obtain ⟨a, ha, hpath⟩ := t.sensible.paths r h
  obtain ⟨es, hes⟩ := hpath.stepAll
  have hstart : t.isStart a = true := decide_eq_true ha
  refine ⟨a, es, hstart, fun c s hc => ?_⟩
  have hbegins : t.isStart (c.startState.getD t.defaultStart) = true := by rw [hc]; exact hstart
  obtain ⟨g₀, hg₀⟩ : ∃ g₀, Engine.start t c s = .ok g₀ := ⟨_, if_pos hbegins⟩
  have hsetUp := Engine.start_setUp hg₀
  have hcurrent : g₀.current = a := by rw [hsetUp.current, hc]; rfl
  obtain ⟨g, hsteps, -, hr, hrunning⟩ := hes g₀ hsetUp.table hcurrent hsetUp.frozen
  exact ⟨g₀, g, hg₀, hsteps, hr, hrunning⟩

/-! ## Work that overruns -/

/-- Work that never ends. -/
inductive Work.Hangs : Work σ → Prop where
  | stall : Hangs .stall
  | sleep {ms : Nat} {rest : Work σ} : Hangs rest → Hangs (.sleep ms rest)
  | act {change : Bench σ → Bench σ} {next : Bench σ → Work σ} : (∀ b, Hangs (next b)) →
      Hangs (.act change next)

/-- Work that never ends is cut off by its deadline, and by nothing else. -/
theorem Work.Hangs.run_eq {w : Work σ} (h : w.Hangs) (deadline : Option Deadline) (now : Nat)
    (b : Bench σ) :
    ∃ b',
      w.run deadline now b =
        ((deadline.map fun d => .timedOut d.event d.time).getD .never, b') := by
  induction h generalizing now b with
  | stall => cases deadline <;> exact ⟨b, rfl⟩
  | @sleep ms rest _ ih =>
    cases deadline with
    | none => exact ih _ _
    | some d =>
      rw [Work.run]
      split
      · exact ih _ _
      · exact ⟨b, rfl⟩
  | act _ ih => exact ih b _ _

namespace Engine

variable {g g' : Engine} {reg : Registry σ} {env : Environment σ} {e : Event}

/-- The work of the current round never ends, and the clock can tell when its budget is used up. -/
structure Overruns (g : Engine) (reg : Registry σ) : Prop where
  hangs : ∃ behaviour, reg.behaviour? g.current = some behaviour ∧ ∀ ctx, (behaviour ctx).Hangs
  budget : ∃ b, g.supervisor.budget g.current = some b ∧ b / 1000 ≤ clockEnd

/-- Work that overruns freezes a replica exactly if its round does not accept its timeout. -/
theorem Overruns.runRound_eq_iff (h : g.Overruns reg) (hrunning : g.frozen = false) :
    (∃ env', g.runRound reg env = some ⟨.error (.protocolViolation g.current e), g', env'⟩) ↔
      g.current.timeoutEvent = some e ∧ e ∉ g.table.accepted g.current ∧ g' = g.freeze := by
  obtain ⟨behaviour, hbehaviour, hhangs⟩ := h.hangs
  obtain ⟨b, hbudget, hclock⟩ := h.budget
  obtain ⟨bench, hrun⟩ :=
    (hhangs ⟨g.current, g.period⟩).run_eq (g.supervisor.deadline? g.current 0) 0 (.fresh env)
  have hattempt : g.attempt behaviour env = _ := hrun
  have hdeadline : g.supervisor.deadline? g.current 0 = g.current.timeoutEvent.map fun e =>
      ⟨g.current, e, b⟩ := by
    rw [Supervisor.deadline?, hbudget]
    cases g.current.timeoutEvent with
    | none => rfl
    | some e => simp [hclock]
  rw [hdeadline] at hattempt
  simp only [runRound_eq_error_iff hrunning]
  constructor
  · rintro ⟨env', hfault, rfl⟩
    cases hfault with
    | violation hbehaviour' hattempt' _ _ =>
      -- Work that never ends has no outcome to violate the protocol with.
      cases hbehaviour.symm.trans hbehaviour'
      rw [hattempt] at hattempt'
      cases htimeout : g.current.timeoutEvent with
      | none => rw [htimeout] at hattempt'; cases hattempt'
      | some e => rw [htimeout] at hattempt'; cases hattempt'
    | unrouted hbehaviour' hattempt' hrefused =>
      exact ⟨timeoutEvent_of_attempt hattempt', hrefused, rfl⟩
  · rintro ⟨htimeout, hrefused, rfl⟩
    rw [htimeout] at hattempt
    exact ⟨_, .unrouted hbehaviour hattempt hrefused, rfl⟩

end Engine

/-- Events bring a replica from a start to a round, whatever else it is configured with, and when
work overruns there the replica freezes at an event. -/
def Table.FreezesAt (t : Table) (r : Round) (e : Event) : Prop :=
  ∃ a es, t.isStart a = true ∧ ∀ (c : EngineConfig) (s : Supervisor), c.startState = some a →
    ∃ g₀ g, Engine.start t c s = .ok g₀ ∧ g₀.stepAll es = (.ok r, g) ∧ g.current = r ∧
      g.frozen = false ∧
      ∀ {σ : Type} (reg : Registry σ) (env : Environment σ), g.Overruns reg →
        ∃ g' env', g.runRound reg env = some ⟨.error (.protocolViolation r e), g', env'⟩ ∧
          g'.StoppedAt g

/-- No replica applies an event, whatever start it is given and whatever it is asked to do. -/
def Table.NeverApplies (t : Table) (e : Event) : Prop :=
  ∀ (c : EngineConfig) (s : Supervisor) (g₀ g : Engine) (calls : List Call),
    Engine.start t c s = .ok g₀ →
    g₀.performAll calls = some g → ∀ change ∈ g₀.performAllLog calls, change.record.event ≠ e

namespace Table

variable {t : Table} {r : Round} {e : Event}

/-- Whatever a replica has been asked to do, a timeout that freezes it is reported. -/
theorem unroutedTimeout_mem_warnings {c : EngineConfig} {s : Supervisor} {g₀ g g' : Engine}
    {calls : List Call}
    {reg : Registry σ} {env env' : Environment σ} (hstart : Engine.start t c s = .ok g₀)
    (hcalls : g₀.performAll calls = some g) (hrunning : g.frozen = false)
    (hoverruns : g.Overruns reg)
    (hround : g.runRound reg env = some ⟨.error (.protocolViolation g.current e), g', env'⟩) :
    .unroutedTimeout g.current e ∈ t.warnings := by
  have hsetUp := Engine.start_setUp hstart
  have hmoves := Engine.performAll_moves hcalls
  have htable : g.table = t := hmoves.table.trans hsetUp.table
  obtain ⟨htimeout, hrefused, -⟩ := (hoverruns.runRound_eq_iff hrunning).mp ⟨env', hround⟩
  rw [unroutedTimeout_mem_warnings_iff, ← htable]
  exact ⟨hmoves.mem_states hsetUp.mem_states, htimeout, hrefused⟩

theorem freezesAt_iff : t.FreezesAt r e ↔ .unroutedTimeout r e ∈ t.warnings := by
  constructor
  · rintro ⟨a, es, -, hfreezes⟩
    -- One replica with a budget for every round will do, and work that waits forever in every
    -- round.
    obtain ⟨g₀, g, hstart, hsteps, rfl, hrunning, hround⟩ :=
      hfreezes ⟨some a, 1, 1⟩ ⟨fun _ => some 0, fun _ => ⟨none⟩⟩ rfl
    have hcalls : g₀.performAll [.stepAll es] = some g := by
      change some (g₀.stepAll es).2 = some g
      rw [hsteps]
    have hsupervisor :=
      (Engine.performAll_moves hcalls).supervisor.trans (Engine.start_supervisor hstart)
    have hoverruns : g.Overruns (⟨fun _ => some fun _ => .stall⟩ : Registry Unit) := by
      refine ⟨⟨_, rfl, fun _ => .stall⟩, 0, ?_, Nat.zero_le _⟩
      rw [hsupervisor]
    obtain ⟨g', env', hround, -⟩ := hround _ ⟨.empty, false, ()⟩ hoverruns
    exact unroutedTimeout_mem_warnings hstart hcalls hrunning hoverruns hround
  · intro hwarning
    obtain ⟨hstate, htimeout, hrefused⟩ := unroutedTimeout_mem_warnings_iff.mp hwarning
    obtain ⟨a, es, ha, hes⟩ := exists_stepAll hstate
    refine ⟨a, es, ha, fun c s hc => ?_⟩
    obtain ⟨g₀, g, hstart, hsteps, rfl, hrunning⟩ := hes c s hc
    refine ⟨g₀, g, hstart, hsteps, rfl, hrunning, fun reg env hoverruns => ?_⟩
    have htable : g.table = t := by
      have hmoves := g₀.stepAll_moves es
      rw [hsteps] at hmoves
      exact hmoves.table.trans (Engine.start_setUp hstart).table
    obtain ⟨env', hround⟩ := (hoverruns.runRound_eq_iff hrunning).mpr ⟨htimeout,
      htable ▸ hrefused, rfl⟩
    exact ⟨g.freeze, env', hround, Engine.freeze_stoppedAt g⟩

/-- No replica applies an event exactly if no edge has it: a replica can be brought to the edge. -/
theorem neverApplies_iff : t.NeverApplies e ↔ ∀ edge ∈ t.specification.edges, edge.event ≠ e := by
  constructor
  · rintro hnever edge hedge rfl
    obtain ⟨a, es, -, hes⟩ := exists_stepAll (t.sensible.ends edge hedge).1
    obtain ⟨g₀, g, hstart, hsteps, hcurrent, hrunning⟩ := hes ⟨some a, 1, 1⟩ .standard rfl
    have htable : g.table = t := by
      have hmoves := g₀.stepAll_moves es
      rw [hsteps] at hmoves
      exact hmoves.table.trans (Engine.start_setUp hstart).table
    have hnext : g.table.next g.current edge.event = .ok edge.target := by
      rw [htable, hcurrent]
      exact Table.next_eq_ok_iff.mpr hedge
    have hstep := Engine.apply_of_next_ok hrunning hnext false
    have hlog : g₀.stepAllLog (es ++ [edge.event]) =
        g₀.stepAllLog es ++ [g.notice ⟨g.current, edge.event, edge.target⟩ false] := by
      rw [Engine.stepAllLog_append hsteps, Engine.stepAllLog, Engine.step, hstep]
      exact congrArg _ (congrArg (· ++ []) (Engine.turnLog_move _ _ _ _))
    refine hnever _ _ g₀ _ [.stepAll (es ++ [edge.event])] hstart rfl
      (g.notice ⟨g.current, edge.event, edge.target⟩ false) ?_ rfl
    change g.notice ⟨g.current, edge.event, edge.target⟩ false ∈ g₀.stepAllLog
      (es ++ [edge.event]) ++ []
    rw [hlog, List.append_nil]
    exact List.mem_append_right _ List.mem_cons_self
  · intro hnone c s g₀ g calls hstart hcalls change hchange
    have hedge := (Engine.performAll_moves hcalls).edges change hchange
    rw [(Engine.start_setUp hstart).table] at hedge
    exact hnone _ hedge

/-- The warnings of a table are its defects.  A timeout is reported exactly if events bring a
replica to a state where work that overruns freezes it, and then every replica that is frozen so has
its timeout reported, whatever it was asked to do before.  An event is reported exactly if it is in
the alphabet and no replica ever applies it.  Nothing is reported twice, and the report is in the
order of the alphabet and then of the states. -/
theorem warnings_exact (t : Table) :
    (∀ r e, .unroutedTimeout r e ∈ t.warnings ↔ t.FreezesAt r e) ∧
      (∀ {σ : Type} (c : EngineConfig) (s : Supervisor) (g₀ g g' : Engine) (calls : List Call)
        (reg : Registry σ)
        (env env' : Environment σ) (e : Event), Engine.start t c s = .ok g₀ →
          g₀.performAll calls = some g →
          g.frozen = false → g.Overruns reg →
            g.runRound reg env = some ⟨.error (.protocolViolation g.current e), g', env'⟩ →
              .unroutedTimeout g.current e ∈ t.warnings) ∧
      (∀ e, .unusedEvent e ∈ t.warnings ↔ e ∈ t.specification.alphabet ∧ t.NeverApplies e) ∧
      t.warnings.Nodup ∧
      ∃ (events : List Event) (keys : List Key),
        t.warnings =
          events.map .unusedEvent ++ keys.map (fun k => .unroutedTimeout k.round k.event) ∧
          events.Sublist t.specification.alphabet.toList ∧
          (keys.map Key.round).Sublist t.states := by
  refine ⟨fun r e => freezesAt_iff.symm,
    fun _ _ _ _ _ _ _ _ _ _ hstart hcalls hrunning hoverruns hround => ?_,
    fun e => ?_, t.nodup_warnings, t.warnings_ordered⟩
  · exact unroutedTimeout_mem_warnings hstart hcalls hrunning hoverruns hround
  · rw [neverApplies_iff]
    exact unusedEvent_mem_warnings_iff

end Table

end RoundWorkflow
