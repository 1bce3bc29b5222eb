import RoundWorkflow.Plan
import RoundWorkflow.Proofs.Faults
import RoundWorkflow.Proofs.Simulation.Rounds

/-!
# Rounds that follow scripts

Each state of a table has a script, a list of events.  Whenever the round is visited, its behaviour
concludes the first event that the script has left, or `DONE` if it has none.  So the scripts are
used up in an order that the run decides, and each run decides how it goes on.

A *tour* is told by the table and the scripts alone.  It is a list of visits, in which an earlier
visit of a round uses up the event of its script that a later one does not get.  Nothing is
remembered: the visits of the round are counted instead, from zero (`Scripts.event`).  A tour goes
where the table leads, and stops at the first event that the table does not accept.

What is remembered in a run are the scripts without the events that the visits so far have taken
(`Scripts.LeftBy`).  One round keeps this and applies the event of the next visit
(`runRound_planned`), and so do any number of rounds (`runFor_follows`).  The deadlines are never
looked at, since a scripted round concludes at once.  The main statement is `runFor_scripted`.
-/

namespace RoundWorkflow

/-! ## Scripts and visits -/

/-- A visit of a round, and the event that concludes it. -/
structure Visit where
  round : Round
  event : Event
  deriving DecidableEq, Repr

/-- The number of visits of a round. -/
def visitsOf (r : Round) (vs : List Visit) : Nat := vs.countP fun v => v.round = r

theorem visitsOf_concat (r : Round) (vs : List Visit) (v : Visit) :
    visitsOf r (vs ++ [v]) = visitsOf r vs + if v.round = r then 1 else 0 := by
  rw [visitsOf, List.countP_append, List.countP_singleton]
  simp [visitsOf]

/-- The visit that a transition ends. -/
def Change.visit (c : Change Record) : Visit := ⟨c.record.source, c.record.event⟩

/-- A script for every round. -/
abbrev Scripts := Round → List Event

namespace Scripts

/-- The event that concludes the visit of a round with a number. -/
def event (scripts : Scripts) (r : Round) (i : Nat) : Event := (scripts r)[i]?.getD .done

/-- What the behaviours of the states of a table remember before the first round. -/
def plans (scripts : Scripts) (t : Table) : Plans :=
  ⟨t.states.map fun r => (r, .script (scripts r))⟩

/-- Each state has what the visits have left of its script. -/
def LeftBy (scripts : Scripts) (t : Table) (vs : List Visit) (plans : Plans) : Prop :=
  ∀ r ∈ t.states, plans.get r = .script ((scripts r).drop (visitsOf r vs))

variable {scripts : Scripts} {t : Table} {plans : Plans} {vs : List Visit} {r : Round}

theorem leftBy_nil (scripts : Scripts) (t : Table) : scripts.LeftBy t [] (scripts.plans t) := by
  intro r hr
  have hfind : t.states.find? (fun r' => decide (r' = r)) = some r := by
    have hsome : (t.states.find? fun r' => decide (r' = r)).isSome :=
      List.find?_isSome.mpr ⟨r, hr, by simp⟩
    obtain ⟨r', hr'⟩ := Option.isSome_iff_exists.mp hsome
    have hr'r : r' = r := by simpa using List.find?_some hr'
    rw [hr', hr'r]
  have hentry : (scripts.plans t).entries.find? (fun e => e.1 = r) =
      some (r, .script (scripts r)) := by
    rw [Scripts.plans, List.find?_map]
    exact congrArg (Option.map fun r => (r, Plan.script (scripts r))) hfind
  rw [Plans.get, hentry]
  rfl

/-- A visit takes the next event of its script, and leaves the other scripts alone. -/
theorem LeftBy.concat (h : scripts.LeftBy t vs plans) (e : Event) :
    scripts.LeftBy t (vs ++ [⟨r, e⟩])
      (plans.set r (.script ((scripts r).drop (visitsOf r vs)).tail)) := by
  intro r' hr'
  rw [Plans.get_set, visitsOf_concat]
  by_cases hr : r' = r
  · subst hr
    simp [List.tail_drop]
  · simp [hr, Ne.symm hr, h r' hr']

theorem head?_getD_drop (scripts : Scripts) (r : Round) (i : Nat) :
    ((scripts r).drop i).head?.getD .done = scripts.event r i := by
  rw [List.head?_drop, event]

end Scripts

/-! ## Tours -/

/-- Visits that follow upon others, from a round on, so many at most. -/
structure Table.Tour (t : Table) (scripts : Scripts) (before : List Visit) (r : Round) (n : Nat)
    (vs : List Visit) :
    Prop where
  length_le : vs.length ≤ n
  first : ∀ v ∈ vs.head?, v.round = r
  /-- The visit of a round concludes the event of its script that has the number of the visit. -/
  scripted : ∀ (i : Nat) (h : i < vs.length),
    vs[i].event = scripts.event vs[i].round (visitsOf vs[i].round (before ++ vs.take i))
  /-- The next visit is where the event leads. -/
  accepted : ∀ (i : Nat) (h : i + 1 < vs.length),
  t.next vs[i].round vs[i].event = .ok vs[i + 1].round
  /-- There are fewer visits only if the last event leads nowhere. -/
  stops : vs.length < n → ∃ v ∈ vs.getLast?, ∃ fault, t.next v.round v.event = .error fault

namespace Table

variable {t : Table} {scripts : Scripts} {before vs : List Visit} {r r' : Round}
  {n : Nat} {fault : Error}

theorem tour_nil (t : Table) (scripts : Scripts) (before : List Visit) (r : Round) :
    t.Tour scripts before r 0 [] where
  length_le := Nat.le_refl 0
  first := nofun
  scripted := nofun
  accepted := nofun
  stops := nofun

/-- The tour ends with an event that the table does not accept. -/
theorem tour_refused (h : t.next r (scripts.event r (visitsOf r before)) = .error fault) :
    t.Tour scripts before r (n + 1) [⟨r, scripts.event r (visitsOf r before)⟩] where
  length_le := Nat.succ_le_succ (Nat.zero_le n)
  first := by simp
  scripted := by simp
  accepted := by simp
  stops _ := ⟨_, rfl, fault, h⟩

/-- The tour goes on where the table leads. -/
theorem Tour.cons (h : t.next r (scripts.event r (visitsOf r before)) = .ok r')
    (hrest : t.Tour scripts (before ++ [⟨r, scripts.event r (visitsOf r before)⟩]) r' n vs) :
    t.Tour scripts before r (n + 1) (⟨r, scripts.event r (visitsOf r before)⟩ :: vs) where
  length_le := Nat.succ_le_succ hrest.length_le
  first := by simp
  scripted i hi := by
    cases i with
    | zero => simp
    | succ i => simpa using hrest.scripted i (Nat.lt_of_succ_lt_succ hi)
  accepted i hi := by
    cases i with
    | zero =>
      have : 0 < vs.length := Nat.lt_of_succ_lt_succ hi
      have hfirst :=
        hrest.first vs[0] (by rw [List.head?_eq_getElem?, List.getElem?_eq_getElem]; rfl)
      simpa [hfirst] using h
    | succ i => simpa using hrest.accepted i (Nat.lt_of_succ_lt_succ hi)
  stops hlt := by
    obtain ⟨v, hv, hrefused⟩ := hrest.stops (Nat.lt_of_succ_lt_succ hlt)
    refine ⟨v, ?_, hrefused⟩
    rw [List.getLast?_cons, Option.mem_def.mp hv]
    rfl

end Table

namespace Engine

/-! ## Rounds -/

variable {scripts : Scripts} {t : Table} {g : Engine} {env : Environment Plans}

/-- A scripted round concludes the first event that its script has left, whatever its deadline. -/
theorem runRound_planned {es : List Event} (hrunning : g.frozen = false)
    (hstate : g.current ∈ t.states) (hplan : env.memory.get g.current = .script es) :
    g.runRound (plannedRegistry t) env =
      some ⟨(g.step (es.head?.getD .done)).1, (g.step (es.head?.getD .done)).2,
        { env with memory := env.memory.set g.current (.script es.tail) }⟩ := by
  have hattempt : g.attempt planned env = (.finished (.ok ()) 0,
      ⟨{ env with memory := env.memory.set g.current (.script es.tail) },
        some (es.head?.getD .done)⟩) := by
    simp only [attempt, Supervisor.supervise, planned, Work.run, Bench.fresh, hplan, Plan.actions,
      Plan.rest, Action.workAll, Action.work]
    rfl
  have hbehaviour : (plannedRegistry t).behaviour? g.current = some planned :=
    Registry.behaviour?_registerAll (.inl hstate)
  rw [runRound_of_behaviour hrunning hbehaviour, hattempt]
  rfl

/-! ## Runs -/

/-- How visits come to an end: with the replica in the round that the last one leads to, or frozen
where the table does not accept the last event.  All others are logged. -/
inductive EndsTour (t : Table) (vs : List Visit) :
    TransitionLog → Except Error Round → Engine → Prop where
  | complete {L : TransitionLog} {g : Engine} :
    (∀ v ∈ vs, ∃ r, t.next v.round v.event = .ok r) → L.map Change.visit = vs → g.frozen = false →
      EndsTour t vs L (.ok g.current) g
  | refused {L : TransitionLog} {g : Engine} {v : Visit} :
    v ∈ vs.getLast? → t.next v.round v.event = .error (.protocolViolation v.round v.event) →
      L.map Change.visit = vs.dropLast → g.current = v.round → g.frozen = true →
        EndsTour t vs L (.error (.protocolViolation v.round v.event)) g

theorem EndsTour.cons {vs : List Visit} {L : TransitionLog} {result : Except Error Round}
    {g : Engine} {c : Change Record} {r : Round} (h : EndsTour t vs L result g)
    (hnext : t.next c.visit.round c.visit.event = .ok r) :
    EndsTour t (c.visit :: vs) (c :: L) result g := by
  cases h with
  | complete haccepted hlog hrunning =>
    exact .complete (List.forall_mem_cons.mpr ⟨⟨r, hnext⟩, haccepted⟩)
      (congrArg (c.visit :: ·) hlog) hrunning
  | refused hv hfault hlog hcurrent hfrozen =>
    obtain ⟨w, vs, rfl⟩ := List.exists_cons_of_ne_nil (List.ne_nil_of_mem (List.mem_of_getLast? hv))
    refine .refused ?_ hfault (congrArg (c.visit :: ·) hlog) hcurrent hfrozen
    rwa [List.getLast?_cons_cons]

/-- No event of a replica that is told its events is injected. -/
theorem timedOut_of_mem_stepAllLog {es : List Event} (hrunning : g.frozen = false)
    {c : Change Record} (h : c ∈ g.stepAllLog es) : c.record.timedOut = false := by
  induction es generalizing g with
  | nil => cases h
  | cons e es ih =>
    rw [stepAllLog] at h
    cases hnext : g.table.next g.current e with
    | error fault =>
      have hstep : g.step e = (.error fault, g.freeze) := apply_of_next_error hrunning hnext false
      rw [hstep] at h
      cases h
    | ok r =>
      have hstep : g.step e = (.ok r, g.move ⟨g.current, e, r⟩ false) :=
        apply_of_next_ok hrunning hnext false
      rw [hstep] at h
      dsimp only at h
      rw [turnLog_move] at h
      rcases List.mem_cons.mp (List.singleton_append ▸ h) with rfl | h
      · rfl
      · exact ih (g := g.move _ false) hrunning h

/-- From any visits on, scripted rounds make a tour, and it is that of a replica that is told the
events. -/
theorem runFor_follows {before : List Visit} (env : Environment Plans) (n : Nat)
    (htable : g.table = t) (hrunning : g.frozen = false) (hstate : g.current ∈ t.states)
    (hleft : scripts.LeftBy t before env.memory) :
    ∃ run vs, g.runFor (plannedRegistry t) env n = some run ∧ t.Tour scripts before g.current n vs ∧
      g.stepAll (vs.map Visit.event) = (run.result, run.engine) ∧
      g.stepAllLog (vs.map Visit.event) = g.runForLog (plannedRegistry t) env n ∧
      EndsTour t vs (g.runForLog (plannedRegistry t) env n) run.result run.engine ∧
      run.environment.store = env.store ∧
      scripts.LeftBy t (before ++ vs) run.environment.memory := by
  induction n generalizing g env before with
  | zero =>
    refine ⟨_, [], rfl, t.tour_nil scripts before g.current, rfl, rfl,
      .complete nofun rfl hrunning, rfl, ?_⟩
    rwa [List.append_nil]
  | succ n ih =>
    have hround := runRound_planned hrunning hstate (hleft g.current hstate)
    rw [scripts.head?_getD_drop] at hround
    set v : Visit := ⟨g.current, scripts.event g.current (visitsOf g.current before)⟩ with hv
    rw [runFor, runForLog]
    have hleft' : scripts.LeftBy t (before ++ [v]) _ := hleft.concat v.event
    cases hnext : t.next v.round v.event with
    | error fault =>
      have hstep : g.step v.event = (.error fault, g.freeze) :=
        apply_of_next_error hrunning (htable ▸ hnext) false
      obtain ⟨-, rfl⟩ := Table.next_eq_error_iff.mp hnext
      rw [hround, hstep]
      refine ⟨_, [v], rfl, Table.tour_refused hnext, ?_, ?_,
        .refused rfl hnext rfl rfl rfl, rfl, hleft'⟩
      · rw [List.map_singleton, stepAll, hstep]
      · rw [List.map_singleton, stepAllLog, hstep]
    | ok r =>
      have hstep : g.step v.event = (.ok r, g.move ⟨g.current, v.event, r⟩ false) :=
        apply_of_next_ok hrunning (htable ▸ hnext) false
      have hr : r ∈ t.states := Table.mem_states_of_next hnext
      obtain ⟨run, vs, hrun, htour, hsteps, hlog, hends, hstore, hleft''⟩ :=
        ih (g := g.move ⟨g.current, v.event, r⟩ false) { env with memory := _ } htable
          hrunning hr hleft'
      rw [hround, hstep]
      refine ⟨run, v :: vs, hrun, htour.cons hnext, ?_, ?_, ?_, hstore, ?_⟩
      · rw [List.map_cons, stepAll, hstep]
        exact hsteps
      · rw [List.map_cons, stepAllLog, hstep]
        exact congrArg (turnLog _ _ ++ ·) hlog
      · dsimp only
        rw [turnLog_move]
        exact hends.cons (c := g.notice ⟨g.current, v.event, r⟩ false) hnext
      · rwa [List.append_assoc] at hleft''

/-- Whatever the scripts and the budgets are, the rounds of a replica that has just started make the
tour of its table by the scripts, as if it were told the events.  None of them is injected.  What is
left of each script is what comes after as many events as its round has visits. -/
theorem runFor_scripted {c : EngineConfig} {s : Supervisor} (hstart : start t c s = .ok g)
    (scripts : Scripts) (store : Store) (stopped : Bool) (n : Nat) :
    ∃ run vs, g.runFor (plannedRegistry t) ⟨store, stopped, scripts.plans t⟩ n = some run ∧
      t.Tour scripts [] (c.startState.getD t.defaultStart) n vs ∧
      g.stepAll (vs.map Visit.event) = (run.result, run.engine) ∧
      EndsTour t vs (g.runForLog (plannedRegistry t) ⟨store, stopped, scripts.plans t⟩ n)
        run.result run.engine ∧
      (∀ c ∈ g.runForLog (plannedRegistry t) ⟨store, stopped, scripts.plans t⟩ n,
        c.record.timedOut = false) ∧
      run.environment.store = store ∧
      ∀ r ∈ t.states, run.environment.memory.get r = .script ((scripts r).drop (visitsOf r vs)) ∧
        (run.environment.memory.get r).remaining = (scripts r).length - visitsOf r vs := by
  have hsetUp := start_setUp hstart
  have hstate : g.current ∈ t.states := Table.mem_states_of_isStart hsetUp.isStart
  obtain ⟨run, vs, hrun, htour, hsteps, hlog, hends, hstore, hleft⟩ :=
    runFor_follows ⟨store, stopped, scripts.plans t⟩ n hsetUp.table hsetUp.frozen hstate
      (scripts.leftBy_nil t)
  rw [hsetUp.current] at htour
  refine ⟨run, vs, hrun, htour, hsteps, hends, ?_, hstore, ?_⟩
  · intro c hc
    rw [← hlog] at hc
    exact timedOut_of_mem_stepAllLog hsetUp.frozen hc
  · intro r hr
    have hplan := hleft r hr
    rw [List.nil_append] at hplan
    refine ⟨hplan, ?_⟩
    rw [hplan, Plan.remaining, List.length_drop]

/-- One wait for a majority; the pause is to begin with an event that it does not accept. -/
def waitScripts : Scripts
  | .pullMemes => [.noMajority]
  | .resetAndPause => [.wait, .done]
  | _ => []

/-- With no time for either round, the items are pulled a second time by an event that is not in the
script, and the pause freezes the replica. -/
theorem waits_scripted :
    ∃ g run vs,
      start waits ⟨none, 1, 2⟩
        ((Supervisor.standard.withBudget .pullMemes 0).withBudget .resetAndPause 0) = .ok g ∧
      g.runFor (plannedRegistry waits) ⟨.empty, false, waitScripts.plans waits⟩ 10 = some run ∧
      waits.Tour waitScripts [] .pullMemes 10 vs ∧
      run.result = .error (.protocolViolation .resetAndPause .wait) ∧ run.engine.frozen = true ∧
      (waitScripts .pullMemes).length - visitsOf .pullMemes vs = 0 ∧
      (waitScripts .resetAndPause).length - visitsOf .resetAndPause vs = 1 := by
  obtain ⟨run, vs, hrun, htour, -, -, -, -, hleft⟩ :=
    @runFor_scripted waits _ ⟨none, 1, 2⟩
      ((Supervisor.standard.withBudget .pullMemes 0).withBudget .resetAndPause 0)
      rfl waitScripts .empty false 10
  have hpull := (hleft .pullMemes (by decide)).2
  have hpause := (hleft .resetAndPause (by decide)).2
  obtain rfl := Option.some.inj hrun
  exact ⟨_, _, vs, rfl, rfl, htour, rfl, rfl, hpull.symm, hpause.symm⟩

end Engine

end RoundWorkflow
