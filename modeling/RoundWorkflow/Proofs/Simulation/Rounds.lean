import RoundWorkflow.Simulation
import RoundWorkflow.CommandLine.Commands
import RoundWorkflow.Proofs.StoreCalls

/-!
# What simulated rounds do

The work of a simulated round is a tree that reads and writes the store and asks the
random source.  It always comes to the same end: it finishes at once, whatever the
deadline, and concludes the event that is decided from the waiting hash and the source
(`Simulation.decision`).  What it leaves behind is a function of the same things
(`Simulation.environmentAfter`).

The work could fail only by appending to a value that is no list.  The two lists of a
simulation begin as nothing and nothing else writes their keys, so they stay lists
(`Simulation.Filed`).  A simulated round is then the application of its decision
(`Simulation.runRound_registry`), and a simulation fails only when its run does.
-/

namespace RoundWorkflow

variable {σ : Type}

/-- A registry that gives several rounds one behaviour has it for those. -/
theorem Registry.behaviour?_registerAll {reg : Registry σ} {rs : List Round}
    {behaviour : Behaviour σ} {r : Round} (h : r ∈ rs ∨ reg.behaviour? r = some behaviour) :
    (reg.registerAll rs behaviour).behaviour? r = some behaviour := by
  rw [registerAll]
  induction rs generalizing reg with
  | nil => exact h.resolve_left List.not_mem_nil
  | cons r' rs ih =>
    refine ih ?_
    rcases h with h | h
    · rcases List.mem_cons.mp h with rfl | h
      · exact .inr (if_pos rfl)
      · exact .inl h
    · right
      change (if r = r' then some behaviour else reg.behaviour? r) = some behaviour
      split
      · rfl
      · exact h

theorem Work.run_try {change : Bench σ → Except Error (Bench σ)} {rest : Work σ}
    {deadline : Option Deadline} {now : Nat} {b b' : Bench σ} (h : change b = .ok b') :
    (Work.try_ change rest).run deadline now b = rest.run deadline now b' := by
  rw [try_, run, h]

namespace Simulation

/-! ## Decisions -/

/-- The hash that the work of a round finds waiting. -/
def awaited? (r : Round) (s : Store) : Option String :=
  if r = .actionPreparation then pendingHash? s else none

/-- The event that the work of a round concludes, and what is left of the source. -/
def decision [RandomSource σ] (t : Table) (r : Round) (env : Environment σ) : Event × σ :=
  match awaited? r env.store with
  | some _ => (.done, env.memory)
  | none => pick (choices t r) env.memory

/-- The store after a round that concluded an event. -/
def storeAfter (ctx : Context) (e : Event) (s : Store) : Store :=
  match awaited? ctx.round s with
  | some hash => (s.extend settledKey (.string hash)).write hashKey .null
  | none =>
    if ctx.round = .validateTransaction ∧
      e = .done then s.write hashKey (.string (hashOf ctx.period))
    else if ctx.round = .actionTweet ∧ e = .done then s.extend postsKey (.nat ctx.period)
    else s

/-- Whether a hash waits after a round that concluded an event. -/
def pendingAfter (r : Round) (e : Event) (pending : Bool) : Bool :=
  r ≠ .actionPreparation && (pending || (r = .validateTransaction && e = .done))

/-- What a round leaves behind. -/
def environmentAfter [RandomSource σ] (t : Table) (ctx : Context) (env : Environment σ) :
    Environment σ :=
  ⟨storeAfter ctx (decision t ctx.round env).1 env.store, env.stopped, (decision t ctx.round env).2⟩

/-- The settled hashes and the published posts are in lists. -/
structure Filed (s : Store) : Prop where
  settled : s.HoldsList settledKey
  posts : s.HoldsList postsKey

theorem filed_empty : Filed .empty := ⟨fun _ h => (nomatch h), fun _ h => (nomatch h)⟩

theorem Filed.storeAfter {s : Store} (h : Filed s) (ctx : Context) (e : Event) :
    Filed (storeAfter ctx e s) := by
  rw [Simulation.storeAfter]
  split
  · exact ⟨(h.settled.extend _).write (by decide), (h.posts.extend _).write (by decide)⟩
  · split
    · exact ⟨h.settled.write (by decide), h.posts.write (by decide)⟩
    · split
      · exact ⟨h.settled.extend _, h.posts.extend _⟩
      · exact h

/-- After a round a hash waits if one was recorded, or if one waited that nothing settled. -/
theorem isSome_pendingHash?_storeAfter (ctx : Context) (e : Event) (s : Store) :
    (pendingHash? (storeAfter ctx e s)).isSome = pendingAfter ctx.round e
      (pendingHash? s).isSome := by
  have hposts : hashKey ≠ postsKey := by decide
  rw [storeAfter, pendingAfter, awaited?]
  by_cases hprepare : ctx.round = .actionPreparation
  · rw [if_pos hprepare, decide_eq_false (not_not_intro hprepare), Bool.false_and]
    split
    · rw [pendingHash?, Store.read_write, if_pos rfl]
      rfl
    · simp [*]
  · rw [if_neg hprepare, decide_eq_true hprepare, Bool.true_and]
    dsimp only
    rw [← Bool.decide_and]
    split
    · rw [pendingHash?, Store.read_write, if_pos rfl]
      simp [*]
    · split
      · rw [pendingHash?, Store.extend, Store.read_write, if_neg hposts, ← pendingHash?]
        simp [*]
      · simp [*]

/-! ## Sources that are told what to choose -/

/-- A source that finds nothing likely and answers with the numbers of a list. -/
structure Decisions where
  /-- The numbers left. -/
  numbers : List Nat

instance : RandomSource Decisions where
  likely s := (false, s)
  below bound h s := (⟨s.numbers.headD 0 % bound, Nat.mod_lt _ h⟩, ⟨s.numbers.tail⟩)

/-- Whatever may be picked is picked after some number. -/
theorem Decisions.exists_pick {choices : List Event} {e : Event} (h : e ∈ choices) :
    ∃ i, ∀ rest, pick choices (⟨i :: rest⟩ : Decisions) = (e, ⟨rest⟩) := by
  obtain ⟨i, hi, rfl⟩ := List.mem_iff_getElem.mp h
  refine ⟨i, fun rest => ?_⟩
  cases choices with
  | nil => cases h
  | cons x xs =>
    have hchoose : RandomSource.choose x xs (⟨i :: rest⟩ : Decisions) = ((x :: xs)[i], ⟨rest⟩) := by
      have hmod : i % (x :: xs).length = i := Nat.mod_eq_of_lt hi
      simp only [RandomSource.choose, RandomSource.below, List.headD_cons, List.tail_cons,
        Fin.getElem_fin, hmod]
    rw [pick]
    split
    · exact hchoose
    · exact hchoose

/-! ## Rounds -/

variable {deadline : Option Deadline} {now : Nat} {ctx : Context} {env : Environment σ}

theorem settle_run {hash : String} (h : Filed env.store) :
    (settle ctx hash).run deadline now (.fresh env) =
      (.finished (.ok ()) now,
        ⟨{ env with store := (env.store.extend settledKey (.string hash)).write hashKey .null },
          some .done⟩) := by
  have happend : env.store.append settledKey (.string hash) = _ :=
    Store.append_of_holdsList h.settled
  rw [settle, Work.run_try (by rw [Bench.fresh, happend]; rfl)]
  rfl

theorem conclude_run {e : Event} (h : Filed env.store)
    (hnone : awaited? ctx.round env.store = none) :
    (conclude ctx e).run deadline now (.fresh env) =
      (.finished (.ok ()) now, ⟨{ env with store := storeAfter ctx e env.store }, some e⟩) := by
  rw [conclude, storeAfter, hnone]
  dsimp only
  split
  · rfl
  · split
    · have happend : env.store.append postsKey (.nat ctx.period) = _ :=
        Store.append_of_holdsList h.posts
      rw [Work.run_try (by rw [Bench.fresh, happend]; rfl)]
      rfl
    · rfl

variable [RandomSource σ]

/-- Without a waiting hash the event is picked. -/
theorem invented_run (t : Table) (h : Filed env.store)
    (hnone : awaited? ctx.round env.store = none) :
    (Work.act (fun b => b.withMemory (pick (choices t ctx.round) b.environment.memory).2)
        fun b => conclude ctx (pick (choices t ctx.round) b.environment.memory).1 : Work σ).run
          deadline now
          (.fresh env) =
      (.finished (.ok ()) now, ⟨environmentAfter t ctx env,
        some (decision t ctx.round env).1⟩) := by
  rw [environmentAfter, decision, hnone]
  exact conclude_run h hnone

/-- Simulated work finishes at once, having concluded its decision. -/
theorem behaviour_run (t : Table) (h : Filed env.store) :
    (behaviour t ctx).run deadline now (.fresh env) =
      (.finished (.ok ()) now, ⟨environmentAfter t ctx env,
        some (decision t ctx.round env).1⟩) := by
  rw [behaviour]
  -- Only the preparation of an action looks for a hash.
  by_cases hprepare : ctx.round = .actionPreparation
  · have hawaited : awaited? ctx.round env.store = pendingHash? env.store := if_pos hprepare
    rw [if_pos hprepare, Work.run]
    simp only [Bench.fresh]
    cases hpending : pendingHash? env.store with
    | some hash =>
      rw [environmentAfter, decision, storeAfter, hawaited, hpending]
      exact settle_run h
    | none => exact invented_run t h (hawaited.trans hpending)
  · rw [if_neg hprepare]
    exact invented_run t h (if_neg hprepare)

/-- A simulated round applies its decision. -/
theorem runRound_registry {g : Engine} (hrunning : g.frozen = false)
    (hstate : g.current ∈ g.table.states) (h : Filed env.store) :
    g.runRound (registry g.table) env =
      some ⟨(g.apply (decision g.table g.current env).1 false).1,
        (g.apply (decision g.table g.current env).1 false).2,
        environmentAfter g.table ⟨g.current, g.period⟩ env⟩ := by
  have hget : (registry g.table : Registry σ).get g.current = .ok (behaviour g.table) := by
    rw [Registry.get, registry, Registry.behaviour?_registerAll (.inl hstate)]
  rw [Engine.runRound, if_neg (Bool.eq_false_iff.mp hrunning), hget]
  simp only [Supervisor.supervise, behaviour_run g.table h]
  rfl

/-! ## Runs -/

/-- The run of a simulation is a run of the replica. -/
theorem runFor_eq_run (g : Engine) (steps : Nat) (source : σ) :
    g.runFor (registry g.table) ⟨.empty, false, source⟩ steps = some (run g steps source) :=
  (Option.some_get _).symm

end Simulation

variable [RandomSource σ] {g : Engine} {steps : Nat} {source : σ}

theorem simulate_eq_ok_iff {sim : Simulation} :
    simulate g steps source = .ok sim ↔
      (∃ r, (Simulation.run g steps source).result = .ok r) ∧
        sim = ⟨(Simulation.run g steps source).engine.history.records.map Report.recordRow,
          (Simulation.run g steps source).engine.current,
          (Simulation.run g steps source).engine.period,
          Simulation.signalsSeen (Simulation.run g steps source).engine.channel g.channel.subscribe,
          (Simulation.run g steps source).environment.store⟩ := by
  rw [simulate]
  cases hresult : (Simulation.run g steps source).result with
  | error fault => simp [bind, Except.bind]
  | ok r =>
    simp [bind, Except.bind, pure, Except.pure, eq_comm]

theorem simulate_eq_error_iff {fault : Error} :
    simulate g steps source = .error fault ↔
      (Simulation.run g steps source).result = .error fault := by
  rw [simulate]
  cases (Simulation.run g steps source).result <;> simp [bind, Except.bind, pure, Except.pure]

/-- A command simulates a replica that is launched as configured. -/
theorem Command.simulation_eq {t : Table} {c : Configuration} {config : EngineConfig}
    {s : Supervisor}
    (steps seed : UInt64) (hconfig : c.engineConfig = .ok config) (hs : c.supervisor = .ok s) :
    Command.simulation t c steps seed =
      match Engine.launch t config s with
      | .ready g =>
        (RoundWorkflow.simulate g steps.toNat (Generator.ofSeed seed)).mapError .workflow
      | .refused fault => .error (.workflow fault)
      | .aborted => .error .aborted := by
  rw [Command.simulation, hconfig, hs]
  dsimp only [Except.mapError, bind, Except.bind, Engine.launch, Engine.start]
  cases t.isStart (config.startState.getD t.defaultStart) with
  | false => rfl
  | true => cases Channel.isMadeFor config.channelCapacity <;> rfl

end RoundWorkflow
