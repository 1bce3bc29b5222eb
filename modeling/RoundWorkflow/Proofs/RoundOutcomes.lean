import RoundWorkflow.Proofs.Deadlines

/-!
# How a round ends

Three things bear on how a round ends: whether its work has concluded it, what the work returns, and
whether the deadline comes first.  They are independent of each other.  Work may conclude a round
and then fail, stall, or conclude it again.

Work is given a handle.  It can do what it likes to its environment, and read the outcome, but as
long as it keeps the handle only conclusions set the outcome.  `Conduct` is work of this kind, where
every conclusion can be told from other acts and goes on by its answer; all planned work is
(`Registry.exists_ofConducts_planned`).  `Conduct.Reaches` says how far it gets in some time, and
which conclusions it tries on the way.  The first of them counts, and all others are rejected
(`Conduct.Reaches.onlyFirstCounts`).

The main statement is `Engine.round_outcomes`: a round ends in one of six ways (`Engine.RoundEnds`).
What was concluded matters in one of them only, when the work returns in time and without an error.
-/

namespace RoundWorkflow

variable {σ : Type}

/-! ## Conclusions -/

/-- An attempt to conclude a round. -/
structure Conclusion (σ : Type) where
  event : Event
  /-- The bench before it. -/
  before : Bench σ
  /-- What the attempt is answered with. -/
  answer : Except Error Unit
  /-- The bench after it. -/
  after : Bench σ

/-- Tries to conclude a round. -/
def Bench.tryConclude (b : Bench σ) (r : Round) (e : Event) : Conclusion σ :=
  match b.conclude r e with
  | .ok b' => ⟨e, b, .ok (), b'⟩
  | .error fault => ⟨e, b, .error fault, b⟩

theorem Bench.tryConclude_of_none {b : Bench σ} (h : b.outcome = none) (r : Round) (e : Event) :
    b.tryConclude r e = ⟨e, b, .ok (), { b with outcome := some e }⟩ := by
  rw [tryConclude, conclude, h]

theorem Bench.tryConclude_of_some {b : Bench σ} {first : Event} (h : b.outcome = some first)
    (r : Round) (e : Event) :
    b.tryConclude r e = ⟨e, b, .error (.alreadyConcluded r), b⟩ := by
  rw [tryConclude, conclude, h]

/-- A conclusion was rejected, and changed nothing. -/
structure Conclusion.Rejected (r : Round) (c : Conclusion σ) : Prop where
  answer : c.answer = .error (.alreadyConcluded r)
  after : c.after = c.before

/-- The first of the conclusions that were tried is the outcome, and all others were rejected. -/
structure OnlyFirstCounts (r : Round) (cs : List (Conclusion σ)) (b : Bench σ) : Prop where
  outcome : b.outcome = cs.head?.map Conclusion.event
  first : ∀ c ∈ cs.head?, c.answer = .ok () ∧ c.after = { c.before with outcome := some c.event }
  later : ∀ c ∈ cs.tail, c.Rejected r

/-! ## Work with a handle -/

/-- Work that concludes its round through a handle. -/
inductive Conduct (σ : Type) where
  /-- The work ends. -/
  | finish (result : Except Error Unit)
  /-- The work waits forever. -/
  | stall
  /-- The work waits for some milliseconds. -/
  | sleep (milliseconds : Nat) (rest : Conduct σ)
  /-- The work changes its environment and goes on as the bench before the change tells. -/
  | act (change : Bench σ → Environment σ) (next : Bench σ → Conduct σ)
  /-- The work tries to conclude the round and goes on as it is answered. -/
  | conclude (event : Event) (next : Except Error Unit → Conduct σ)

namespace Conduct

/-- The work, in a round. -/
def work (r : Round) : Conduct σ → Work σ
  | .finish result => .finish result
  | .stall => .stall
  | .sleep ms rest => .sleep ms (rest.work r)
  | .act change next => .act (fun b => { b with environment := change b }) fun b => (next b).work r
  | .conclude e next =>
    .act (fun b => (b.tryConclude r e).after) fun b => (next (b.tryConclude r e).answer).work r

/-- In a round, work that is left alone gets somewhere in some time.  It has tried some conclusions
on the way, and leaves a bench behind. -/
inductive Reaches (r : Round) :
    Conduct σ → Bench σ → Nat → List (Conclusion σ) → Conduct σ → Bench σ → Prop where
  | here {c : Conduct σ} {b : Bench σ} : Reaches r c b 0 [] c b
  | sleep {ms T : Nat} {rest c : Conduct σ} {cs : List (Conclusion σ)} {b b' : Bench σ} :
    Reaches r rest b T cs c b' → Reaches r (.sleep ms rest) b (ms + T) cs c b'
  | act {T : Nat} {change : Bench σ → Environment σ} {next : Bench σ → Conduct σ} {c : Conduct σ}
    {cs : List (Conclusion σ)} {b b' : Bench σ} :
    Reaches r (next b) { b with environment := change b } T cs c b' →
      Reaches r (.act change next) b T cs c b'
  | conclude {T : Nat} {e : Event} {next : Except Error Unit → Conduct σ} {c : Conduct σ}
    {cs : List (Conclusion σ)} {b b' : Bench σ} :
    Reaches r (next (b.tryConclude r e).answer) (b.tryConclude r e).after T cs c b' →
      Reaches r (.conclude e next) b T (b.tryConclude r e :: cs) c b'

/-- Work that is where it is at some moment is asleep when a time comes, or stalled. -/
def SleepsPast (time now : Nat) : Conduct σ → Prop
  | .stall => True
  | .sleep ms _ => time < now + ms
  | .finish _ | .act _ _ | .conclude _ _ => False

variable {r : Round} {c c' : Conduct σ} {b b' : Bench σ} {T : Nat} {cs : List (Conclusion σ)}

/-- Once a round is concluded, every conclusion is rejected. -/
theorem Reaches.rejected (h : c.Reaches r b T cs c' b') {first : Event}
    (hfirst : b.outcome = some first) :
    b'.outcome = some first ∧ ∀ c ∈ cs, c.Rejected r := by
  induction h with
  | here => exact ⟨hfirst, fun _ hc => absurd hc List.not_mem_nil⟩
  | sleep _ ih => exact ih hfirst
  | act _ ih => exact ih hfirst
  | @conclude T e next c cs b b' _ ih =>
    rw [Bench.tryConclude_of_some hfirst] at ih ⊢
    obtain ⟨houtcome, hrejected⟩ := ih hfirst
    exact ⟨houtcome, List.forall_mem_cons.mpr ⟨⟨rfl, rfl⟩, hrejected⟩⟩

/-- The first conclusion of a round counts, and no other does. -/
theorem Reaches.onlyFirstCounts (h : c.Reaches r b T cs c' b') (hfresh : b.outcome = none) :
    OnlyFirstCounts r cs b' := by
  induction h with
  | here => exact ⟨hfresh, fun _ hc => (nomatch hc), fun _ hc => absurd hc List.not_mem_nil⟩
  | sleep _ ih => exact ih hfresh
  | act _ ih => exact ih hfresh
  | @conclude T e next c cs b b' h _ =>
    rw [Bench.tryConclude_of_none hfresh] at h ⊢
    obtain ⟨houtcome, hrejected⟩ := h.rejected rfl
    refine ⟨houtcome, fun c hc => ?_, hrejected⟩
    cases hc
    exact ⟨rfl, rfl⟩

/-! ## Work and its deadline -/

/-- What work reaches before its deadline, it reaches under its deadline too. -/
theorem Reaches.run {deadline : Option Deadline} (h : c.Reaches r b T cs c' b') (now : Nat)
    (hin : ∀ d, deadline = some d → now + T ≤ d.time) :
    (c.work r).run deadline now b = (c'.work r).run deadline (now + T) b' := by
  induction h generalizing now with
  | here => rfl
  | @sleep ms T rest c cs b b' _ ih =>
    have hrest := ih (now + ms) fun d hd => by
      have hle := hin d hd
      omega
    rw [Nat.add_assoc] at hrest
    cases deadline with
    | none => exact hrest
    | some d =>
      have hle := hin d rfl
      rw [work, Work.run, if_pos (by omega)]
      exact hrest
  | act _ ih => exact ih now hin
  | conclude _ ih => exact ih now hin

theorem SleepsPast.run {d : Deadline} {now : Nat} (h : c.SleepsPast d.time now) (b : Bench σ) :
    (c.work r).run (some d) now b = (.timedOut d.event d.time, b) := by
  cases c with
  | stall => rfl
  | sleep ms rest => exact if_neg (Nat.not_le_of_lt h)
  | finish _ => cases h
  | act _ _ => cases h
  | conclude _ _ => cases h

/-- Work that is left alone ends or stalls. -/
theorem exists_reaches_end (r : Round) (c : Conduct σ) (b : Bench σ) :
    ∃ T cs c' b', c.Reaches r b T cs c' b' ∧ ((∃ result, c' = .finish result) ∨ c' = .stall) := by
  induction c generalizing b with
  | finish result => exact ⟨0, [], _, b, .here, .inl ⟨result, rfl⟩⟩
  | stall => exact ⟨0, [], _, b, .here, .inr rfl⟩
  | sleep ms rest ih =>
    obtain ⟨T, cs, c', b', hreaches, hends⟩ := ih b
    exact ⟨ms + T, cs, c', b', hreaches.sleep, hends⟩
  | act change next ih =>
    obtain ⟨T, cs, c', b', hreaches, hends⟩ := ih b { b with environment := change b }
    exact ⟨T, cs, c', b', hreaches.act, hends⟩
  | conclude e next ih =>
    obtain ⟨T, cs, c', b', hreaches, hends⟩ :=
      ih (b.tryConclude r e).answer (b.tryConclude r e).after
    exact ⟨T, _, c', b', hreaches.conclude, hends⟩

/-- Up to any time, work ends, or it gets to where it sleeps or stalls when the time comes. -/
theorem exists_reaches_by (r : Round) (time : Nat) (c : Conduct σ) (now : Nat) (b : Bench σ)
    (hnow : now ≤ time) :
    ∃ T cs c' b', c.Reaches r b T cs c' b' ∧ now + T ≤ time ∧
      ((∃ result, c' = .finish result) ∨ c'.SleepsPast time (now + T)) := by
  induction c generalizing now b with
  | finish result => exact ⟨0, [], _, b, .here, hnow, .inl ⟨result, rfl⟩⟩
  | stall => exact ⟨0, [], _, b, .here, hnow, .inr trivial⟩
  | sleep ms rest ih =>
    by_cases hsleep : now + ms ≤ time
    · obtain ⟨T, cs, c', b', hreaches, hin, hends⟩ := ih (now + ms) b hsleep
      rw [Nat.add_assoc] at hin hends
      exact ⟨ms + T, cs, c', b', hreaches.sleep, hin, hends⟩
    · exact ⟨0, [], _, b, .here, hnow, .inr (Nat.lt_of_not_le hsleep)⟩
  | act change next ih =>
    obtain ⟨T, cs, c', b', hreaches, hends⟩ := ih b now { b with environment := change b } hnow
    exact ⟨T, cs, c', b', hreaches.act, hends⟩
  | conclude e next ih =>
    obtain ⟨T, cs, c', b', hreaches, hends⟩ :=
      ih (b.tryConclude r e).answer now (b.tryConclude r e).after hnow
    exact ⟨T, _, c', b', hreaches.conclude, hends⟩

end Conduct

/-- The registry of work that concludes its rounds through a handle. -/
def Registry.ofConducts (conduct? : Round → Option (Context → Conduct σ)) : Registry σ :=
  ⟨fun r => (conduct? r).map fun conduct ctx => (conduct ctx).work ctx.round⟩

/-! ## Planned work -/

/-- Work that concludes a round through a handle. -/
def Work.IsConduct (r : Round) (w : Work σ) : Prop := ∃ c : Conduct σ, c.work r = w

namespace Work.IsConduct

variable {r : Round} {rest : Work σ}

theorem finish (r : Round) (result : Except Error Unit) :
    (Work.finish result : Work σ).IsConduct r :=
  ⟨.finish result, rfl⟩

theorem sleep (ms : Nat) (h : rest.IsConduct r) : (Work.sleep ms rest).IsConduct r := by
  obtain ⟨c, rfl⟩ := h
  exact ⟨.sleep ms c, rfl⟩

/-- An act that leaves the outcome alone. -/
theorem act {change : Bench σ → Bench σ} {next : Bench σ → Work σ}
    (hchange : ∀ b, (change b).outcome = b.outcome)
    (h : ∀ b, (next b).IsConduct r) : (Work.act change next).IsConduct r := by
  choose next' hnext using h
  have hsame : (fun b => { b with environment := (change b).environment }) = change := by
    funext b
    rw [← hchange b]
  refine ⟨.act (fun b => (change b).environment) next', ?_⟩
  rw [Conduct.work, hsame, funext hnext]

/-- A conclusion that may be rejected. -/
theorem tryConclude (e : Event) (h : rest.IsConduct r) :
    (Work.act (fun b => { b with outcome := b.outcome <|> some e }) fun _ => rest).IsConduct r := by
  obtain ⟨c, rfl⟩ := h
  refine ⟨.conclude e fun _ => c, ?_⟩
  rw [Conduct.work]
  congr 1
  funext b
  obtain ⟨environment, outcome⟩ := b
  cases outcome <;> rfl

/-- A conclusion that must not be rejected. -/
theorem mustConclude (e : Event) (h : rest.IsConduct r) :
    (Work.try_ (fun b => b.conclude r e) rest).IsConduct r := by
  obtain ⟨c, rfl⟩ := h
  refine ⟨.conclude e fun | .ok _ => c | .error fault => .finish (.error fault), ?_⟩
  rw [Conduct.work, Work.try_]
  congr 1 <;> funext b <;> obtain ⟨environment, outcome⟩ := b <;> cases outcome <;> rfl

/-- A change of the store that may fail. -/
theorem tryStore {α : Type} (change : Store → Except Error (α × Store)) (h : rest.IsConduct r) :
    (Work.try_ (fun b => (change b.environment.store).map fun p => b.withStore p.2) rest).IsConduct
      r := by
  refine act (fun b => ?_) fun b => ?_ <;> dsimp only
  · cases change b.environment.store <;> rfl
  · cases change b.environment.store with
    | ok p => exact h
    | error fault => exact finish r _

end Work.IsConduct

namespace Action

mutual

theorem work_isConduct (ctx : Context) {rest : Work σ} (h : rest.IsConduct ctx.round) :
    ∀ a : Action, (a.work ctx rest).IsConduct ctx.round
  | .conclude e => .mustConclude e h
  | .tryConclude e => .tryConclude e h
  | .write _ _ => .act (fun _ => rfl) fun _ => h
  | .append key value => .tryStore (fun s => s.append key value) h
  | .appendPeriod key => .tryStore (fun s => s.append key (.nat ctx.period)) h
  | .appendRound key => .tryStore (fun s => s.append key (.string ctx.round.name)) h
  | .sleep ms => .sleep ms h
  | .stall => ⟨.stall, rfl⟩
  | .fail cause => .finish _ (.error cause)
  | .finish => .finish _ (.ok ())
  | .stop => .act (fun _ => rfl) fun _ => h
  | .ifHas key present absent => by
    refine .act (fun _ => rfl) fun b => ?_
    split
    · exact workAll_isConduct ctx h present
    · exact workAll_isConduct ctx h absent

theorem workAll_isConduct (ctx : Context) {rest : Work σ} (h : rest.IsConduct ctx.round) :
    ∀ as : List Action, (workAll ctx rest as).IsConduct ctx.round
  | [] => h
  | a :: as => work_isConduct ctx (workAll_isConduct ctx h as) a

end

end Action

theorem planned_isConduct (ctx : Context) : (planned ctx).IsConduct ctx.round :=
  .act (fun _ => rfl) fun _ => Action.workAll_isConduct ctx (.finish _ _) _

namespace Registry

theorem exists_ofConducts {reg : Registry σ}
    (h : ∀ r behaviour, reg.behaviour? r = some behaviour → ∀ ctx : Context,
      (behaviour ctx).IsConduct ctx.round) :
    ∃ conduct?, reg = ofConducts conduct? := by
  have hround : ∀ r, ∃ conduct : Option (Context → Conduct σ),
      reg.behaviour? r = conduct.map fun conduct ctx => (conduct ctx).work ctx.round := by
    intro r
    cases hr : reg.behaviour? r with
    | none => exact ⟨none, rfl⟩
    | some behaviour =>
      choose conduct hconduct using h r behaviour hr
      exact ⟨some conduct, congrArg some (funext fun ctx => (hconduct ctx).symm)⟩
  choose conduct? hconduct? using hround
  exact ⟨conduct?, congrArg mk (funext hconduct?)⟩

theorem of_registerAll {reg : Registry σ} {rs : List Round} {behaviour b : Behaviour σ} {r : Round}
    (h : (reg.registerAll rs behaviour).behaviour? r = some b) :
    b = behaviour ∨ reg.behaviour? r = some b := by
  rw [registerAll] at h
  induction rs generalizing reg with
  | nil => exact .inr h
  | cons r' rs ih =>
    rcases ih h with heq | hrest
    · exact .inl heq
    · dsimp only [register] at hrest
      split at hrest
      · exact .inl (Option.some.inj hrest).symm
      · exact .inr hrest

/-- Planned work has nothing but its handle. -/
theorem exists_ofConducts_planned (t : Table) :
    ∃ conduct?, plannedRegistry t = ofConducts conduct? := by
  refine exists_ofConducts fun r behaviour hr ctx => ?_
  rcases of_registerAll hr with rfl | hempty
  · exact planned_isConduct ctx
  · cases hempty

end Registry

namespace Engine

/-! ## Rounds -/

variable {g : Engine} {conduct? : Round → Option (Context → Conduct σ)} {env : Environment σ}
  {T : Nat} {cs : List (Conclusion σ)} {c : Conduct σ} {b : Bench σ}

/-- The work of the current round gets somewhere in some time. -/
structure Performs (g : Engine) (conduct? : Round → Option (Context → Conduct σ))
    (env : Environment σ) (T : Nat)
    (cs : List (Conclusion σ)) (c : Conduct σ) (b : Bench σ) : Prop where
  running : g.frozen = false
  reaches : ∃ conduct, conduct? g.current = some conduct ∧
    (conduct ⟨g.current, g.period⟩).Reaches g.current (.fresh env) T cs c b

/-- No deadline has passed by then. -/
def InTime (g : Engine) (T : Nat) : Prop :=
  ∀ d, g.supervisor.deadline? g.current 0 = some d → T ≤ d.time

theorem inTime_of_none (h : g.supervisor.deadline? g.current 0 = none) (T : Nat) : g.InTime T :=
  fun _ hd => nomatch h.symm.trans hd

theorem inTime_of_some {d : Deadline} (h : g.supervisor.deadline? g.current 0 = some d)
    (hin : T ≤ d.time) :
    g.InTime T := by
  intro d' hd'
  cases h.symm.trans hd'
  exact hin

/-- The ways in which a round ends. -/
inductive RoundEnds (g : Engine) (conduct? : Round → Option (Context → Conduct σ))
    (env : Environment σ) :
    Run σ Round → Prop where
  /-- A frozen replica does not look at any work. -/
  | refused : g.frozen = true → RoundEnds g conduct? env ⟨.error (.frozen g.current), g, env⟩
  | missing : g.frozen = false → conduct? g.current = none →
    RoundEnds g conduct? env ⟨.error (.missingBehaviour g.current), g.freeze, env⟩
  /-- The work returns in time, and what it concluded first is the event of the round. -/
  | concluded {T : Nat} {first : Conclusion σ} {later : List (Conclusion σ)} {b : Bench σ} :
    g.Performs conduct? env T (first :: later) (.finish (.ok ())) b → g.InTime T →
      RoundEnds g conduct? env ⟨(g.step first.event).1, (g.step first.event).2, b.environment⟩
  /-- The work returns in time and has concluded nothing. -/
  | unconcluded {T : Nat} {b : Bench σ} :
    g.Performs conduct? env T [] (.finish (.ok ())) b → g.InTime T →
      RoundEnds g conduct? env ⟨.error (.noOutcome g.current), g.freeze, b.environment⟩
  /-- The work fails in time, whatever it has concluded. -/
  | failed {T : Nat} {cs : List (Conclusion σ)} {cause : Error} {b : Bench σ} :
    g.Performs conduct? env T cs (.finish (.error cause)) b → g.InTime T →
      RoundEnds g conduct? env ⟨.error (.behaviourFailed g.current cause), g.freeze, b.environment⟩
  /-- The deadline passes first, whatever the work has concluded. -/
  | timedOut {T : Nat} {cs : List (Conclusion σ)} {c : Conduct σ} {b : Bench σ}
    {d : Deadline} {e : Event} :
    g.supervisor.deadline? g.current 0 = some d → g.current.timeoutEvent = some e →
      g.Performs conduct? env T cs c b → T ≤ d.time → c.SleepsPast d.time T →
        RoundEnds g conduct? env ⟨(g.apply e true).1, (g.apply e true).2, b.environment⟩

/-- A round goes by what its work comes to from where it has got in time. -/
theorem Performs.runRound_eq {ending : Ending} {b' : Bench σ} (h : g.Performs conduct? env T cs c b)
    (hin : g.InTime T)
    (hrun : (c.work g.current).run (g.supervisor.deadline? g.current 0) T b = (ending, b')) :
    g.runRound (.ofConducts conduct?) env = (eventOf g.current b' ending).map fun
      | .ok (e, timedOut) => ⟨(g.apply e timedOut).1, (g.apply e timedOut).2, b'.environment⟩
      | .error fault => ⟨.error fault, g.freeze, b'.environment⟩ := by
  obtain ⟨hrunning, conduct, hconduct, hreaches⟩ := h
  have hbehaviour : (Registry.ofConducts conduct?).behaviour? g.current =
      some fun ctx => (conduct ctx).work ctx.round := congrArg (Option.map _) hconduct
  have hreached := hreaches.run 0 fun d hd => (Nat.zero_add T).symm ▸ hin d hd
  rw [Nat.zero_add, hrun] at hreached
  have hattempt : g.attempt (fun ctx => (conduct ctx).work ctx.round) env = (ending, b') := hreached
  have hround : g.runRound _ env = _ := runRound_of_behaviour hrunning hbehaviour
  rw [hattempt] at hround
  exact hround

/-- The outcome of a round is the first conclusion that its work tried. -/
theorem Performs.result_eq (h : g.Performs conduct? env T cs c b) :
    b.result g.current =
      match cs with
      | [] => .error (.noOutcome g.current)
      | first :: _ => .ok first.event := by
  obtain ⟨-, conduct, -, hreaches⟩ := h
  rw [Bench.result, (hreaches.onlyFirstCounts rfl).outcome]
  cases cs <;> rfl

theorem RoundEnds.runRound_eq {run : Run σ Round} (h : g.RoundEnds conduct? env run) :
    g.runRound (.ofConducts conduct?) env = some run := by
  cases h with
  | refused hfrozen => rw [runRound, if_pos hfrozen]
  | missing hrunning hnone => exact runRound_of_missing hrunning (congrArg (Option.map _) hnone)
  | concluded h hin =>
    rw [h.runRound_eq hin rfl, eventOf, h.result_eq]
    rfl
  | unconcluded h hin =>
    rw [h.runRound_eq hin rfl, eventOf, h.result_eq]
    rfl
  | failed h hin => exact h.runRound_eq hin rfl
  | @timedOut T cs c b d e hdeadline htimeout h hin hsleeps =>
    have hevent : e = d.event :=
      Option.some.inj (htimeout.symm.trans (Supervisor.event_of_deadline? hdeadline))
    rw [hevent]
    exact h.runRound_eq (inTime_of_some hdeadline hin) (hdeadline ▸ hsleeps.run b)

theorem Performs.runRound_eq_none (h : g.Performs conduct? env T cs .stall b)
    (hdeadline : g.supervisor.deadline? g.current 0 = none) :
    g.runRound (.ofConducts conduct?) env = none := by
  have hrun : (Conduct.stall.work g.current).run none T b = (.never, b) := rfl
  exact h.runRound_eq (inTime_of_none hdeadline T) (hdeadline ▸ hrun)

/-- Work that returns in time ends the round in one of the ways. -/
theorem Performs.exists_roundEnds {result : Except Error Unit}
    (h : g.Performs conduct? env T cs (.finish result) b)
    (hin : g.InTime T) : ∃ run, g.RoundEnds conduct? env run := by
  cases result with
  | error cause => exact ⟨_, .failed h hin⟩
  | ok =>
    cases cs with
    | nil => exact ⟨_, .unconcluded h hin⟩
    | cons first later => exact ⟨_, .concluded h hin⟩

/-- A round ends in one of the ways, or its work stalls and there is no deadline. -/
theorem exists_roundEnds (g : Engine) (conduct? : Round → Option (Context → Conduct σ))
    (env : Environment σ) :
    (∃ run, g.RoundEnds conduct? env run) ∨
      g.supervisor.deadline? g.current 0 = none ∧
      ∃ T cs b, g.Performs conduct? env T cs .stall b := by
  cases hfrozen : g.frozen with
  | true => exact .inl ⟨_, .refused hfrozen⟩
  | false =>
    cases hconduct : conduct? g.current with
    | none => exact .inl ⟨_, .missing hfrozen hconduct⟩
    | some conduct =>
      cases hdeadline : g.supervisor.deadline? g.current 0 with
      | none =>
        obtain ⟨T, cs, c, b, hreaches, ⟨result, rfl⟩ | rfl⟩ :=
          Conduct.exists_reaches_end g.current (conduct ⟨g.current, g.period⟩) (.fresh env)
        · exact .inl (Performs.exists_roundEnds ⟨hfrozen, conduct, hconduct,
            hreaches⟩ (inTime_of_none hdeadline T))
        · exact .inr ⟨rfl, T, cs, b, hfrozen, conduct, hconduct, hreaches⟩
      | some d =>
        obtain ⟨T, cs, c, b, hreaches, hle, hends⟩ := Conduct.exists_reaches_by g.current d.time
          (conduct ⟨g.current, g.period⟩) 0 (.fresh env) (Nat.zero_le _)
        rw [Nat.zero_add] at hle hends
        have hperforms : g.Performs conduct? env T cs c b := ⟨hfrozen, conduct, hconduct, hreaches⟩
        rcases hends with ⟨result, rfl⟩ | hsleeps
        · exact .inl (hperforms.exists_roundEnds (inTime_of_some hdeadline hle))
        · exact .inl ⟨_,
            .timedOut hdeadline (Supervisor.event_of_deadline? hdeadline) hperforms hle hsleeps⟩

/-- A round ends in exactly one of the six ways, unless its work stalls and there is no deadline.
However far its work gets, only the first of its conclusions counts.  A failure of the work is
reported in the words of the work. -/
theorem round_outcomes (g : Engine) (conduct? : Round → Option (Context → Conduct σ))
    (env : Environment σ) :
    (∀ run, g.runRound (.ofConducts conduct?) env = some run ↔ g.RoundEnds conduct? env run) ∧
      (g.runRound (.ofConducts conduct?) env = none ↔
        g.supervisor.deadline? g.current 0 = none ∧
        ∃ T cs b, g.Performs conduct? env T cs .stall b) ∧
      (∀ T cs c b, g.Performs conduct? env T cs c b → OnlyFirstCounts g.current cs b) ∧
      ∀ cause : Error, (Error.behaviourFailed g.current cause).message =
        "Behaviour for " ++ g.current.name ++ " failed: " ++ cause.message := by
  refine ⟨fun run => ⟨fun hrun => ?_, RoundEnds.runRound_eq⟩, ⟨fun hnone => ?_, ?_⟩,
    ?_, fun cause => rfl⟩
  · rcases exists_roundEnds g conduct? env with ⟨run', hends⟩ | ⟨hdeadline, T, cs, b, h⟩
    · cases hrun.symm.trans hends.runRound_eq
      exact hends
    · cases hrun.symm.trans (h.runRound_eq_none hdeadline)
  · rcases exists_roundEnds g conduct? env with ⟨run, hends⟩ | hstalled
    · cases hnone.symm.trans hends.runRound_eq
    · exact hstalled
  · rintro ⟨hdeadline, T, cs, b, h⟩
    exact h.runRound_eq_none hdeadline
  · rintro T cs c b ⟨-, conduct, -, hreaches⟩
    exact hreaches.onlyFirstCounts rfl

/-- Work that concludes `done`, then tries to conclude another event, and goes on however that is
answered. -/
def twice (rest : Conduct Unit) : Conduct Unit :=
  .conclude .done fun _ => .conclude .noMajority fun _ => rest

/-- Work for the pulling of items that concludes twice. -/
def pulling (rest : Conduct Unit) : Round → Option (Context → Conduct Unit) := fun r =>
  if r = .pullMemes then some fun _ => twice rest else none

/-- A round that was concluded twice takes the first event if its work returns within five
milliseconds.  It fails if its work does, and it is timed out if its work sleeps for six. -/
theorem pulling_outcomes :
    ∃ g₀, start waits .standard Supervisor.hurried = .ok g₀ ∧
      (∃ run, g₀.RoundEnds (pulling (.sleep 5 (.finish (.ok ())))) idle run ∧
        run.result = .ok .resetAndPause) ∧
      (∃ run, g₀.RoundEnds (pulling (.finish (.error (.noOutcome .pullMemes)))) idle run ∧
        run.result = .error (.behaviourFailed .pullMemes (.noOutcome .pullMemes)) ∧
        run.engine.frozen = true) ∧
      (∃ run, g₀.RoundEnds (pulling (.sleep 6 (.finish (.ok ())))) idle run ∧
        run.result = .ok .pullMemes ∧
        run.engine.history.last?.map Record.timedOut = some true) :=
  ⟨_, rfl, ⟨_, ((round_outcomes _ _ _).1 _).mp rfl, rfl⟩,
    ⟨_, ((round_outcomes _ _ _).1 _).mp rfl, rfl, rfl⟩,
    ⟨_, ((round_outcomes _ _ _).1 _).mp rfl, rfl, rfl⟩⟩

end Engine

end RoundWorkflow
