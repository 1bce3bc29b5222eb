import RoundWorkflow.Store
import RoundWorkflow.Supervisor

/-!
# The work of a round

While a replica sits in a round it does that round's work.  `Work` is such work as a
tree: it ends with success or failure, never ends, sleeps, or acts at once on what it
can touch and goes on.  What it can touch is its `Bench`: the store, the flag that
stops the replica, a memory that the works of all rounds share, and the outcome of the
round, which can be set once (`Bench.conclude`).

`Work.run` does the work in virtual time against a deadline.  Acting takes no time.  A
sleep that ends at the deadline or before is slept through.  One that would end later
is cut off at the deadline, and with it all work that would have come after; what was
done before remains done.
-/

namespace RoundWorkflow

/-- What outlives a round: the store, the stop flag, and the memory of the works. -/
structure Environment (σ : Type) where
  /-- The store that the rounds share. -/
  store : Store
  /-- Whether the replica has been told to stop after the current round. -/
  stopped : Bool
  /-- What the works of the rounds remember. -/
  memory : σ

/-- What the work of one round can touch. -/
structure Bench (σ : Type) where
  /-- What outlives the round. -/
  environment : Environment σ
  /-- The event the round was concluded with. -/
  outcome : Option Event

/-- The round that work is done in, and the period. -/
structure Context where
  /-- The round. -/
  round : Round
  /-- The period. -/
  period : Nat
  deriving DecidableEq, Repr, Inhabited

namespace Bench

variable {σ : Type}

/-- The bench at the start of a round. -/
def fresh (env : Environment σ) : Bench σ := ⟨env, none⟩

/-- Concludes the round with an event, unless it has been concluded. -/
def conclude (b : Bench σ) (r : Round) (e : Event) : Except Error (Bench σ) :=
  match b.outcome with
  | none => .ok { b with outcome := some e }
  | some _ => .error (.alreadyConcluded r)

/-- The event the round was concluded with; a round that was not has none. -/
def result (b : Bench σ) (r : Round) : Except Error Event :=
  match b.outcome with
  | some e => .ok e
  | none => .error (.noOutcome r)

/-- With another store. -/
def withStore (b : Bench σ) (s : Store) : Bench σ :=
  { b with environment := { b.environment with store := s } }

/-- With another memory. -/
def withMemory (b : Bench σ) (m : σ) : Bench σ :=
  { b with environment := { b.environment with memory := m } }

/-- With the replica told to stop. -/
def stop (b : Bench σ) : Bench σ := { b with environment := { b.environment with stopped := true } }

end Bench

/-- The work of a round. -/
inductive Work (σ : Type) where
  /-- The work ends. -/
  | finish (result : Except Error Unit)
  /-- The work waits forever. -/
  | stall
  /-- The work waits for some milliseconds. -/
  | sleep (milliseconds : Nat) (rest : Work σ)
  /-- The work changes its bench and goes on as the bench before the change tells. -/
  | act (change : Bench σ → Bench σ) (next : Bench σ → Work σ)

/-- How supervised work ended, and when. -/
inductive Ending where
  /-- The work ended by itself. -/
  | finished (result : Except Error Unit) (time : Nat)
  /-- The deadline passed; the event is the one injected. -/
  | timedOut (event : Event) (time : Nat)
  /-- The work waits forever, and no deadline ends it. -/
  | never

namespace Work

variable {σ : Type}

/-- Work that tries to change its bench; if that fails, the work fails. -/
def try_ (change : Bench σ → Except Error (Bench σ)) (rest : Work σ) : Work σ :=
  .act
    (fun b => match change b with
      | .ok b' => b'
      | .error _ => b)
    (fun b => match change b with
      | .ok _ => rest
      | .error e => .finish (.error e))

/-- Does the work from a time on, against a deadline. -/
def run (deadline : Option Deadline) : Work σ → Nat → Bench σ → Ending × Bench σ
  | .finish result, now, b => (.finished result now, b)
  | .stall, _, b =>
    match deadline with
    | some d => (.timedOut d.event d.time, b)
    | none => (.never, b)
  | .sleep ms rest, now, b =>
    match deadline with
    | some d =>
      if now + ms ≤ d.time then rest.run deadline (now + ms) b else (.timedOut d.event d.time, b)
    | none => rest.run deadline (now + ms) b
  | .act change next, now, b => (next b).run deadline now (change b)

/-- Work that never waits forever. -/
inductive Ends : Work σ → Prop where
  | finish (result : Except Error Unit) : Ends (.finish result)
  | sleep {ms : Nat} {rest : Work σ} : Ends rest → Ends (.sleep ms rest)
  | act {change : Bench σ → Bench σ} {next : Bench σ → Work σ} :
    (∀ b, Ends (next b)) → Ends (.act change next)

theorem Ends.try_ {change : Bench σ → Except Error (Bench σ)} {rest : Work σ} (h : Ends rest) :
    Ends (.try_ change rest) := by
  refine .act fun b => ?_
  split
  · exact h
  · exact .finish _

/-- Work that never waits forever comes to an end, with a deadline and without. -/
theorem Ends.run_ne_never {w : Work σ} (h : w.Ends) (deadline : Option Deadline) (now : Nat)
    (b : Bench σ) : (w.run deadline now b).1 ≠ .never := by
  induction h generalizing now b with
  | finish result => simp [run]
  | sleep _ ih =>
    simp only [run]
    split
    · split
      · exact ih _ _
      · simp
    · exact ih _ _
  | act _ ih => exact ih _ _ _

end Work

/-- Does the work of a round that begins now, under its deadline. -/
def Supervisor.supervise (s : Supervisor) (r : Round) (w : Work σ) (now : Nat) (b : Bench σ) :
    Ending × Bench σ :=
  w.run (s.deadline? r now) now b

end RoundWorkflow
