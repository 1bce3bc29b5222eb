import RoundWorkflow.Behaviour

/-!
# Planned behaviours

A plan says what the work of a round does each time the round is run.  A script
concludes its events one after the other, and `DONE` once they are used up.  A program
performs its lists of actions one after the other, and the last of them over and over.
Plans are what planned behaviours remember: each run takes the first step of its
round's plan and leaves the rest.
-/

namespace RoundWorkflow

/-- One action of a program. -/
inductive Action where
  /-- Conclude the round; a second time is a failure. -/
  | conclude (event : Event)
  /-- Conclude the round unless it has been concluded. -/
  | tryConclude (event : Event)
  | write (key : String) (value : Json)
  | append (key : String) (value : Json)
  /-- Append the number of the period. -/
  | appendPeriod (key : String)
  /-- Append the name of the round. -/
  | appendRound (key : String)
  | sleep (milliseconds : Nat)
  /-- Wait forever. -/
  | stall
  | fail (cause : Error)
  /-- End the work here. -/
  | finish
  /-- Tell the replica to stop after this round. -/
  | stop
  /-- Go on with one of two lists, as there is a value at a key or not. -/
  | ifHas (key : String) (present absent : List Action)
  deriving Inhabited

namespace Action

variable {σ : Type}

/-- Work that appends a value to a list of the store. -/
def appending (key : String) (value : Json) (rest : Work σ) : Work σ :=
  .try_ (fun b => (b.environment.store.append key value).map fun p => b.withStore p.2) rest

mutual

/-- The work of an action, with the work that comes after it. -/
def work (ctx : Context) (rest : Work σ) : Action → Work σ
  | .conclude e => .try_ (fun b => b.conclude ctx.round e) rest
  | .tryConclude e => .act (fun b => { b with outcome := b.outcome <|> some e }) fun _ => rest
  | .write key value =>
    .act (fun b => b.withStore (b.environment.store.write key value)) fun _ => rest
  | .append key value => appending key value rest
  | .appendPeriod key => appending key (.nat ctx.period) rest
  | .appendRound key => appending key (.string ctx.round.name) rest
  | .sleep ms => .sleep ms rest
  | .stall => .stall
  | .fail cause => .finish (.error cause)
  | .finish => .finish (.ok ())
  | .stop => .act Bench.stop fun _ => rest
  | .ifHas key present absent =>
    let yes := workAll ctx rest present
    let no := workAll ctx rest absent
    .act id fun b => if b.environment.store.contains key then yes else no

/-- The work of a list of actions, with the work that comes after it. -/
def workAll (ctx : Context) (rest : Work σ) : List Action → Work σ
  | [] => rest
  | a :: as => a.work ctx (workAll ctx rest as)

end

end Action

/-- What the work of a round does each time the round is run. -/
inductive Plan where
  /-- Events to conclude, then `DONE`. -/
  | script (events : List Event)
  /-- Lists of actions, the last over and over. -/
  | program (calls : List (List Action))
  deriving Inhabited

namespace Plan

/-- The actions of the next run. -/
def actions : Plan → List Action
  | .script events => [.conclude (events.head?.getD .done)]
  | .program calls => calls.head?.getD []

/-- The plan after the next run. -/
def rest : Plan → Plan
  | .script events => .script events.tail
  | .program [call] => .program [call]
  | .program calls => .program calls.tail

/-- The number of events that a script has left. -/
def remaining : Plan → Nat
  | .script events => events.length
  | .program _ => 0

end Plan

/-- The plans of the rounds. -/
structure Plans where
  /-- Plans by round; the first of a round counts. -/
  entries : List (Round × Plan)
  deriving Inhabited

namespace Plans

/-- Every round concludes `DONE`. -/
def done : Plans := ⟨[]⟩

/-- The plan of a round. -/
def get (plans : Plans) (r : Round) : Plan :=
  ((plans.entries.find? fun e => e.1 = r).map Prod.snd).getD (.script [])

/-- With another plan for a round. -/
def set (plans : Plans) (r : Round) (plan : Plan) : Plans :=
  ⟨(r, plan) :: plans.entries.filter fun e => e.1 ≠ r⟩

theorem get_set (plans : Plans) (r : Round) (plan : Plan) (r' : Round) :
    (plans.set r plan).get r' = if r' = r then plan else plans.get r' := by
  by_cases h : r' = r
  · simp [get, set, h]
  · have hfind : (plans.entries.filter fun e => e.1 ≠ r).find? (fun e => e.1 = r') =
        plans.entries.find? fun e => e.1 = r' := by
      rw [List.find?_filter]
      congr 1
      funext e
      by_cases he : e.1 = r' <;> simp [he, h]
    simp only [get, set, List.find?_cons, Ne.symm h, decide_false, h, if_false, hfind]

end Plans

/-- The behaviour that takes the next step of its round's plan. -/
def planned : Behaviour Plans := fun ctx =>
  .act
    (fun b =>
      b.withMemory (b.environment.memory.set ctx.round (b.environment.memory.get ctx.round).rest))
    (fun b => Action.workAll ctx (.finish (.ok ())) (b.environment.memory.get ctx.round).actions)

/-- The registry with a planned behaviour for every state of a table. -/
def plannedRegistry (t : Table) : Registry Plans := Registry.empty.registerAll t.states planned

end RoundWorkflow
