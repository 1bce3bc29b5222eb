import RoundWorkflow.Work
import RoundWorkflow.Table

/-!
# Behaviours

A behaviour is the work that is done in a round, given the period.  A registry has a
behaviour for some rounds; it is complete for a table when it has one for every state.
-/

namespace RoundWorkflow

/-- The work that is done in a round. -/
abbrev Behaviour (σ : Type) := Context → Work σ

/-- Behaviours by round. -/
structure Registry (σ : Type) where
  /-- The behaviour of a round, if there is one. -/
  behaviour? : Round → Option (Behaviour σ)

namespace Registry

variable {σ : Type}

/-- The registry without behaviours. -/
def empty : Registry σ := ⟨fun _ => none⟩

/-- With a behaviour for a round, in place of the one it may have had. -/
def register (reg : Registry σ) (r : Round) (behaviour : Behaviour σ) : Registry σ :=
  ⟨fun r' => if r' = r then some behaviour else reg.behaviour? r'⟩

/-- With the same behaviour for several rounds. -/
def registerAll (reg : Registry σ) (rs : List Round) (behaviour : Behaviour σ) : Registry σ :=
  rs.foldl (fun reg r => reg.register r behaviour) reg

/-- Whether there is a behaviour for a round. -/
def contains (reg : Registry σ) (r : Round) : Bool := (reg.behaviour? r).isSome

/-- The behaviour of a round. -/
def get (reg : Registry σ) (r : Round) : Except Error (Behaviour σ) :=
  match reg.behaviour? r with
  | some b => .ok b
  | none => .error (.missingBehaviour r)

/-- Every behaviour is work that never waits forever. -/
def Ends (reg : Registry σ) : Prop := ∀ r b, reg.behaviour? r = some b → ∀ ctx, (b ctx).Ends

theorem Ends.of_get {reg : Registry σ} (h : reg.Ends) {r : Round} {b : Behaviour σ}
    (hget : reg.get r = .ok b) (ctx : Context) : (b ctx).Ends := by
  rw [get] at hget
  split at hget
  · cases hget
    exact h r _ ‹_› ctx
  · cases hget

theorem Ends.empty : (empty : Registry σ).Ends := fun _ _ h => by cases h

theorem Ends.register {reg : Registry σ} (h : reg.Ends) {r : Round} {behaviour : Behaviour σ}
    (hb : ∀ ctx, (behaviour ctx).Ends) : (reg.register r behaviour).Ends := by
  intro r' b hr'
  simp only [Registry.register] at hr'
  split at hr'
  · cases hr'
    exact hb
  · exact h r' b hr'

theorem Ends.registerAll {behaviour : Behaviour σ} (hb : ∀ ctx, (behaviour ctx).Ends)
    (rs : List Round) {reg : Registry σ} (h : reg.Ends) : (reg.registerAll rs behaviour).Ends := by
  rw [Registry.registerAll]
  induction rs generalizing reg with
  | nil => exact h
  | cons r rs ih => exact ih (h.register hb)

/-- The rounds with a behaviour, in the order of their names. -/
def rounds (reg : Registry σ) : List Round := Round.all.filter reg.contains

/-- The number of behaviours. -/
def size (reg : Registry σ) : Nat := reg.rounds.length

/-- Checks that every state of a table has a behaviour; the first that has none is reported. -/
def checkComplete (reg : Registry σ) (t : Table) : Except Error Unit :=
  match t.states.find? fun r => !reg.contains r with
  | some r => .error (.missingBehaviour r)
  | none => .ok ()

/-- The text of a registry. -/
def text (reg : Registry σ) : String :=
  "BehaviourRegistry \x7b rounds: [" ++ String.intercalate ", " (reg.rounds.map Round.name) ++
    "] \x7d"

end Registry

end RoundWorkflow
