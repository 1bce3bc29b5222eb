import RoundWorkflow.Proofs.Retries

/-!
# Replicas in lock step

Replicas of one workflow are set up by different operators.  One keeps a long history and
another one a short one, one waits longer, one wants to hear of every retry, one has many
subscribers.  They are to go the same way all the same.

Two replicas are *abreast* (`Engine.Abreast`) when they are in the same round of the same
table, have come as far, and their histories are what their capacities have left of the same
records.  An event leaves them abreast and gives both the same result (`Abreast.apply`):
budgets, retry policies, capacities and notifications are written to on the way, and never
asked.  A subscription is not even known to the replica.  So replicas that start in the same
round of a table stay in lock step through any events, refused ones included, and of what
they still show of the way one is the end of the other (`lockstep_of_start`).
-/

namespace RoundWorkflow.Engine

/-- Gives events to a replica one by one, whether it accepts them or not. -/
def stepEach (g : Engine) : List Event → List (Except Error Round) × Engine
  | [] => ([], g)
  | e :: es => ((g.step e).1 :: ((g.step e).2.stepEach es).1, ((g.step e).2.stepEach es).2)

/-- Two replicas have gone the same way. -/
structure Abreast (g' g : Engine) : Prop where
  table : g'.table = g.table
  current : g'.current = g.current
  period : g'.period = g.period
  frozen : g'.frozen = g.frozen
  /-- Both histories are what is left of the same records. -/
  history : ∃ written, g'.history.log.Keeps written ∧ g.history.log.Keeps written

variable {g g' : Engine}

theorem Abreast.steps (h : g'.Abreast g) : g'.steps = g.steps := by
  obtain ⟨written, hkeeps', hkeeps⟩ := h.history
  exact hkeeps'.total.trans hkeeps.total.symm

/-- Of two histories of the same records, the longer one ends as the shorter one. -/
theorem Abreast.paths (h : g'.Abreast g) :
    g'.history.path <:+ g.history.path ∨ g.history.path <:+ g'.history.path := by
  obtain ⟨written, hkeeps', hkeeps⟩ := h.history
  simp only [History.path, History.records, hkeeps'.toList, hkeeps.toList]
  rcases Nat.le_total g.history.log.capacity g'.history.log.capacity with hle | hle
  · exact .inr ((List.drop_suffix_drop_left _ (Nat.sub_le_sub_left hle _)).map _)
  · exact .inl ((List.drop_suffix_drop_left _ (Nat.sub_le_sub_left hle _)).map _)

theorem Abreast.freeze (h : g'.Abreast g) : g'.freeze.Abreast g.freeze :=
  ⟨h.table, h.current, h.period, rfl, h.history⟩

/-- Both replicas record a move with the same number and the same period. -/
theorem Abreast.move (h : g'.Abreast g) (e : Edge) (timedOut : Bool) :
    (g'.move e timedOut).Abreast (g.move e timedOut) where
  table := h.table
  current := rfl
  period := by rw [move_period, move_period, h.period]
  frozen := h.frozen
  history := by
    obtain ⟨written, hkeeps', hkeeps⟩ := h.history
    have hrecord : g'.history.next e g'.period timedOut = g.history.next e g.period timedOut := by
      rw [h.period]
      exact congrArg (Record.mk · e.source e.event e.target g.period timedOut) h.steps
    refine ⟨written ++ [g.history.next e g.period timedOut], ?_, hkeeps.push _⟩
    rw [← hrecord]
    exact hkeeps'.push _

/-- An event gives both replicas the same result, and leaves them abreast. -/
theorem Abreast.apply (h : g'.Abreast g) (e : Event) (timedOut : Bool) :
    (g'.apply e timedOut).1 = (g.apply e timedOut).1 ∧
      (g'.apply e timedOut).2.Abreast (g.apply e timedOut).2 := by
  cases hfrozen : g.frozen with
  | true =>
    rw [Engine.apply, Engine.apply, if_pos hfrozen, if_pos (h.frozen.trans hfrozen), h.current]
    exact ⟨rfl, h⟩
  | false =>
    have hfrozen' : g'.frozen = false := h.frozen.trans hfrozen
    have hsame : g'.table.next g'.current e = g.table.next g.current e := by rw [h.table, h.current]
    cases hnext : g.table.next g.current e with
    | ok r =>
      rw [apply_of_next_ok hfrozen hnext, apply_of_next_ok hfrozen' (hsame.trans hnext), h.current]
      exact ⟨rfl, h.move _ _⟩
    | error fault =>
      rw [apply_of_next_error hfrozen hnext, apply_of_next_error hfrozen' (hsame.trans hnext)]
      exact ⟨rfl, h.freeze⟩

theorem Abreast.stepEach (es : List Event) (h : g'.Abreast g) :
    (g'.stepEach es).1 = (g.stepEach es).1 ∧ (g'.stepEach es).2.Abreast (g.stepEach es).2 := by
  induction es generalizing g' g with
  | nil => exact ⟨rfl, h⟩
  | cons e es ih =>
    obtain ⟨hresult, hstep⟩ := h.apply e false
    obtain ⟨hresults, hafter⟩ := ih hstep
    exact ⟨congrArg₂ List.cons hresult hresults, hafter⟩

/-- Replicas that are set up with the same table are abreast if they start in the same round. -/
theorem SetUp.abreast {t : Table} {c c' : EngineConfig} (h' : SetUp t c' g') (h : SetUp t c g)
    (hcurrent : g'.current = g.current) : g'.Abreast g where
  table := h'.table.trans h.table.symm
  current := hcurrent
  period := h'.period.trans h.period.symm
  frozen := h'.frozen.trans h.frozen.symm
  history := ⟨[], h'.history_keeps, h.history_keeps⟩

/-- Replicas that start in the same round of a table stay in lock step, whatever else they are set
up with.  The events so far have given them the same results, and after them they are in the same
round and period, have made as many steps, and are both frozen or both not.  What one still shows of
the way is the end of what the other one does. -/
theorem lockstep_of_start {t : Table} {c c' : EngineConfig} {s s' : Supervisor}
    (hstart : start t c s = .ok g)
    (hstart' : start t c' s' = .ok g') (hcurrent : g'.current = g.current) (es : List Event) :
    (g'.stepEach es).1 = (g.stepEach es).1 ∧
      (g'.stepEach es).2.current = (g.stepEach es).2.current ∧
      (g'.stepEach es).2.period = (g.stepEach es).2.period ∧
      (g'.stepEach es).2.steps = (g.stepEach es).2.steps ∧
      (g'.stepEach es).2.frozen = (g.stepEach es).2.frozen ∧
      ((g'.stepEach es).2.history.path <:+ (g.stepEach es).2.history.path ∨
        (g.stepEach es).2.history.path <:+ (g'.stepEach es).2.history.path) := by
  have habreast : g'.Abreast g := (start_setUp hstart').abreast (start_setUp hstart) hcurrent
  obtain ⟨hresults, hafter⟩ := habreast.stepEach es
  exact ⟨hresults, hafter.current, hafter.period, hafter.steps, hafter.frozen, hafter.paths⟩

/-- A replica that shows one transition and signals the second retry, next to one that shows them
all and never does. -/
theorem waits_lockstep :
    ∃ g g', start waits ⟨none, 1, 0⟩ impatient = .ok g ∧
      start waits ⟨some .pullMemes, 64, 10⟩ .standard = .ok g' ∧
      (g'.stepEach [.noMajority, .noMajority, .done, .wait, .done]).1 =
        [.ok .pullMemes, .ok .pullMemes, .ok .resetAndPause,
          .error (.protocolViolation .resetAndPause .wait),
          .error (.frozen .resetAndPause)] ∧
      (g'.stepEach [.noMajority, .noMajority, .done, .wait, .done]).1 =
        (g.stepEach [.noMajority, .noMajority, .done, .wait, .done]).1 ∧
      (g.stepEach [.noMajority, .noMajority, .done]).2.history.path.length = 1 ∧
      (g'.stepEach [.noMajority, .noMajority, .done]).2.history.path.length = 3 :=
  ⟨_, _, rfl, rfl, rfl,
    (@lockstep_of_start _ _ waits ⟨none, 1, 0⟩ ⟨some .pullMemes, 64, 10⟩ impatient .standard rfl rfl
      rfl _).1, rfl, rfl⟩

end RoundWorkflow.Engine
