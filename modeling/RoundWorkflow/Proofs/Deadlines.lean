import RoundWorkflow.Proofs.KeySpelling
import RoundWorkflow.Proofs.Progress

/-!
# Work and its deadline

Work under a deadline is in a race.  `Work.Takes` says what it does when it is left alone:
how long it takes, with what result, and what it leaves on its bench.  Its time is the sum of
its sleeps, since acting takes none.  Work that takes as long as its budget still wins the
race, and work that takes longer, or never ends, is cut off when the budget is used up.

Which rounds have a deadline is settled when a supervisor is built (`Supervisor.Built`).
However it is built, it has a budget for exactly those rounds that have a timeout event
(`Built.covers`): a registration round does not get one, whoever asks for it.  A budget that
reaches past the end of the clock sets no deadline.  The main statement is
`Built.supervise_race`.
-/

namespace RoundWorkflow

variable {σ : Type}

/-! ## Work that is left alone -/

/-- Work that is left alone takes some time, ends with a result, and leaves a bench behind. -/
inductive Work.Takes : Work σ → Bench σ → Nat → Except Error Unit → Bench σ → Prop where
  | finish {result : Except Error Unit} {b : Bench σ} : Takes (.finish result) b 0 result b
  | sleep {ms T : Nat} {rest : Work σ} {b b' : Bench σ} {result : Except Error Unit} :
    Takes rest b T result b' → Takes (.sleep ms rest) b (ms + T) result b'
  | act {T : Nat} {change : Bench σ → Bench σ} {next : Bench σ → Work σ} {b b' : Bench σ}
    {result : Except Error Unit} :
    Takes (next b) (change b) T result b' → Takes (.act change next) b T result b'

/-- Work that is left alone does not end. -/
def Work.NeverEnds (w : Work σ) (b : Bench σ) : Prop := ∀ T result b', ¬w.Takes b T result b'

namespace Work

variable {w : Work σ} {b b' : Bench σ} {T : Nat} {result : Except Error Unit} {d : Deadline}

/-- Without a deadline work is left alone. -/
theorem Takes.run_none (h : w.Takes b T result b') (now : Nat) :
    w.run none now b = (.finished result (now + T), b') := by
  induction h generalizing now with
  | finish => rfl
  | sleep _ ih => rw [run, ih, Nat.add_assoc]
  | act _ ih => rw [run, ih]

theorem Takes.unique {T' : Nat} {result' : Except Error Unit} {b'' : Bench σ}
    (h : w.Takes b T result b') (h' : w.Takes b T' result' b'') : T = T' := by
  have hsame := (h.run_none 0).symm.trans (h'.run_none 0)
  simp only [Prod.mk.injEq, Ending.finished.injEq, Nat.zero_add] at hsame
  exact hsame.1.2

theorem NeverEnds.run_none (h : w.NeverEnds b) (now : Nat) :
    ∃ b', w.run none now b = (.never, b') := by
  induction w generalizing now b with
  | finish result => exact absurd .finish (h 0 result b)
  | stall => exact ⟨b, rfl⟩
  | sleep ms rest ih => exact ih (fun T result b' htakes => h _ result b' htakes.sleep) (now + ms)
  | act change next ih => exact ih b (fun T result b' htakes => h T result b' htakes.act) now

/-- Work that ends at its deadline or before ends by itself. -/
theorem Takes.run_of_le {now : Nat} (h : w.Takes b T result b') (hle : now + T ≤ d.time) :
    w.run (some d) now b = (.finished result (now + T), b') := by
  induction h generalizing now with
  | finish => rfl
  | @sleep ms T rest b b' result _ ih =>
    have hsleep : now + ms ≤ d.time := by omega
    rw [run, if_pos hsleep, ih (by omega), Nat.add_assoc]
  | act _ ih => exact ih hle

/-- Work that would end after its deadline, or not at all, is cut off at its deadline. -/
theorem run_of_late {now : Nat} (hbegins : now ≤ d.time)
    (hlate : ∀ T result b', w.Takes b T result b' → d.time < now + T) :
    ∃ b', w.run (some d) now b = (.timedOut d.event d.time, b') := by
  induction w generalizing now b with
  | finish result => exact absurd (hlate 0 result b .finish) (Nat.not_lt_of_le hbegins)
  | stall => exact ⟨b, rfl⟩
  | sleep ms rest ih =>
    by_cases hsleep : now + ms ≤ d.time
    · rw [run, if_pos hsleep]
      refine ih hsleep fun T result b' htakes => ?_
      rw [Nat.add_assoc]
      exact hlate _ result b' htakes.sleep
    · exact ⟨b, if_neg hsleep⟩
  | act change next ih => exact ih b hbegins fun T result b' htakes => hlate T result b' htakes.act

end Work

/-! ## Supervisors -/

namespace Supervisor

/-- Supervisors as they are built: from the standard budgets or from configured ones, and then with
any budgets of whole milliseconds and any retry policies. -/
inductive Built : Supervisor → Prop where
  | standard : Built .standard
  | ofTimeouts {c : TimeoutConfig} {s : Supervisor} : Supervisor.ofTimeouts c = .ok s → Built s
  | withBudget {s : Supervisor} (r : Round) (milliseconds : Nat) : Built s →
      Built (s.withBudget r milliseconds)
  | withRetries {s s' : Supervisor} {c : RetryConfig} : Built s →
      s.withRetries c = .ok s' → Built s'

/-- There is a budget for exactly the rounds that have a timeout event. -/
def Covers (s : Supervisor) : Prop := ∀ r, s.budget r = none ↔ r.timeoutEvent = none

theorem ofClasses_covers (c : TimeoutConfig) : (ofClasses c).Covers := by
  intro r
  change (r.timeoutEvent.map c.secondsOf).map _ = none ↔ _
  rw [Option.map_map, Option.map_eq_none_iff]

theorem Covers.withBudget {s : Supervisor} (h : s.Covers) (r : Round) (milliseconds : Nat) :
    (s.withBudget r milliseconds).Covers := by
  rw [Supervisor.withBudget]
  split
  · rename_i htimeout
    intro r'
    dsimp only
    split
    · subst r'
      rw [Option.isSome_iff_ne_none] at htimeout
      exact iff_of_false nofun htimeout
    · exact h r'
  · exact h

theorem Covers.withBudgets {s : Supervisor} (budgets : List (Round × UInt64)) (h : s.Covers) :
    (budgets.foldl (fun s o => s.withBudget o.1 (1000 * o.2.toNat)) s).Covers := by
  induction budgets generalizing s with
  | nil => exact h
  | cons o budgets ih => exact ih (h.withBudget o.1 _)

theorem le_of_budgetFault? {s : Supervisor} {r : Round} {budget : Nat} (h : s.budgetFault? = none)
    (hbudget : s.budget r = some budget) : budget ≤ 1000 * maxBudgetSeconds := by
  have hround := List.findSome?_eq_none_iff.mp h r (Enumeration.mem_all r)
  rw [hbudget, Option.bind_some] at hround
  by_contra hlarge
  rw [if_pos (Nat.lt_of_not_le hlarge)] at hround
  cases hround

/-- A supervisor of configured budgets has the shared ones and the overrides, and none of them is
above the limit. -/
theorem exists_of_ofTimeouts {c : TimeoutConfig} {s : Supervisor} (h : ofTimeouts c = .ok s) :
    s.budgetFault? = none ∧ ∃ overrides, c.resolvedOverrides = .ok overrides ∧
      s = overrides.effective.foldl (fun s o => s.withBudget o.1 (1000 * o.2.toNat))
        (ofClasses c) := by
  rw [ofTimeouts] at h
  obtain ⟨overrides, hoverrides, h⟩ := bind_eq_ok_iff.mp h
  dsimp only at h
  split at h
  · cases h
  · cases h
    exact ⟨‹_›, overrides, hoverrides, rfl⟩

theorem ofTimeouts_covers {c : TimeoutConfig} {s : Supervisor} (h : ofTimeouts c = .ok s) :
    s.Covers := by
  obtain ⟨-, overrides, -, rfl⟩ := exists_of_ofTimeouts h
  exact (ofClasses_covers c).withBudgets overrides.effective

/-- Retry policies leave the budgets alone. -/
theorem budget_of_withRetries {s s' : Supervisor} {c : RetryConfig} (h : s.withRetries c = .ok s') :
    s'.budget = s.budget := by
  rw [withRetries] at h
  obtain ⟨policy, -, h⟩ := bind_eq_ok_iff.mp h
  cases h
  rfl

theorem Covers.withRetries {s s' : Supervisor} {c : RetryConfig} (h : s.Covers)
    (hretries : s.withRetries c = .ok s') :
    s'.Covers := by
  rw [Covers, budget_of_withRetries hretries]
  exact h

theorem Built.covers {s : Supervisor} (h : s.Built) : s.Covers := by
  induction h with
  | standard => exact ofClasses_covers .standard
  | ofTimeouts h => exact ofTimeouts_covers h
  | withBudget r milliseconds _ ih => exact ih.withBudget r milliseconds
  | withRetries _ h ih => exact ih.withRetries h

/-- A round that begins now has no deadline: it is a registration round, or its budget reaches past
the end of the clock. -/
def Unbounded (s : Supervisor) (r : Round) (now : Nat) : Prop :=
  r.isRegistration = true ∨ ∃ budget, s.budget r = some budget ∧ clockEnd < (now + budget) / 1000

theorem deadline?_of_unbounded {s : Supervisor} {r : Round} {now : Nat} (h : s.Unbounded r now) :
    s.deadline? r now = none := by
  rw [deadline?]
  split
  · rename_i e budget htimeout hbudget
    rcases h with hregistration | ⟨budget', hbudget', hpast⟩
    · rw [← Round.timeoutEvent_eq_none_iff] at hregistration
      cases hregistration.symm.trans htimeout
    · cases hbudget'.symm.trans hbudget
      exact if_neg (Nat.not_le_of_lt hpast)
  · rfl

/-- Every other round has one, a budget from now, that carries its own timeout event. -/
theorem Covers.deadline?_of_not_unbounded {s : Supervisor} {r : Round} {now : Nat}
    (hcovers : s.Covers) (h : ¬s.Unbounded r now) :
    ∃ budget e, s.budget r = some budget ∧ r.timeoutEvent = some e ∧
      s.deadline? r now = some ⟨r, e, now + budget⟩ := by
  rw [Unbounded, not_or, ← Round.timeoutEvent_eq_none_iff] at h
  obtain ⟨htimeout, hclock⟩ := h
  obtain ⟨e, he⟩ := Option.ne_none_iff_exists'.mp htimeout
  obtain ⟨budget, hbudget⟩ :=
    Option.ne_none_iff_exists'.mp fun hnone => htimeout ((hcovers r).mp hnone)
  refine ⟨budget, e, hbudget, he, ?_⟩
  rw [deadline?, he, hbudget]
  exact if_pos (Nat.not_lt.mp fun hpast => hclock ⟨budget, hbudget, hpast⟩)

/-- However a supervisor was built, a round without a deadline waits for its work, and is never
timed out.  In every other round work that takes no longer than the budget ends by itself, and any
other work is cut off when the budget is used up, with the round's own timeout event.  A
registration round has no budget, and so no deadline. -/
theorem Built.supervise_race {s : Supervisor} (h : s.Built) (r : Round) (w : Work σ) (now : Nat)
    (b : Bench σ) :
    (r.isRegistration = true → s.budget r = none) ∧
      (s.Unbounded r now →
        (∀ T result b', w.Takes b T result b' →
          s.supervise r w now b = (.finished result (now + T), b')) ∧
        (w.NeverEnds b → ∃ b', s.supervise r w now b = (.never, b')) ∧
        ∀ e time b', s.supervise r w now b ≠ (.timedOut e time, b')) ∧
      (¬s.Unbounded r now → ∃ budget e, s.budget r = some budget ∧ r.timeoutEvent = some e ∧
        (∀ T result b', w.Takes b T result b' → T ≤ budget →
          s.supervise r w now b = (.finished result (now + T), b')) ∧
        ((∃ T result b', w.Takes b T result b' ∧ budget < T) ∨ w.NeverEnds b →
          ∃ b', s.supervise r w now b = (.timedOut e (now + budget), b'))) := by
  refine ⟨fun hregistration => ?_, fun hunbounded => ?_, fun hbounded => ?_⟩
  · rw [h.covers r, Round.timeoutEvent_eq_none_iff]
    exact hregistration
  · rw [supervise, deadline?_of_unbounded hunbounded]
    refine ⟨fun T result b' htakes => htakes.run_none now, fun hnever => hnever.run_none now,
      fun e time b' hcut => ?_⟩
    obtain ⟨d, hnone, -⟩ := Work.run_eq_timedOut hcut
    cases hnone
  · obtain ⟨budget, e, hbudget, he, hdeadline⟩ := h.covers.deadline?_of_not_unbounded hbounded
    rw [supervise, hdeadline]
    refine ⟨budget, e, hbudget, he,
      fun T result b' htakes hle => htakes.run_of_le (Nat.add_le_add_left hle now), ?_⟩
    intro hlong
    refine Work.run_of_late (Nat.le_add_right now budget) fun T result b' htakes =>
      Nat.add_lt_add_left ?_ now
    rcases hlong with ⟨T', result', b'', htakes', hlt⟩ | hnever
    · rw [htakes.unique htakes']
      exact hlt
    · exact absurd htakes (hnever T result b')

/-- Five milliseconds for the pulling of items, and none for a registration, which takes no
budget. -/
def hurried : Supervisor := (standard.withBudget .pullMemes 5).withBudget .registration 0

/-- Work that sleeps for some milliseconds and then for some more. -/
def twoSleeps (first second : Nat) : Work Unit := .sleep first (.sleep second (.finish (.ok ())))

theorem twoSleeps_takes (first second : Nat) (b : Bench Unit) :
    (twoSleeps first second).Takes b (first + (second + 0)) (.ok ()) b := .sleep (.sleep .finish)

/-- Five milliseconds are enough for work that takes five, and not for work that takes six or
stalls.  The registration waits. -/
theorem hurried_race :
    hurried.Built ∧ hurried.budget .registration = none ∧ ¬hurried.Unbounded .pullMemes 0 ∧
      hurried.supervise .pullMemes (twoSleeps 2 3) 0 (.fresh Engine.idle) =
        (.finished (.ok ()) 5, .fresh Engine.idle) ∧
      (∃ b, hurried.supervise .pullMemes (twoSleeps 2 4) 0 (.fresh Engine.idle) =
        (.timedOut .roundTimeout 5, b)) ∧
      (∃ b, hurried.supervise .pullMemes .stall 0 (.fresh Engine.idle) =
        (.timedOut .roundTimeout 5, b)) ∧
      hurried.supervise .registration (twoSleeps 2 4) 0 (.fresh Engine.idle) =
        (.finished (.ok ()) 6, .fresh Engine.idle) := by
  have hbuilt : hurried.Built := .withBudget _ _ (.withBudget _ _ .standard)
  have hbounded : ¬hurried.Unbounded .pullMemes 0 := by
    rintro (h | ⟨budget, hbudget, hpast⟩)
    · cases h
    · cases hbudget
      revert hpast
      decide
  have hpulls := fun w => (hbuilt.supervise_race .pullMemes w 0 (.fresh Engine.idle)).2.2 hbounded
  obtain ⟨hnone, hwaits, -⟩ :=
    hbuilt.supervise_race .registration (twoSleeps 2 4) 0 (.fresh Engine.idle)
  obtain ⟨_, _, hbudget, he, hwins, -⟩ := hpulls (twoSleeps 2 3)
  cases hbudget
  cases he
  obtain ⟨_, _, hbudget, he, -, hcut⟩ := hpulls (twoSleeps 2 4)
  cases hbudget
  cases he
  obtain ⟨_, _, hbudget, he, -, hcut'⟩ := hpulls .stall
  cases hbudget
  cases he
  exact ⟨hbuilt, hnone rfl, hbounded, hwins _ _ _ (twoSleeps_takes 2 3 _) (by decide),
    hcut (.inl ⟨_, _, _, twoSleeps_takes 2 4 _, by decide⟩), hcut' (.inr nofun),
    (hwaits (.inl rfl)).1 _ _ _ (twoSleeps_takes 2 4 _)⟩

end Supervisor

end RoundWorkflow
