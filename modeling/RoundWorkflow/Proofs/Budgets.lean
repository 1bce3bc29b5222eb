import RoundWorkflow.Proofs.Deadlines
import RoundWorkflow.Proofs.NamedSettings

/-!
# Configured budgets

The budget of a round can be asked for round by round (`TimeoutConfig.budgetSeconds`), and a
supervisor computes all of them at once (`Supervisor.ofTimeouts`): it begins with the shared
budgets, lays the overrides over them one after the other, and looks at the limit only then.
Both ways give every round the same budget.

So what counts for the limit is the budget that a round has in the end.  A shared budget above
the limit does no harm if every round that shares it has an override, and an override of a
registration round does no harm at all.  The main statement is `Supervisor.ofTimeouts_agrees`.
-/

namespace RoundWorkflow

/-! ## Round by round -/

namespace TimeoutConfig

variable {c : TimeoutConfig} {settings : RoundSettings UInt64}

/-- The budget of a round under settings: its own setting, or else the one that it shares. -/
def secondsFrom (c : TimeoutConfig) (settings : RoundSettings UInt64) (r : Round) : Option UInt64 :=
  r.timeoutEvent.map fun e => (settings.get? r).getD (c.secondsOf e)

theorem exists_resolvedOverrides_iff :
    (∃ settings, c.resolvedOverrides = .ok settings) ↔ c.overrides.NamesRounds :=
  RoundSettings.exists_ofEntries_iff

theorem budgetSeconds_of_resolved (h : c.resolvedOverrides = .ok settings) (r : Round) :
    c.budgetSeconds r = .ok (c.secondsFrom settings r) := by
  rw [budgetSeconds, secondsFrom]
  cases htimeout : r.timeoutEvent with
  | none => rfl
  | some e =>
    dsimp only
    rw [h, classSeconds, htimeout]
    change Except.ok (settings.get? r <|> some (c.secondsOf e)) = _
    cases settings.get? r <;> rfl

/-- Where all keys name rounds, the budget of a round is what the deciding key says, or what the
round shares with others. -/
theorem budgetSeconds_eq_some_iff (hnames : c.overrides.NamesRounds) {r : Round} {secs : UInt64} :
    c.budgetSeconds r = .ok (some secs) ↔ ∃ e, r.timeoutEvent = some e ∧
      ((∃ key, c.overrides.Decides r key secs) ∨ ¬c.overrides.Mentions r ∧
        secs = c.secondsOf e) := by
  obtain ⟨settings, h⟩ := exists_resolvedOverrides_iff.mpr hnames
  rw [budgetSeconds_of_resolved h, Except.ok.injEq, secondsFrom, Option.map_eq_some_iff]
  refine exists_congr fun e => and_congr_right fun _ => ?_
  rw [← RoundSettings.get?_eq_some_iff h, ← RoundSettings.get?_eq_none_iff h]
  cases settings.get? r <;> simp [eq_comm]

theorem budgetSeconds_eq_none_iff (hnames : c.overrides.NamesRounds) {r : Round} :
    c.budgetSeconds r = .ok none ↔ r.timeoutEvent = none := by
  obtain ⟨settings, h⟩ := exists_resolvedOverrides_iff.mpr hnames
  rw [budgetSeconds_of_resolved h, Except.ok.injEq, secondsFrom, Option.map_eq_none_iff]

/-- A round has a budget above the limit, and no round before it does. -/
def FirstTooLarge (c : TimeoutConfig) (r : Round) (secs : UInt64) : Prop :=
  ∃ before after, Round.all = before ++ r :: after ∧ c.budgetSeconds r = .ok (some secs) ∧
    maxBudgetSeconds < secs.toNat ∧
    ∀ r' ∈ before, ∀ secs', c.budgetSeconds r' = .ok (some secs') → secs'.toNat ≤ maxBudgetSeconds

end TimeoutConfig

/-! ## All at once -/

namespace Supervisor

variable {c : TimeoutConfig} {s : Supervisor} {settings : RoundSettings UInt64} {fault : Error}

theorem budget_withBudget (s : Supervisor) (r : Round) (milliseconds : Nat) (r' : Round) :
    (s.withBudget r milliseconds).budget r' =
      if r' = r ∧ r.timeoutEvent.isSome = true then some milliseconds else s.budget r' := by
  rw [withBudget]
  split
  · simp [*]
  · simp [*]

/-- Settings laid over a supervisor replace the budgets of the rounds they are for, registration
rounds apart. -/
theorem budget_withBudgets (rounds : List Round) (s : Supervisor) (r : Round) :
    ((rounds.filterMap fun r => (settings.get? r).map fun secs => (r, secs)).foldl
        (fun s o => s.withBudget o.1 (1000 * o.2.toNat)) s).budget r =
      if r ∈ rounds ∧ r.timeoutEvent.isSome = true then
        ((settings.get? r).map fun secs => 1000 * secs.toNat).or (s.budget r)
      else s.budget r := by
  induction rounds generalizing s with
  | nil => simp
  | cons r₀ rounds ih =>
    cases hr₀ : settings.get? r₀ with
    | none =>
      rw [List.filterMap_cons_none (by rw [hr₀]; rfl), ih]
      by_cases hr : r = r₀
      · subst hr
        simp [hr₀]
      · simp [hr]
    | some secs =>
      rw [List.filterMap_cons_some (b := (r₀, secs)) (by rw [hr₀]; rfl), List.foldl_cons, ih,
        budget_withBudget]
      by_cases hr : r = r₀
      · subst hr
        cases htimeout : r.timeoutEvent <;> simp [hr₀]
      · simp [hr]

/-- The shared budgets with the overrides laid over them. -/
def layered (c : TimeoutConfig) (settings : RoundSettings UInt64) : Supervisor :=
  settings.effective.foldl (fun s o => s.withBudget o.1 (1000 * o.2.toNat)) (ofClasses c)

/-- Laying the overrides over the shared budgets gives every round the budget it has by itself. -/
theorem budget_layered (r : Round) :
    (layered c settings).budget r = (c.secondsFrom settings r).map fun secs =>
      1000 * secs.toNat := by
  have hmem : r ∈ Round.all := Enumeration.mem_all r
  have hshared : (ofClasses c).budget r = (r.timeoutEvent.map c.secondsOf).map fun secs =>
      1000 * secs.toNat := rfl
  rw [layered, RoundSettings.effective, budget_withBudgets, hshared, TimeoutConfig.secondsFrom]
  cases r.timeoutEvent with
  | none => simp
  | some e => cases settings.get? r <;> simp [hmem]

theorem ofTimeouts_of_resolved (h : c.resolvedOverrides = .ok settings) :
    ofTimeouts c = match (layered c settings).budgetFault? with
      | some fault => .error fault
      | none => .ok (layered c settings) := by
  rw [ofTimeouts, h]
  rfl

/-- The look at the limit finds the first round whose budget is above it. -/
theorem budgetFault?_layered (h : c.resolvedOverrides = .ok settings) :
    (layered c settings).budgetFault? = some fault ↔
      ∃ r secs, c.FirstTooLarge r secs ∧ fault = .configuration (.budgetTooLarge r secs.toNat) := by
  have hfault : ∀ r fault, (((layered c settings).budget r).bind fun b =>
      if 1000 * maxBudgetSeconds < b then some (Error.configuration (.budgetTooLarge r (b / 1000)))
        else none) =
        some fault ↔ ∃ secs, c.budgetSeconds r = .ok (some secs) ∧ maxBudgetSeconds < secs.toNat ∧
          fault = .configuration (.budgetTooLarge r secs.toNat) := by
    intro r fault
    rw [budget_layered, TimeoutConfig.budgetSeconds_of_resolved h]
    cases c.secondsFrom settings r with
    | none => simp
    | some secs => simp [eq_comm]
  rw [budgetFault?, List.findSome?_eq_some_iff]
  simp only [hfault, Option.eq_none_iff_forall_ne_some, ne_eq]
  constructor
  · rintro ⟨before, r, after, hall, ⟨secs, hsecs, hlarge, rfl⟩, hbefore⟩
    refine ⟨r, secs, ⟨before, after, hall, hsecs, hlarge, fun r' hr' secs' hsecs' => ?_⟩, rfl⟩
    exact Nat.not_lt.mp fun hlarge' => hbefore r' hr' _ ⟨secs', hsecs', hlarge', rfl⟩
  · rintro ⟨r, secs, ⟨before, after, hall, hsecs, hlarge, hbefore⟩, rfl⟩
    refine ⟨before, r, after, hall, ⟨secs, hsecs, hlarge, rfl⟩, fun r' hr' fault hfault' => ?_⟩
    obtain ⟨secs', hsecs', hlarge', -⟩ := hfault'
    exact absurd hlarge' (Nat.not_lt.mpr (hbefore r' hr' secs' hsecs'))

theorem ofTimeouts_eq_error_iff : ofTimeouts c = .error fault ↔
    (∃ key, c.overrides.FirstUnknown key ∧ fault = .configuration (.unknownRoundName key)) ∨
      c.overrides.NamesRounds ∧
        ∃ r secs, c.FirstTooLarge r secs ∧
          fault = .configuration (.budgetTooLarge r secs.toNat) := by
  rw [← RoundSettings.ofEntries_eq_error_iff_firstUnknown,
    ← TimeoutConfig.exists_resolvedOverrides_iff]
  change _ ↔ c.resolvedOverrides = .error fault ∨ _
  cases h : c.resolvedOverrides with
  | error unknown =>
    have hrefused : ofTimeouts c = .error unknown := by
      rw [ofTimeouts, h]
      rfl
    rw [hrefused]
    simp
  | ok settings =>
    rw [ofTimeouts_of_resolved h, ← budgetFault?_layered h]
    cases (layered c settings).budgetFault? <;> simp

/-- There is a supervisor exactly if every key names a round and no budget is above the limit. -/
theorem exists_ofTimeouts_iff : (∃ s, ofTimeouts c = .ok s) ↔
    c.overrides.NamesRounds ∧ ∀ r secs, c.budgetSeconds r = .ok (some secs) →
    secs.toNat ≤ maxBudgetSeconds := by
  constructor
  · rintro ⟨s, hs⟩
    obtain ⟨hlimit, settings, h, rfl⟩ := exists_of_ofTimeouts hs
    refine ⟨TimeoutConfig.exists_resolvedOverrides_iff.mp ⟨settings, h⟩, fun r secs hsecs => ?_⟩
    rw [TimeoutConfig.budgetSeconds_of_resolved h, Except.ok.injEq] at hsecs
    have hbudget : (layered c settings).budget r = some (1000 * secs.toNat) := by
      rw [budget_layered, hsecs]
      rfl
    exact Nat.le_of_mul_le_mul_left (le_of_budgetFault? hlimit hbudget) (by decide)
  · rintro ⟨hnames, hlimit⟩
    cases hs : ofTimeouts c with
    | ok s => exact ⟨s, rfl⟩
    | error fault =>
      rcases ofTimeouts_eq_error_iff.mp hs with ⟨key, hunknown, -⟩ | ⟨-, r, secs, hlarge, -⟩
      · obtain ⟨r, hr⟩ := hnames key hunknown.mem
        exact absurd hr (hunknown.unknown r)
      · obtain ⟨_, _, -, hsecs, hlarge, -⟩ := hlarge
        exact absurd hlarge (Nat.not_lt.mpr (hlimit r secs hsecs))

/-- Whatever the overrides are, there is a supervisor of configured budgets exactly if every key
names a round and no round has a budget above the limit, where only those rounds count that have a
timeout event, and the shared budget only for rounds without an override.  The supervisor gives
every round the budget it is said to have: what the last of the keys that name it says, or else what
it shares with others.  Where there is no supervisor, the first unknown key is reported, or the
first round with a budget above the limit. -/
theorem ofTimeouts_agrees (c : TimeoutConfig) :
    ((∃ s, ofTimeouts c = .ok s) ↔ c.overrides.NamesRounds ∧
      ∀ r secs, c.budgetSeconds r = .ok (some secs) → secs.toNat ≤ maxBudgetSeconds) ∧
    ((∃ s, ofTimeouts c = .ok s) ↔ c.overrides.NamesRounds ∧ ∀ r e, r.timeoutEvent = some e →
      (∀ key secs, c.overrides.Decides r key secs → secs.toNat ≤ maxBudgetSeconds) ∧
        (¬c.overrides.Mentions r → (c.secondsOf e).toNat ≤ maxBudgetSeconds)) ∧
    (∀ s, ofTimeouts c = .ok s → ∀ r, ∃ budget, c.budgetSeconds r = .ok budget ∧
      s.budget r = budget.map fun secs => 1000 * secs.toNat) ∧
    (c.overrides.NamesRounds → ∀ r, (c.budgetSeconds r = .ok none ↔ r.timeoutEvent = none) ∧
      ∀ secs, c.budgetSeconds r = .ok (some secs) ↔ ∃ e, r.timeoutEvent = some e ∧
        ((∃ key, c.overrides.Decides r key secs) ∨ ¬c.overrides.Mentions r ∧
          secs = c.secondsOf e)) ∧
    ∀ fault, ofTimeouts c = .error fault ↔
      (∃ key, c.overrides.FirstUnknown key ∧ fault = .configuration (.unknownRoundName key)) ∨
        c.overrides.NamesRounds ∧
          ∃ r secs, c.FirstTooLarge r secs ∧
            fault = .configuration (.budgetTooLarge r secs.toNat) := by
  refine ⟨exists_ofTimeouts_iff, ?_, fun s hs r => ?_, fun hnames r => ?_,
    fun fault => ofTimeouts_eq_error_iff⟩
  · rw [exists_ofTimeouts_iff]
    refine and_congr_right fun hnames => forall_congr' fun r => ?_
    simp only [TimeoutConfig.budgetSeconds_eq_some_iff hnames]
    constructor
    · intro hlimit e he
      exact ⟨fun key secs hkey => hlimit secs ⟨e, he, .inl ⟨key, hkey⟩⟩,
        fun hshares => hlimit _ ⟨e, he, .inr ⟨hshares, rfl⟩⟩⟩
    · rintro hlimit secs ⟨e, he, ⟨key, hkey⟩ | ⟨hshares, rfl⟩⟩
      · exact (hlimit e he).1 key secs hkey
      · exact (hlimit e he).2 hshares
  · obtain ⟨-, settings, h, rfl⟩ := exists_of_ofTimeouts hs
    exact ⟨c.secondsFrom settings r, TimeoutConfig.budgetSeconds_of_resolved h r, budget_layered r⟩
  · exact ⟨TimeoutConfig.budgetSeconds_eq_none_iff hnames,
      fun secs => TimeoutConfig.budgetSeconds_eq_some_iff hnames⟩

/-- The shared budget of the submission is above the limit, and so is the override of a
registration.  The submission has an override of its own, twice. -/
def lenient : TimeoutConfig :=
  { TimeoutConfig.standard with
    finalizeSeconds := 18446744073709551615
    overrides := .ofList [("FinalizationRound", 9), ("finalizationround ", 7),
      ("registrationround", 18446744073709551615)] }

/-- There is a supervisor of these budgets, with the second override of the submission.  With an
unknown key there is none. -/
theorem lenient_agrees :
    (∃ s, ofTimeouts lenient = .ok s ∧ lenient.budgetSeconds .finalization = .ok (some 7) ∧
      s.budget .finalization = some 7000 ∧ s.budget .registration = none) ∧
    (∃ key, lenient.overrides.Decides .finalization key 7) ∧
    ∃ key,
      ({ lenient with overrides := lenient.overrides.insert "Nowhere" 1 } :
        TimeoutConfig).overrides.FirstUnknown
      key := by
  obtain ⟨hexists, -, hbudgets, hdecides, -⟩ := ofTimeouts_agrees lenient
  obtain ⟨_, hsecs, hbudget⟩ := hbudgets _ rfl .finalization
  obtain ⟨_, hnone, hwaits⟩ := hbudgets _ rfl .registration
  cases hsecs
  cases hnone
  have hnames := (hexists.mp ⟨_, rfl⟩).1
  obtain ⟨_, -, ⟨key, hkey⟩ | ⟨hshares, -⟩⟩ := ((hdecides hnames .finalization).2 7).mp rfl
  · refine ⟨⟨_, rfl, rfl, hbudget, hwaits⟩, ⟨key, hkey⟩, ?_⟩
    obtain ⟨-, -, -, -, hrefuses⟩ :=
      ofTimeouts_agrees { lenient with overrides := lenient.overrides.insert "Nowhere" 1 }
    rcases (hrefuses _).mp rfl with ⟨key, hunknown, -⟩ | ⟨-, r, secs, -, hfault⟩
    · exact ⟨key, hunknown⟩
    · cases hfault
  · exact absurd ⟨"FinalizationRound", rfl, Round.namedBy_name .finalization⟩ hshares

end Supervisor

end RoundWorkflow
