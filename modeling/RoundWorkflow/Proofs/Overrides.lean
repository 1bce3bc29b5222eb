import RoundWorkflow.Retry
import RoundWorkflow.Proofs.Budgets

/-!
# Setting a single round

`TimeoutConfig.withOverride` and `RetryConfig.withRound` write a setting of a round at the
round's own name.  Whatever stood there is replaced, and no other key is touched: a key that
spells the name otherwise stays in the map.

A map from a source that folds case has the name in small letters, and small letters come
after capital ones.  So the key that was there before comes after the round's own name, and it
goes on to decide.  Such a key *overrules* the name (`Dict.Overrules`), and then the new
setting is not seen at all.  `own_name_counts` says that it counts in all other cases, and
that other rounds are never concerned.
-/

namespace RoundWorkflow

/-! ## Maps -/

namespace Dict

variable {α : Type} {d : Dict α} {r r' : Round} {key : String} {a b : α}

/-- Some key that names the round comes after the round's own name. -/
def Overrules (d : Dict α) (r : Round) : Prop :=
  ∃ key, d.contains key = true ∧ r.NamedBy key ∧ r.name < key

/-- Unless it is overruled, the round's own name decides. -/
theorem decides_insert_name (h : ¬d.Overrules r) : (d.insert r.name a).Decides r r.name a where
  value := by rw [get?_insert, if_pos rfl]
  named := r.namedBy_name
  last other hother hnamed := by
    rcases contains_insert.mp hother with rfl | hother
    · exact String.le_refl _
    · exact String.not_lt.mp fun hlt => h ⟨other, hother, hnamed, hlt⟩

/-- Another key decides as it did before, if it does not come before the new one. -/
theorem decides_insert_of_ne {new : String} (hne : key ≠ new) :
    (d.insert new a).Decides r key b ↔ d.Decides r key b ∧ (r.NamedBy new → new ≤ key) := by
  have hvalue : (d.insert new a).get? key = d.get? key := by rw [get?_insert, if_neg hne]
  constructor
  · rintro ⟨hget, hnamed, hlast⟩
    refine ⟨⟨hvalue ▸ hget, hnamed, fun other hother => ?_⟩,
      hlast new (contains_insert.mpr (.inl rfl))⟩
    exact hlast other (contains_insert.mpr (.inr hother))
  · rintro ⟨⟨hget, hnamed, hlast⟩, hnew⟩
    refine ⟨hvalue.trans hget, hnamed, fun other hother hnamed' => ?_⟩
    rcases contains_insert.mp hother with rfl | hother
    · exact hnew hnamed'
    · exact hlast other hother hnamed'

/-- If it is overruled, nothing changes. -/
theorem decides_insert_name_of_overrules (h : d.Overrules r) :
    (d.insert r.name a).Decides r key b ↔ d.Decides r key b := by
  obtain ⟨other, hother, hnamed, hlt⟩ := h
  have hother' : (d.insert r.name a).contains other = true := contains_insert.mpr (.inr hother)
  -- Whichever key decides, before or after, it does not come before the one that overrules.
  have hafter : other ≤ key → key ≠ r.name := by
    rintro hle rfl
    exact hle hlt
  constructor
  · intro hdecides
    exact ((decides_insert_of_ne (hafter (hdecides.last other hother' hnamed))).mp hdecides).1
  · intro hdecides
    have hle := hdecides.last other hother hnamed
    refine (decides_insert_of_ne (hafter hle)).mpr ⟨hdecides, fun _ => ?_⟩
    exact String.le_trans (String.not_lt.mp (String.lt_asymm hlt)) hle

/-- The name of one round decides for no other. -/
theorem decides_insert_name_of_ne (hne : r' ≠ r) :
    (d.insert r.name a).Decides r' key b ↔ d.Decides r' key b := by
  have hother : ¬r'.NamedBy r.name := fun h => hne (h.unique r.namedBy_name)
  have hkey : r'.NamedBy key → key ≠ r.name := by
    rintro h rfl
    exact hother h
  constructor
  · intro hdecides
    exact ((decides_insert_of_ne (hkey hdecides.named)).mp hdecides).1
  · intro hdecides
    exact (decides_insert_of_ne (hkey hdecides.named)).mpr ⟨hdecides, fun h => absurd h hother⟩

end Dict

/-! ## Settings -/

/-- With a setting at the name of a round, the round has this setting or the one it had, and the
other rounds have the ones they had. -/
theorem RoundSettings.exists_insert_name {α : Type} {d : Dict α} (h : d.NamesRounds)
    (r : Round) (a : α) :
    ∃ before after, ofEntries d.entries = .ok before ∧
      ofEntries (d.insert r.name a).entries = .ok after ∧
      (¬d.Overrules r → after.get? r = some a) ∧ (d.Overrules r → after.get? r = before.get? r) ∧
      ∀ r' ≠ r, after.get? r' = before.get? r' := by
  obtain ⟨before, hbefore⟩ := exists_ofEntries_iff.mpr h
  obtain ⟨after, hafter⟩ := exists_ofEntries_iff.mpr (h.insert_name r a)
  have hsame : ∀ r', (∀ key b, (d.insert r.name a).Decides r' key b ↔ d.Decides r' key b) →
      after.get? r' = before.get? r' := by
    intro r' hdecides
    refine Option.ext fun b => ?_
    rw [get?_eq_some_iff hafter, get?_eq_some_iff hbefore]
    exact exists_congr fun key => hdecides key b
  refine ⟨before, after, hbefore, hafter, fun hcounts => ?_, fun hover => ?_, fun r' hne => ?_⟩
  · exact (get?_eq_some_iff hafter).mpr ⟨r.name, Dict.decides_insert_name hcounts⟩
  · exact hsame r fun _ _ => Dict.decides_insert_name_of_overrules hover
  · exact hsame r' fun _ _ => Dict.decides_insert_name_of_ne hne

/-- What is set for a round counts exactly if no key that names the round comes after the round's
own name, or if it was the setting of the round before.  Otherwise the round keeps the setting it
had.  The other rounds keep theirs in any case.  This is so for budgets and for retry policies. -/
theorem own_name_counts (r : Round) :
    (∀ (c : TimeoutConfig) (secs : UInt64), c.overrides.NamesRounds → r.timeoutEvent ≠ none →
      ((c.withOverride r secs).budgetSeconds r = .ok (some secs) ↔
        ¬c.overrides.Overrules r ∨ c.budgetSeconds r = .ok (some secs)) ∧
      (c.overrides.Overrules r → (c.withOverride r secs).budgetSeconds r = c.budgetSeconds r) ∧
      ∀ r' ≠ r, (c.withOverride r secs).budgetSeconds r' = c.budgetSeconds r') ∧
    ∀ (c : RetryConfig) (p : RetryPolicy), c.rounds.NamesRounds →
      ∃ before after, c.resolve = .ok before ∧ (c.withRound r p).resolve = .ok after ∧
        (after r = p ↔ ¬c.rounds.Overrules r ∨ before r = p) ∧
        (c.rounds.Overrules r → after r = before r) ∧ ∀ r' ≠ r, after r' = before r' := by
  constructor
  · intro c secs hnames htimeout
    obtain ⟨before, after, hbefore, hafter, hcounts, hover, hothers⟩ :=
      RoundSettings.exists_insert_name hnames r secs
    have hafter : (c.withOverride r secs).resolvedOverrides = .ok after := hafter
    have hsame : ∀ r', after.get? r' = before.get? r' →
        (c.withOverride r secs).budgetSeconds r' = c.budgetSeconds r' := by
      intro r' hget
      rw [TimeoutConfig.budgetSeconds_of_resolved hbefore,
        TimeoutConfig.budgetSeconds_of_resolved hafter, TimeoutConfig.secondsFrom,
        TimeoutConfig.secondsFrom, hget]
      rfl
    refine ⟨?_, fun hoverrules => hsame r (hover hoverrules),
      fun r' hne => hsame r' (hothers r' hne)⟩
    by_cases hoverrules : c.overrides.Overrules r
    · rw [hsame r (hover hoverrules)]
      simp [hoverrules]
    · obtain ⟨e, he⟩ := Option.ne_none_iff_exists'.mp htimeout
      rw [TimeoutConfig.budgetSeconds_of_resolved hafter, TimeoutConfig.secondsFrom, he,
        hcounts hoverrules]
      simp [hoverrules]
  · intro c p hnames
    obtain ⟨before, after, hbefore, hafter, hcounts, hover, hothers⟩ :=
      RoundSettings.exists_insert_name hnames r p
    refine ⟨fun r => (before.get? r).getD c.default, fun r => (after.get? r).getD c.default,
      ?_, ?_, ?_,
      fun hoverrules => ?_, fun r' hne => ?_⟩
    · rw [RetryConfig.resolve, hbefore]
      rfl
    · rw [RetryConfig.resolve, RetryConfig.withRound, hafter]
      rfl
    · by_cases hoverrules : c.rounds.Overrules r
      · simp [hoverrules, hover hoverrules]
      · simp [hoverrules, hcounts hoverrules]
    · dsimp only
      rw [hover hoverrules]
    · dsimp only
      rw [hothers r' hne]

/-- A map from a source that folds case, with a setting for the submission. -/
def folded {α : Type} (a : α) : Dict α := Dict.empty.insert "finalizationround" a

theorem folded_named : Round.NamedBy .finalization "finalizationround" :=
  Round.ofSettingName?_eq_some_iff.mp rfl

theorem folded_namesRounds {α : Type} (a : α) : (folded a).NamesRounds := by
  intro key hkey
  rcases Dict.contains_insert.mp hkey with rfl | hkey
  · exact ⟨.finalization, folded_named⟩
  · cases hkey

theorem folded_overrules {α : Type} (a : α) : (folded a).Overrules .finalization :=
  ⟨"finalizationround", Dict.contains_insert.mpr (.inl rfl), folded_named, by decide⟩

/-- Seven seconds for the submission. -/
def foldedTimeouts : TimeoutConfig := { TimeoutConfig.standard with overrides := folded 7 }

/-- Seven retries of the submission in a row. -/
def foldedRetries : RetryConfig := { RetryConfig.standard with rounds := folded ⟨some 7⟩ }

/-- Eleven seconds for the submission count if nothing else is set, and not if a folded key has
seven for it. -/
theorem folded_counts :
    (TimeoutConfig.standard.withOverride .finalization 11).budgetSeconds .finalization =
      .ok (some 11) ∧
      (foldedTimeouts.withOverride .finalization 11).budgetSeconds .finalization = .ok (some 7) ∧
      ∃ policy, (foldedRetries.withRound .finalization ⟨some 11⟩).resolve = .ok policy ∧
        policy .finalization = ⟨some 7⟩ ∧ policy .reset = ⟨none⟩ := by
  obtain ⟨hbudgets, hpolicies⟩ := own_name_counts .finalization
  have hempty : TimeoutConfig.standard.overrides.NamesRounds :=
    RoundSettings.exists_ofEntries_iff.mp ⟨[], rfl⟩
  have hnone : ¬TimeoutConfig.standard.overrides.Overrules .finalization := by
    rintro ⟨key, hkey, -⟩
    cases hkey
  obtain ⟨-, hkept, -⟩ := hbudgets foldedTimeouts 11 (folded_namesRounds 7) nofun
  obtain ⟨before, after, hbefore, hafter, -, hover, hothers⟩ :=
    hpolicies foldedRetries ⟨some 11⟩ (folded_namesRounds _)
  cases hbefore
  refine ⟨(hbudgets .standard 11 hempty nofun).1.mpr (.inl hnone), ?_, after, hafter, ?_, ?_⟩
  · rw [hkept (folded_overrules 7)]
    rfl
  · rw [hover (folded_overrules _)]
    rfl
  · rw [hothers .reset nofun]
    rfl

/-- A key in small letters hides a budget, and a retry policy, that is set for its round. -/
theorem folded_hides :
    (foldedTimeouts.overrides.NamesRounds ∧ Round.timeoutEvent .finalization ≠ none ∧
      (foldedTimeouts.withOverride .finalization 11).budgetSeconds .finalization ≠ .ok (some 11)) ∧
    foldedRetries.rounds.NamesRounds ∧
      ¬∃ policy, (foldedRetries.withRound .finalization ⟨some 11⟩).resolve = .ok policy ∧
        policy .finalization = ⟨some 11⟩ := by
  refine ⟨⟨folded_namesRounds _, nofun, fun h => ?_⟩, folded_namesRounds _, ?_⟩
  · cases h
  · rintro ⟨policy, h, hpolicy⟩
    cases h
    cases hpolicy

end RoundWorkflow
