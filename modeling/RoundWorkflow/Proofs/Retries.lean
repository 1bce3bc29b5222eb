import RoundWorkflow.Proofs.TransitionLog
import Mathlib.Data.List.DropRight

/-!
# Retries in a row

A replica keeps a streak: a round, a number of 32 bits, and whether the signal was given.
What it stands for is in the log.  The retries in a row after any number of transitions are
the transitions at the end of the log that entered the round they left, and the streak
counts them as far as its number goes (`Streak.after`, `Moves.streak`).

The signal is given by the transition that is the first past the cap, and the number of
retries tells which one that is (`RetryPolicy.SignalsAt`).  A cap that the number cannot
go past is as good as none.  In a streak the number grows with every transition, so there
is one signal at most (`RetriesCounted`).
-/

namespace RoundWorkflow

/-- The number of retries in a row at the end of a log. -/
def retriesAtEnd (L : TransitionLog) : Nat := (L.rtakeWhile fun c => c.record.isSelfLoop).length

theorem retriesAtEnd_concat (L : TransitionLog) (c : Change Record) :
    retriesAtEnd (L ++ [c]) = if c.record.isSelfLoop then retriesAtEnd L + 1 else 0 := by
  rw [retriesAtEnd, List.rtakeWhile_concat, retriesAtEnd]
  split
  · rw [List.length_append, List.length_singleton]
  · rfl

theorem retriesAtEnd_take_succ {L : TransitionLog} {i : Nat} (hi : i < L.length) :
    retriesAtEnd (L.take (i + 1)) = if L[i].record.isSelfLoop then
      retriesAtEnd (L.take i) + 1 else 0 := by
  rw [← List.take_append_getElem hi, retriesAtEnd_concat]

/-- Whether a number of retries in a row is the first past the cap that a number of 32 bits can
show. -/
def RetryPolicy.SignalsAt (p : RetryPolicy) (n : Nat) : Prop :=
  ∃ cap, p.maxConsecutive = some cap ∧ cap.toNat < UInt32.size - 1 ∧ n = cap.toNat + 1

namespace Streak

/-! ## Streaks by their length -/

/-- The number of 32 bits for a number of retries in a row. -/
def counted (n : Nat) : UInt32 := .ofNat (min n (UInt32.size - 1))

theorem toNat_counted (n : Nat) : (counted n).toNat = min n (UInt32.size - 1) := by
  have hsize : min n (UInt32.size - 1) < UInt32.size := by
    change min n 4294967295 < 4294967296
    omega
  exact UInt32.toNat_ofNat_of_lt hsize

theorem countOn_counted (n : Nat) : countOn (counted n) = counted (n + 1) := by
  have hn : (counted n).toNat = min n 4294967295 := toNat_counted n
  have hsucc : (counted (n + 1)).toNat = min (n + 1) 4294967295 := toNat_counted (n + 1)
  rw [← UInt32.toNat_inj, countOn]
  change (if (counted n).toNat + 1 < 4294967296 then counted n + 1 else counted n).toNat = _
  split
  · rw [UInt32.toNat_add, hn, hsucc]
    change (min n 4294967295 + 1) % 4294967296 = min (n + 1) 4294967295
    omega
  · omega

theorem exceededBy_counted_iff {p : RetryPolicy} {n : Nat} :
    p.exceededBy (counted n) = true ↔
      ∃ cap, p.maxConsecutive = some cap ∧ cap.toNat < UInt32.size - 1 ∧ cap.toNat < n := by
  rw [RetryPolicy.exceededBy]
  cases p.maxConsecutive with
  | none => simp
  | some cap =>
    rw [decide_eq_true_iff, UInt32.lt_iff_toNat_lt, toNat_counted]
    constructor
    · intro h
      exact ⟨cap, rfl, by omega⟩
    · rintro ⟨_, h, hlt⟩
      cases h
      omega

/-- The streak of a round after some retries in a row. -/
def after (p : RetryPolicy) (r : Round) (n : Nat) : Streak :=
  if n = 0 then fresh else ⟨some r, counted n, p.exceededBy (counted n)⟩

theorem of_after (p : RetryPolicy) (r : Round) (n : Nat) :
    (after p r n).of r = ⟨some r, counted n, p.exceededBy (counted n)⟩ := by
  by_cases hn : n = 0
  · subst hn
    have hexceeded : p.exceededBy (counted 0) = false := by
      rw [Bool.eq_false_iff, Ne, exceededBy_counted_iff]
      rintro ⟨_, -, -, hlt⟩
      exact Nat.not_lt_zero _ hlt
    rw [hexceeded]
    rfl
  · rw [after, if_neg hn, of, if_pos rfl]

theorem consecutive_after (p : RetryPolicy) (r : Round) (n : Nat) :
    (after p r n).consecutive = counted n := by
  rw [after]
  split
  · subst n
    rfl
  · rfl

/-- A retry makes the streak longer by one, and gives the signal at one length only. -/
theorem record_after (p : RetryPolicy) (r : Round) (n : Nat) :
    ((after p r n).record r r p).1 = after p r (n + 1) ∧
      (((after p r n).record r r p).2 = true ↔ p.SignalsAt (n + 1)) := by
  have hrecord : (after p r n).record r r p =
      (⟨some r, counted (n + 1), p.exceededBy (counted n) || !p.exceededBy (counted n) &&
        p.exceededBy (counted (n + 1))⟩, !p.exceededBy (counted n) && p.exceededBy
          (counted (n + 1))) := by
    rw [record, if_neg (fun h => h rfl), of_after]
    dsimp only
    rw [countOn_counted]
  rw [hrecord]
  -- A streak that is past its cap stays past it.
  have hmono : p.exceededBy (counted n) = true → p.exceededBy (counted (n + 1)) = true := by
    rw [exceededBy_counted_iff, exceededBy_counted_iff]
    rintro ⟨cap, hcap, hbound, hlt⟩
    exact ⟨cap, hcap, hbound, Nat.lt_succ_of_lt hlt⟩
  constructor
  · rw [after, if_neg (Nat.succ_ne_zero n)]
    cases hexceeded : p.exceededBy (counted n) with
    | true => rw [hmono hexceeded, Bool.true_or]
    | false => rw [Bool.false_or, Bool.not_false, Bool.true_and]
  · rw [Bool.and_eq_true, Bool.not_eq_true', Bool.eq_false_iff, Ne, exceededBy_counted_iff,
      exceededBy_counted_iff, RetryPolicy.SignalsAt]
    constructor
    · rintro ⟨hbefore, cap, hcap, hbound, hlt⟩
      refine ⟨cap, hcap, hbound, ?_⟩
      by_contra hne
      exact hbefore ⟨cap, hcap, hbound, by omega⟩
    · rintro ⟨cap, hcap, hbound, hn⟩
      refine ⟨?_, cap, hcap, hbound, by omega⟩
      rintro ⟨cap', hcap', -, hlt⟩
      cases hcap.symm.trans hcap'
      omega

end Streak

/-- The notification of a transition shows a number of retries in a row, and gives the signal where
it is due. -/
structure Change.Shows (c : Change Record) (s : Supervisor) (n : Nat) : Prop where
  consecutive : c.consecutive.toNat = min n (UInt32.size - 1)
  limitExceeded : c.limitExceeded = true ↔ (s.policy c.record.source).SignalsAt n

namespace Engine

variable {g g' : Engine} {L : TransitionLog}

/-! ## Streaks and the log -/

/-- The streak of a replica is the end of a log. -/
def Tracks (g : Engine) (L : TransitionLog) : Prop :=
  g.streak = .after (g.supervisor.policy g.current) g.current (retriesAtEnd L)

/-- The transition that a replica makes next is counted with the log before it. -/
theorem Tracks.move (h : g.Tracks L) (e : Event) (r : Round) (timedOut : Bool) :
    (g.move ⟨g.current, e, r⟩ timedOut).Tracks (L ++ [g.notice ⟨g.current, e, r⟩ timedOut]) ∧
      (g.notice ⟨g.current, e, r⟩ timedOut).Shows g.supervisor
        (retriesAtEnd (L ++ [g.notice ⟨g.current, e, r⟩ timedOut])) := by
  by_cases hloop : g.current = r
  · -- The streak grows by one.
    have hretries :
        retriesAtEnd (L ++ [g.notice ⟨g.current, e, r⟩ timedOut]) = retriesAtEnd L + 1 := by
      rw [retriesAtEnd_concat]
      exact if_pos (decide_eq_true hloop)
    obtain ⟨hrecord, hsignal⟩ :=
      Streak.record_after (g.supervisor.policy g.current) g.current (retriesAtEnd L)
    rw [← h] at hrecord hsignal
    subst hloop
    rw [Tracks, hretries]
    refine ⟨hrecord, ?_, hsignal⟩
    rw [← Streak.toNat_counted, ← Streak.consecutive_after, ← hrecord]
    rfl
  · -- The streak is over.
    have hretries : retriesAtEnd (L ++ [g.notice ⟨g.current, e, r⟩ timedOut]) = 0 := by
      rw [retriesAtEnd_concat]
      exact if_neg fun h => hloop (of_decide_eq_true h)
    have hrecord : g.streak.record g.current r (g.supervisor.policy g.current) = (.fresh, false) :=
      if_pos hloop
    rw [Tracks, hretries]
    refine ⟨congrArg Prod.fst hrecord, ?_, ?_⟩
    · exact congrArg (fun recorded => recorded.1.consecutive.toNat) hrecord
    · constructor
      · intro hsignal
        cases (congrArg Prod.snd hrecord).symm.trans hsignal
      · rintro ⟨_, -, -, hzero⟩
        cases hzero

theorem Moves.supervisor (h : g.Moves L g') : g'.supervisor = g.supervisor := by
  induction h with
  | refl => rfl
  | freeze _ ih => exact ih
  | move _ _ ih => exact ih

theorem Moves.tracks (h : g.Moves L g') (hfresh : g.streak = .fresh) : g'.Tracks L := by
  induction h with
  | refl => exact hfresh
  | freeze _ ih => exact ih
  | move _ _ ih => exact (ih.move _ _ _).1

/-- Every notification shows the retries up to its transition. -/
theorem Moves.shows (h : g.Moves L g') (hfresh : g.streak = .fresh) (i : Nat) (hi : i < L.length) :
    L[i].Shows g.supervisor (retriesAtEnd (L.take (i + 1))) := by
  rw [← List.take_append_getElem hi]
  refine h.forall_entry (P := fun before c => c.Shows g.supervisor (retriesAtEnd (before ++ [c])))
    ?_ i hi
  intro before g' e r timedOut hbefore _
  rw [← hbefore.supervisor]
  exact ((hbefore.tracks hfresh).move e r timedOut).2

/-- Retries one after the other are of one round, and each is counted once more than the one before
it. -/
theorem Moves.retries_grow (h : g.Moves L g') {i j : Nat} (hij : i ≤ j) (hj : j < L.length)
    (hloops : ∀ (k : Nat) (hk : k < L.length), i ≤ k → k ≤ j → L[k].record.isSelfLoop = true) :
    L[j].record.source = L[i].record.source ∧
      retriesAtEnd (L.take (j + 1)) = retriesAtEnd (L.take (i + 1)) + (j - i) := by
  induction j, hij using Nat.le_induction with
  | base => rw [Nat.sub_self]; exact ⟨rfl, rfl⟩
  | succ j hij ih =>
    have hj' : j < L.length := Nat.lt_of_succ_lt hj
    obtain ⟨hsource, hretries⟩ := ih hj' fun k hk hik hkj => hloops k hk hik (Nat.le_succ_of_le hkj)
    have hchained : L[j].record.target = L[j + 1].record.source :=
      List.isChain_iff_getElem.mp h.chained j hj
    have hloop : L[j].record.source = L[j].record.target :=
      of_decide_eq_true (hloops j hj' hij (Nat.le_succ j))
    constructor
    · rw [← hchained, ← hloop, hsource]
    · rw [retriesAtEnd_take_succ hj,
        if_pos (hloops (j + 1) hj (Nat.le_succ_of_le hij) (Nat.le_refl _)), hretries]
      omega

/-- A transition that gives the signal is a retry. -/
theorem isSelfLoop_of_limitExceeded {s : Supervisor} {i : Nat} (hi : i < L.length)
    (h : L[i].Shows s (retriesAtEnd (L.take (i + 1)))) (hsignal : L[i].limitExceeded = true) :
    L[i].record.isSelfLoop = true := by
  obtain ⟨cap, -, -, hn⟩ := h.limitExceeded.mp hsignal
  by_contra hleaves
  rw [retriesAtEnd_take_succ hi, if_neg hleaves] at hn
  cases hn

theorem start_supervisor {t : Table} {c : EngineConfig} {s : Supervisor} (h : start t c s = .ok g) :
    g.supervisor = s := by
  rw [start] at h
  split at h
  · cases h
    rfl
  · cases h

/-- What the notifications of all transitions say of the retries, and that routing does not go by
it. -/
structure RetriesCounted (t : Table) (s : Supervisor) (L : TransitionLog) : Prop where
  /-- Every transition is shown the number of retries in a row up to it, and signals if that is the
  first past the cap of the round it leaves. -/
  shown : ∀ (i : Nat) (h : i < L.length), L[i].Shows s (retriesAtEnd (L.take (i + 1)))
  /-- A transition that leaves its round is no retry. -/
  leaving : ∀ c ∈ L, c.record.isSelfLoop = false → c.consecutive = 0
  /-- Between two signals a round is left. -/
  once : ∀ (i j : Nat) (hi : i < L.length) (hj : j < L.length), i < j →
    L[i].limitExceeded = true → L[j].limitExceeded = true →
      ∃ (k : Nat) (hk : k < L.length), i < k ∧ k < j ∧ L[k].record.isSelfLoop = false
  /-- A round without a cap never signals. -/
  uncapped : ∀ c ∈ L, (s.policy c.record.source).maxConsecutive = none → c.limitExceeded = false
  /-- Every transition enters the round that the table has for it. -/
  routed : ∀ c ∈ L, t.next c.record.source c.record.event = .ok c.record.target

/-- After any calls the log has its retries counted. -/
theorem performAll_retriesCounted {t : Table} {c : EngineConfig} {s : Supervisor} {g₀ g : Engine}
    {calls : List Call} (hstart : start t c s = .ok g₀) (hcalls : g₀.performAll calls = some g) :
    RetriesCounted t s (g₀.performAllLog calls) := by
  have h := performAll_moves hcalls
  have h₀ := start_setUp hstart
  have hshown := h.shows h₀.streak
  rw [start_supervisor hstart] at hshown
  refine
    { shown := hshown
      leaving := fun c hc hleaves => ?_
      once := fun i j hi hj hij hsignal hsignal' => ?_
      uncapped := fun c hc huncapped => ?_
      routed := fun c hc => ?_ }
  · obtain ⟨i, hi, rfl⟩ := List.getElem_of_mem hc
    have hzero := (hshown i hi).consecutive
    rw [retriesAtEnd_take_succ hi, if_neg (Bool.eq_false_iff.mp hleaves), Nat.zero_min] at hzero
    exact UInt32.toNat_inj.mp hzero
  · -- Without a round left in between, the signals are at two lengths of one streak.
    by_contra hnone
    have hloops : ∀ (k : Nat) (hk : k < (g₀.performAllLog calls).length), i ≤ k → k ≤ j →
        (g₀.performAllLog calls)[k].record.isSelfLoop = true := by
      intro k hk hik hkj
      rcases Nat.eq_or_lt_of_le hik with rfl | hik
      · exact isSelfLoop_of_limitExceeded hk (hshown _ hk) hsignal
      · rcases Nat.eq_or_lt_of_le hkj with rfl | hkj
        · exact isSelfLoop_of_limitExceeded hk (hshown _ hk) hsignal'
        · by_contra hleaves
          exact hnone ⟨k, hk, hik, hkj, Bool.eq_false_iff.mpr hleaves⟩
    obtain ⟨hsource, hgrow⟩ := h.retries_grow (Nat.le_of_lt hij) hj hloops
    obtain ⟨cap, hcap, -, hn⟩ := (hshown i hi).limitExceeded.mp hsignal
    obtain ⟨cap', hcap', -, hn'⟩ := (hshown j hj).limitExceeded.mp hsignal'
    rw [hsource, hcap] at hcap'
    cases hcap'
    omega
  · obtain ⟨i, hi, rfl⟩ := List.getElem_of_mem hc
    rw [Bool.eq_false_iff]
    intro hsignal
    obtain ⟨cap, hcap, -, -⟩ := (hshown i hi).limitExceeded.mp hsignal
    cases huncapped.symm.trans hcap
  · rw [Table.next_eq_ok_iff, ← h₀.table]
    exact h.edges c hc

/-- The standard budgets, and a signal at the second retry of a pulling of items. -/
def impatient : Supervisor :=
  { Supervisor.standard with policy := fun r => ⟨if r = .pullMemes then some 1 else none⟩ }

/-- A pulling of items that runs out of its budget and is retried twice more, and after a pause
another two times. -/
def retryCalls : List Call :=
  [.runRound (Registry.empty.register .pullMemes fun _ => .stall) ⟨.empty, false, ()⟩,
    .stepAll [.noMajority, .noMajority, .done, .done, .noMajority, .noMajority]]

/-- Each of the two streaks signals at its second retry. -/
theorem waits_retriesCounted :
    ∃ g₀ g, start waits .standard impatient = .ok g₀ ∧ g₀.performAll retryCalls = some g ∧
      (g₀.performAllLog retryCalls).map (fun c => (c.consecutive, c.limitExceeded)) =
        [(1, false), (2, true), (3, false), (0, false), (0, false), (1, false), (2, true)] ∧
      RetriesCounted waits impatient (g₀.performAllLog retryCalls) :=
  ⟨_, _, rfl, rfl, rfl, @performAll_retriesCounted _ .standard _ _ _ retryCalls rfl rfl⟩

end Engine

end RoundWorkflow
