import RoundWorkflow.Proofs.Retries
import Mathlib.Data.Nat.Find

/-!
# Streaks in a sequence of calls

A streak is kept by two calls.  One records a transition under a policy, which may be another one
every time, and one starts over.  Some of the calls of a sequence retry a round, and retries of one
round right after one another make up a streak of the sequence (`Spans`).  It ends with a transition
to another round, with a retry of another round, or when the streak is started over.

`performAll` is what each call of a sequence leaves and whether it gives the signal.  Inside a
streak what is left tells the round, the number of retries so far, and whether the signal was given;
and it is given by the first call whose number is past the cap of the policy of this call (`Kept`).
A retry goes on with what the call before it has left, as long as that is of its round
(`Counts.perform`).  The first retry of a streak finds something else and begins from zero, and so
the count is right for all of them.  A call that retries no round leaves nothing behind
(`performAll_streaks`).
-/

namespace RoundWorkflow.Streak

/-! ## Calls -/

/-- A call on the streak that a replica keeps. -/
inductive Call where
  /-- A transition is recorded. -/
  | record (source target : Round) (policy : RetryPolicy)
  /-- The streak is started over. -/
  | reset

namespace Call

/-- The round that a call retries. -/
def retried? : Call → Option Round
  | .record source target _ => if source = target then some source else none
  | .reset => none

/-- The cap of the policy of a call. -/
def cap? : Call → Option UInt32
  | .record _ _ policy => policy.maxConsecutive
  | .reset => none

end Call

/-- What a call makes of a streak, and whether it gives the signal. -/
def perform (s : Streak) : Call → Streak × Bool
  | .record source target policy => s.record source target policy
  | .reset => (fresh, false)

/-- What each of the calls in turn makes of a streak, and whether it gives the signal. -/
def performAll (s : Streak) : List Call → List (Streak × Bool)
  | [] => []
  | c :: cs => s.perform c :: performAll (s.perform c).1 cs

variable {s : Streak} {c : Call} {calls : List Call} {r : Round} {start length n i j : Nat}

/-- A call leaves the round that it retries. -/
theorem round_perform (s : Streak) (c : Call) : (s.perform c).1.round = c.retried? := by
  cases c with
  | reset => rfl
  | record source target policy =>
    rw [perform, record, Call.retried?]
    by_cases h : source = target
    · rw [if_neg (not_not_intro h), if_pos h, of]
      split
      · assumption
      · rfl
    · rw [if_pos h, if_neg h]
      rfl

theorem perform_of_retried?_eq_none (h : c.retried? = none) : s.perform c = (fresh, false) := by
  cases c with
  | reset => rfl
  | record source target policy =>
    have hne : source ≠ target := fun heq => by simp [Call.retried?, heq] at h
    exact if_pos hne

/-- A retry goes on with the streak of its round. -/
theorem perform_of_retried?_eq_some (h : c.retried? = some r) :
    s.perform c =
      let count := countOn (s.of r).consecutive
      let signal := !(s.of r).signalled && RetryPolicy.exceededBy ⟨c.cap?⟩ count
      ({ s.of r with consecutive := count, signalled := (s.of r).signalled || signal },
        signal) := by
  cases c with
  | reset => cases h
  | record source target policy =>
    by_cases heq : source = target
    · rw [Call.retried?, if_pos heq] at h
      cases h
      exact if_neg (not_not_intro heq)
    · rw [Call.retried?, if_neg heq] at h
      cases h

theorem of_eq_self (h : s.round = some r) : s.of r = s := if_pos h

theorem of_eq_new (h : s.round ≠ some r) : s.of r = ⟨some r, 0, false⟩ := if_neg h

/-! ## Sequences of calls -/

/-- The streak that call `i` of a sequence finds. -/
def foundBy (calls : List Call) (i : Nat) : Streak :=
  (calls.take i).foldl (fun s c => (s.perform c).1) fresh

theorem performAll_getElem? (calls : List Call) (i : Nat) :
    (fresh.performAll calls)[i]? = calls[i]?.map (foundBy calls i).perform := by
  have hfrom (s : Streak) : (s.performAll calls)[i]? =
      calls[i]?.map ((calls.take i).foldl (fun s c => (s.perform c).1) s).perform := by
    induction calls generalizing s i with
    | nil => rfl
    | cons c cs ih =>
      cases i with
      | zero => rfl
      | succ i => exact ih i (s.perform c).1
  exact hfrom fresh

theorem foundBy_succ (h : calls[i]? = some c) :
    foundBy calls (i + 1) = ((foundBy calls i).perform c).1 := by
  rw [foundBy, List.take_add_one, h, List.foldl_append]
  rfl

/-- The round that call `i` of a sequence retries. -/
def retriedAt (calls : List Call) (i : Nat) : Option Round := calls[i]?.bind Call.retried?

theorem exists_of_retriedAt (h : retriedAt calls i = some r) :
    ∃ c, calls[i]? = some c ∧ c.retried? = some r :=
  Option.bind_eq_some_iff.mp h

/-- A call finds the round that the call before it has retried. -/
theorem round_foundBy_succ (h : i < calls.length) :
    (foundBy calls (i + 1)).round = retriedAt calls i := by
  have hcall : calls[i]? = some calls[i] := List.getElem?_eq_getElem h
  rw [foundBy_succ hcall, round_perform, retriedAt, hcall]
  rfl

/-! ## Streaks of a sequence -/

/-- A streak of a sequence of calls: so many retries of a round from a call on, with no other one
before or after. -/
structure Spans (calls : List Call) (r : Round) (start length : Nat) : Prop where
  pos : 0 < length
  retries : ∀ j < length, retriedAt calls (start + j) = some r
  begins : start = 0 ∨ retriedAt calls (start - 1) ≠ some r
  ends : retriedAt calls (start + length) ≠ some r

/-- Call `i` of a sequence is in a streak. -/
def InStreak (calls : List Call) (i : Nat) : Prop :=
  ∃ r start length, Spans calls r start length ∧ start ≤ i ∧ i < start + length

/-- Every retry is in a streak. -/
theorem inStreak_of_retriedAt (h : retriedAt calls i = some r) : InStreak calls i := by
  classical
  -- The first call from which on the round is retried as far as to this one.
  have hfrom : ∃ start, ∀ k, start ≤ k → k ≤ i → retriedAt calls k = some r :=
    ⟨i, fun k hle hge => by rwa [Nat.le_antisymm hge hle]⟩
  have hstart := Nat.find_spec hfrom
  have hle : Nat.find hfrom ≤ i :=
    Nat.find_min' hfrom fun k hle hge => by rwa [Nat.le_antisymm hge hle]
  -- The first call after it that does not retry the round.
  have hto : ∃ n, retriedAt calls (i + n) ≠ some r :=
    ⟨calls.length, by rw [retriedAt, List.getElem?_eq_none (Nat.le_add_left _ _)]; nofun⟩
  have hn : 0 < Nat.find hto := (Nat.find_pos hto).mpr (not_not_intro h)
  refine ⟨r, Nat.find hfrom, i + Nat.find hto - Nat.find hfrom, ?_, hle, by omega⟩
  refine { pos := by omega, retries := fun j hj => ?_, begins := ?_, ends := ?_ }
  · by_cases hji : Nat.find hfrom + j ≤ i
    · exact hstart _ (Nat.le_add_right _ _) hji
    · have hlt : Nat.find hfrom + j - i < Nat.find hto := by omega
      have hretried := not_not.mp (Nat.find_min hto hlt)
      rwa [Nat.add_sub_cancel' (by omega)] at hretried
  · by_cases hzero : Nat.find hfrom = 0
    · exact .inl hzero
    · right
      intro hbefore
      refine Nat.find_min hfrom (Nat.sub_one_lt hzero) fun k hlow hhigh => ?_
      rcases Nat.eq_or_lt_of_le hlow with rfl | hlt
      · exact hbefore
      · exact hstart k (by omega) hhigh
  · rw [Nat.add_sub_cancel' (by omega)]
    exact Nat.find_spec hto

/-- The calls in streaks are the retries. -/
theorem inStreak_iff : InStreak calls i ↔ ∃ r, retriedAt calls i = some r := by
  constructor
  · rintro ⟨r, start, length, h, hle, hlt⟩
    have hretried := h.retries (i - start) (by omega)
    rw [Nat.add_sub_cancel' hle] at hretried
    exact ⟨r, hretried⟩
  · rintro ⟨r, hr⟩
    exact inStreak_of_retriedAt hr

/-- Call `j` of a streak is past the cap of its policy, as far as a number of 32 bits can show. -/
def PastCap (calls : List Call) (start j : Nat) : Prop :=
  ∃ c, calls[start + j]? = some c ∧ ∃ cap, c.cap? = some cap ∧
    cap.toNat < min (j + 1) (UInt32.size - 1)

/-- Call `j` of a streak is the first one past the cap of its policy. -/
def FirstPastCap (calls : List Call) (start j : Nat) : Prop :=
  PastCap calls start j ∧ ∀ i < j, ¬PastCap calls start i

theorem FirstPastCap.eq (hi : FirstPastCap calls start i) (hj : FirstPastCap calls start j) :
    i = j := by
  rcases Nat.lt_trichotomy i j with hlt | heq | hgt
  · exact absurd hi.1 (hj.2 i hlt)
  · exact heq
  · exact absurd hj.1 (hi.2 j hgt)

/-- If there is a call past its cap, there is a first one. -/
theorem PastCap.exists_first (h : PastCap calls start j) : ∃ i ≤ j, FirstPastCap calls start i := by
  induction j using Nat.strong_induction_on with
  | _ j ih =>
    by_cases hfirst : ∃ i < j, PastCap calls start i
    · obtain ⟨i, hij, hi⟩ := hfirst
      obtain ⟨k, hki, hk⟩ := ih i hij hi
      exact ⟨k, hki.trans (Nat.le_of_lt hij), hk⟩
    · exact ⟨j, Nat.le_refl j, h, fun i hij hi => hfirst ⟨i, hij, hi⟩⟩

/-! ## What is kept in a streak -/

/-- A streak counts the retries of a round from a call on, and tells whether one of them was past
its cap. -/
structure Counts (calls : List Call) (r : Round) (start n : Nat) (s : Streak) : Prop where
  round : s.round = some r
  consecutive : s.consecutive = counted n
  signalled : s.signalled = true ↔ ∃ i < n, PastCap calls start i

theorem counts_new (calls : List Call) (r : Round) (start : Nat) :
    Counts calls r start 0 ⟨some r, 0, false⟩ where
  round := rfl
  consecutive := rfl
  signalled := ⟨nofun, fun ⟨_, hi, _⟩ => absurd hi (Nat.not_lt_zero _)⟩

theorem exceededBy_counted_iff_pastCap (h : calls[start + n]? = some c) :
    RetryPolicy.exceededBy ⟨c.cap?⟩ (counted (n + 1)) = true ↔ PastCap calls start n := by
  rw [exceededBy_counted_iff, PastCap]
  constructor
  · rintro ⟨cap, hcap, hbound, hlt⟩
    exact ⟨c, h, cap, hcap, Nat.lt_min.mpr ⟨hlt, hbound⟩⟩
  · rintro ⟨c', hc', cap, hcap, hlt⟩
    cases h.symm.trans hc'
    exact ⟨cap, hcap, (Nat.lt_min.mp hlt).2, (Nat.lt_min.mp hlt).1⟩

/-- One more retry is counted, and gives the signal if it is the first one past its cap. -/
theorem Counts.perform (hs : Counts calls r start n (s.of r)) (hcall : calls[start + n]? = some c)
    (hc : c.retried? = some r) :
    Counts calls r start (n + 1) (s.perform c).1 ∧
      ((s.perform c).2 = true ↔ FirstPastCap calls start n) := by
  have hexceeded := exceededBy_counted_iff_pastCap hcall
  rw [perform_of_retried?_eq_some hc, hs.consecutive, countOn_counted]
  refine ⟨⟨hs.round, rfl, ?_⟩, ?_⟩
  · -- Some call was past its cap before this one, or this one is.
    have hsplit : (∃ i < n + 1, PastCap calls start i) ↔ (∃ i < n, PastCap calls start i) ∨
        PastCap calls start n := by
      constructor
      · rintro ⟨i, hi, hpast⟩
        rcases Nat.lt_succ_iff_lt_or_eq.mp hi with hlt | rfl
        · exact .inl ⟨i, hlt, hpast⟩
        · exact .inr hpast
      · rintro (⟨i, hi, hpast⟩ | hpast)
        · exact ⟨i, Nat.lt_succ_of_lt hi, hpast⟩
        · exact ⟨n, Nat.lt_succ_self n, hpast⟩
    rw [hsplit, ← hs.signalled, ← hexceeded]
    cases (s.of r).signalled <;> simp
  · rw [Bool.and_eq_true, Bool.not_eq_true', Bool.eq_false_iff, Ne, hs.signalled, hexceeded,
      FirstPastCap, and_comm]
    simp

/-- Every call of a streak finds the retries before it counted. -/
theorem Spans.counts (h : Spans calls r start length) (hj : j < length) :
    Counts calls r start j ((foundBy calls (start + j)).of r) := by
  induction j with
  | zero =>
    cases start with
    | zero => exact counts_new calls r 0
    | succ i =>
      -- The call before the streak has retried another round, or none.
      have hbegins : retriedAt calls i ≠ some r := h.begins.resolve_left (Nat.succ_ne_zero i)
      obtain ⟨_, hcall, -⟩ := exists_of_retriedAt (h.retries 0 h.pos)
      have hi : i < calls.length := Nat.lt_of_succ_lt (List.getElem?_eq_some_iff.mp hcall).1
      rw [Nat.add_zero, of_eq_new (by rwa [round_foundBy_succ hi])]
      exact counts_new calls r _
  | succ j ih =>
    have hj' : j < length := Nat.lt_of_succ_lt hj
    obtain ⟨c, hcall, hc⟩ := exists_of_retriedAt (h.retries j hj')
    have hcounts := ((ih hj').perform hcall hc).1
    rw [← Nat.add_assoc, foundBy_succ hcall, of_eq_self hcounts.round]
    exact hcounts

/-- Call `i` of a sequence gives the signal. -/
def Signals (calls : List Call) (i : Nat) : Prop :=
  ∃ s, (fresh.performAll calls)[i]? = some (s, true)

/-- What the calls of a streak leave, and which of them gives the signal. -/
structure Kept (calls : List Call) (r : Round) (start length : Nat) : Prop where
  /-- Every call leaves the round, and the number of retries up to it. -/
  counted : ∀ j < length, ∃ s signal, (fresh.performAll calls)[start + j]? = some (s, signal) ∧
    s.round = some r ∧ s.consecutive.toNat = min (j + 1) (UInt32.size - 1)
  /-- The first call past the cap of its policy gives the signal, and no other one does. -/
  signals : ∀ j < length, Signals calls (start + j) ↔ FirstPastCap calls start j
  /-- There is one signal at most. -/
  once : ∀ i < length, ∀ j < length, Signals calls (start + i) → Signals calls (start + j) → i = j
  /-- From the signal on, every call leaves word of it. -/
  signalled : ∀ j < length, ∀ s signal, (fresh.performAll calls)[start + j]? = some (s, signal) →
    (s.signalled = true ↔ ∃ i ≤ j, Signals calls (start + i))

theorem Spans.kept (h : Spans calls r start length) : Kept calls r start length := by
  -- What call `j` leaves, and whether it signals.
  have houtcome : ∀ j < length, ∃ o, (fresh.performAll calls)[start + j]? = some o ∧
      Counts calls r start (j + 1) o.1 ∧ (o.2 = true ↔ FirstPastCap calls start j) := by
    intro j hj
    obtain ⟨c, hcall, hc⟩ := exists_of_retriedAt (h.retries j hj)
    refine ⟨(foundBy calls (start + j)).perform c, ?_, (h.counts hj).perform hcall hc⟩
    rw [performAll_getElem?, hcall, Option.map_some]
  have hsignals : ∀ j < length, (Signals calls (start + j) ↔ FirstPastCap calls start j) := by
    intro j hj
    obtain ⟨⟨s, signal⟩, ho, -, hsignal⟩ := houtcome j hj
    rw [← hsignal, Signals, ho]
    simp
  refine
    { counted := fun j hj => ?_, signals := hsignals, once := fun i hi j hj hsi hsj => ?_,
      signalled := ?_ }
  · obtain ⟨⟨s, signal⟩, ho, hcounts, -⟩ := houtcome j hj
    exact ⟨s, signal, ho, hcounts.round, by rw [hcounts.consecutive, toNat_counted]⟩
  · exact ((hsignals i hi).mp hsi).eq ((hsignals j hj).mp hsj)
  · intro j hj s signal ho
    obtain ⟨o, ho', hcounts, -⟩ := houtcome j hj
    cases ho.symm.trans ho'
    rw [hcounts.signalled]
    constructor
    · rintro ⟨i, hi, hpast⟩
      obtain ⟨k, hki, hk⟩ := hpast.exists_first
      exact ⟨k, by omega, (hsignals k (by omega)).mpr hk⟩
    · rintro ⟨i, hij, hsi⟩
      exact ⟨i, by omega, ((hsignals i (by omega)).mp hsi).1⟩

/-- Whatever is recorded, under whatever policies, and whenever it is started over: a streak is kept
call by call with its retries counted and at most one signal, and a call outside of all streaks
gives none and leaves nothing. -/
theorem performAll_streaks (calls : List Call) :
    (∀ r start length, Spans calls r start length → Kept calls r start length) ∧
      ∀ i < calls.length, ¬InStreak calls i →
        (fresh.performAll calls)[i]? = some (fresh, false) := by
  refine ⟨fun r start length h => h.kept, fun i hi houtside => ?_⟩
  have hcall : calls[i]? = some calls[i] := List.getElem?_eq_getElem hi
  have hnone : calls[i].retried? = none := by
    rw [inStreak_iff, retriedAt, hcall] at houtside
    exact Option.eq_none_iff_forall_ne_some.mpr (not_exists.mp houtside)
  rw [performAll_getElem?, hcall, Option.map_some, perform_of_retried?_eq_none hnone]

/-- Four retries of one round under four policies, between a retry of another round and a new start.
After that a retry that may not be, and the way out of the round. -/
def changingCalls : List Call :=
  [.record .resetAndPause .resetAndPause ⟨some 5⟩, .record .pullMemes .pullMemes ⟨none⟩,
    .record .pullMemes .pullMemes ⟨some 7⟩, .record .pullMemes .pullMemes ⟨some 1⟩,
    .record .pullMemes .pullMemes ⟨some 0⟩, .reset, .record .pullMemes .pullMemes ⟨some 0⟩,
    .record .pullMemes .resetAndPause ⟨some 0⟩]

/-- The third of the four retries is the first past its cap. -/
theorem changing_kept :
    Spans changingCalls .pullMemes 1 4 ∧ Kept changingCalls .pullMemes 1 4 ∧
      ¬InStreak changingCalls 5 ∧ (fresh.performAll changingCalls)[5]? = some (fresh, false) ∧
      (fresh.performAll changingCalls).map Prod.snd = [false, false, false, true, false, false,
        true, false] := by
  have hspans : Spans changingCalls .pullMemes 1 4 := ⟨by decide, by decide, by decide, by decide⟩
  have houtside : ¬InStreak changingCalls 5 := by
    rw [inStreak_iff]
    rintro ⟨r, hr⟩
    cases hr
  obtain ⟨hkept, hleft⟩ := performAll_streaks changingCalls
  exact ⟨hspans, hkept .pullMemes 1 4 hspans, houtside, hleft 5 (by decide) houtside, by decide⟩

end RoundWorkflow.Streak
