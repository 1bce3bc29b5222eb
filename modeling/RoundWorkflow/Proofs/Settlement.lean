import RoundWorkflow.Proofs.Canonical
import RoundWorkflow.Proofs.TransitionLog
import Mathlib.Tactic.MkIffOfInductiveProp

/-!
# The settlement of transactions

On the canonical table a transaction is settled in rounds of its own.  An attempt begins with
the agreement on the randomness that selects a keeper, and may begin again from there.  The
rounds of `Round.isSigned` handle a transaction that the replicas have signed: it is
submitted, submitted again by another keeper, validated and looked up.  Whatever detours a run
makes between them, none of them is to come before the signatures of its own attempt.

Which rounds a run goes through says nothing of signatures, so what it has behind it is kept
beside it: the part of the log since the latest attempt began (`LatestAttempt`), and whether
signatures were collected in it (`Signed`).  One transition keeps the books (`Booked.step`),
because of three facts about the edges of the graph: how the settlement is entered, how it is
left, and how the signed rounds are entered.  So a whole run does (`Walk.booked`), and a
stretch of settlement rounds has the two ends that the edges leave it.  The main statement is
`Engine.performAll_settlementSafe`.
-/

namespace RoundWorkflow

/-- Whether a round handles a transaction that the replicas have signed. -/
def Round.isSigned : Round → Bool
  | .finalization
  | .selectKeeperTransactionSubmissionB
  | .selectKeeperTransactionSubmissionBAfterTimeout
  | .validateTransaction
  | .checkTransactionHistory
  | .synchronizeLateMessages
  | .checkLateTxHashes => true
  | _ => false

theorem Round.isSettlement_of_isSigned {r : Round} (h : r.isSigned = true) :
    r.isSettlement = true := by
  cases r <;> first | rfl | cases h

/-! ## The edges of the settlement -/

/-- The settlement is entered when there are funds, with the agreement on the randomness. -/
theorem enters_settlement : ∀ e ∈ canonicalEdges, e.target.isSettlement = true →
    e.source.isSettlement = true ∨ e = ⟨.checkFunds, .done, .randomnessTransactionSubmission⟩ := by
  decide +kernel

/-- The settlement is left when the transaction was found, and then the action is prepared again. -/
theorem leaves_settlement :
    ∀ e ∈ canonicalEdges, e.source.isSettlement = true → e.target.isSettlement = false →
    e.event = .done ∧ e.target = .actionPreparation ∧
      e.source ∈ [.validateTransaction, .checkTransactionHistory, .checkLateTxHashes] := by
  decide +kernel

/-- The first of the signed rounds is entered when the signatures have been collected. -/
theorem enters_signed : ∀ e ∈ canonicalEdges, e.target.isSigned = true →
    e.source.isSigned = true ∨ (e.source = .collectSignature ∧ e.event = .done) := by
  decide +kernel

/-! ## Attempts -/

/-- The transitions after the last one that entered the agreement on the randomness. -/
def LatestAttempt (L attempt : List Record) : Prop :=
  ∃ before entry, L = before ++ entry :: attempt ∧ entry.target = .randomnessTransactionSubmission ∧
    ∀ r ∈ attempt, r.target ≠ .randomnessTransactionSubmission

/-- The signatures were collected later than the last transition that entered the agreement on the
randomness. -/
def Signed (L : List Record) : Prop :=
  ∃ attempt, LatestAttempt L attempt ∧ ∃ r ∈ attempt, r.source = .collectSignature ∧ r.event = .done

variable {L attempt : List Record} {r : Record}

theorem latestAttempt_of_enters (L : List Record)
    (h : r.target = .randomnessTransactionSubmission) :
    LatestAttempt (L ++ [r]) [] :=
  ⟨L, r, rfl, h, fun _ hr' => absurd hr' List.not_mem_nil⟩

theorem LatestAttempt.concat (h : LatestAttempt L attempt)
    (hr : r.target ≠ .randomnessTransactionSubmission) :
    LatestAttempt (L ++ [r]) (attempt ++ [r]) := by
  obtain ⟨before, entry, rfl, hentry, hothers⟩ := h
  refine ⟨before, entry, List.append_assoc _ _ _, hentry, fun r' hr' => ?_⟩
  rcases List.mem_append.mp hr' with hr' | hr'
  · exact hothers r' hr'
  · cases List.mem_singleton.mp hr'
    exact hr

theorem Signed.concat (h : Signed L) (hr : r.target ≠ .randomnessTransactionSubmission) :
    Signed (L ++ [r]) := by
  obtain ⟨attempt, hattempt, signature, hsignature, hcollects⟩ := h
  exact ⟨attempt ++ [r], hattempt.concat hr, signature,
    List.mem_append_left _ hsignature, hcollects⟩

/-- What the log has of a transaction that is settled in a round. -/
structure Booked (L : List Record) (r : Round) : Prop where
  /-- In the settlement an attempt has begun. -/
  begun : r.isSettlement = true → ∃ attempt, LatestAttempt L attempt
  /-- Where a transaction has to be signed, it is. -/
  signed : r.isSigned = true → Signed L

theorem booked_of_not_isSettlement {r : Round} (L : List Record) (h : r.isSettlement = false) :
    Booked L r where
  begun := fun hr => by cases h.symm.trans hr
  signed := fun hr => by cases h.symm.trans (Round.isSettlement_of_isSigned hr)

/-- A transition along an edge of the graph keeps the books. -/
theorem Booked.step (h : Booked L r.source) (he : r.edge ∈ canonicalEdges) :
    Booked (L ++ [r]) r.target where
  begun := fun htarget => by
    by_cases hr : r.target = .randomnessTransactionSubmission
    · exact ⟨[], latestAttempt_of_enters L hr⟩
    · rcases enters_settlement _ he htarget with hsource | hentry
      · obtain ⟨attempt, hattempt⟩ := h.begun hsource
        exact ⟨attempt ++ [r], hattempt.concat hr⟩
      · exact absurd (congrArg Edge.target hentry) hr
  signed := fun htarget => by
    have hr : r.target ≠ .randomnessTransactionSubmission := by
      intro hr
      rw [hr] at htarget
      cases htarget
    rcases enters_signed _ he htarget with hsource | ⟨(hsource : r.source = .collectSignature),
      hevent⟩
    · exact (h.signed hsource).concat hr
    · -- These are the signatures: the attempt has begun before.
      have hsettles : r.source.isSettlement = true := by
        rw [hsource]
        rfl
      obtain ⟨attempt, hattempt⟩ := h.begun hsettles
      exact ⟨attempt ++ [r], hattempt.concat hr, r, by simp, hsource, hevent⟩

/-! ## Walks through the graph -/

/-- The round after a number of the transitions of a log. -/
def roundAfter (origin : Round) (L : List Record) (k : Nat) : Round :=
  ((L.take k).getLast?.map Record.target).getD origin

/-- The transitions of a log are along the edges of the canonical graph, and each leaves the round
that those before it lead to. -/
structure Walk (origin : Round) (L : List Record) : Prop where
  edges : ∀ r ∈ L, r.edge ∈ canonicalEdges
  sources : ∀ (k : Nat) (h : k < L.length), L[k].source = roundAfter origin L k

variable {origin : Round} {k first last : Nat}

@[simp] theorem roundAfter_zero : roundAfter origin L 0 = origin := rfl

theorem roundAfter_succ (h : k < L.length) : roundAfter origin L (k + 1) = L[k].target := by
  rw [roundAfter, List.take_succ_eq_append_getElem h, List.getLast?_concat]
  rfl

/-- The moves of a replica of the canonical table are a walk from where it was. -/
theorem Engine.Moves.walk {g g' : Engine} {L : TransitionLog} (h : g.Moves L g')
    (htable : g.table = .canonical) :
    Walk g.current (L.map Change.record) where
  edges := by
    have hedges := h.edges
    rw [htable] at hedges
    exact List.forall_mem_map.mpr hedges
  sources := fun k hk => by
    rw [List.length_map] at hk
    rw [List.getElem_map]
    cases k with
    | zero => exact h.leaves _ (by rw [List.head?_eq_getElem?]; exact List.getElem?_eq_getElem hk)
    | succ k =>
      rw [roundAfter_succ (by rw [List.length_map]; omega), List.getElem_map]
      exact (List.isChain_iff_getElem.mp h.chained k hk).symm

/-- The replica is where its moves lead to. -/
theorem Engine.Moves.roundAfter_length {g g' : Engine} {L : TransitionLog} (h : g.Moves L g') :
    roundAfter g.current (L.map Change.record) (L.map Change.record).length = g'.current := by
  rw [roundAfter, List.take_length, List.getLast?_map, Option.map_map, h.current]
  rfl

/-- The books are kept along a walk that starts outside of the settlement. -/
theorem Walk.booked (h : Walk origin L) (horigin : origin.isSettlement = false)
    (hk : k ≤ L.length) :
    Booked (L.take k) (roundAfter origin L k) := by
  induction k with
  | zero => exact booked_of_not_isSettlement _ horigin
  | succ k ih =>
    have hlt : k < L.length := hk
    have hsource := ih (Nat.le_of_lt hlt)
    rw [← h.sources k hlt] at hsource
    rw [roundAfter_succ hlt, List.take_succ_eq_append_getElem hlt]
    exact hsource.step (h.edges _ (List.getElem_mem hlt))

/-! ## Stretches of settlement rounds -/

/-- The rounds of a walk from after `first` to after `last` transitions belong to the settlement,
and those next to them do not. -/
@[mk_iff]
structure Stretch (origin : Round) (L : List Record) (first last : Nat) : Prop where
  ordered : first ≤ last
  inside : last ≤ L.length
  settles : ∀ k ≤ last, first ≤ k → (roundAfter origin L k).isSettlement = true
  before : ∀ k < first, k + 1 = first → (roundAfter origin L k).isSettlement = false
  after : last < L.length → (roundAfter origin L (last + 1)).isSettlement = false

instance : Decidable (Stretch origin L first last) := decidable_of_iff' _ (stretch_iff ..)

theorem Walk.stretch_begins (h : Walk origin L) (horigin : origin.isSettlement = false)
    (hs : Stretch origin L first last) :
    ∃ (k : Nat) (hk : k < L.length), k + 1 = first ∧
      L[k].edge = ⟨.checkFunds, .done, .randomnessTransactionSubmission⟩ := by
  have hfirst := hs.settles first hs.ordered (Nat.le_refl _)
  cases first with
  | zero =>
    -- The walk itself does not begin in the settlement.
    rw [roundAfter_zero, horigin] at hfirst
    cases hfirst
  | succ k =>
    have hk : k < L.length := Nat.lt_of_lt_of_le hs.ordered hs.inside
    rw [roundAfter_succ hk] at hfirst
    refine ⟨k, hk, rfl, ?_⟩
    rcases enters_settlement _ (h.edges _ (List.getElem_mem hk)) hfirst with hsource | hentry
    · -- Then the stretch would have begun earlier.
      have hbefore := hs.before k (Nat.lt_succ_self k) rfl
      rw [← h.sources k hk] at hbefore
      cases hbefore.symm.trans hsource
    · exact hentry

theorem Walk.stretch_ends (h : Walk origin L) (hs : Stretch origin L first last)
    (hlast : last < L.length) :
    L[last].event = .done ∧ L[last].target = .actionPreparation ∧
      L[last].source ∈ [.validateTransaction, .checkTransactionHistory, .checkLateTxHashes] := by
  have hsource := hs.settles last (Nat.le_refl _) hs.ordered
  have htarget := hs.after hlast
  rw [← h.sources last hlast] at hsource
  rw [roundAfter_succ hlast] at htarget
  exact leaves_settlement _ (h.edges _ (List.getElem_mem hlast)) hsource htarget

/-! ## Safety -/

/-- What the log of a run says of the transactions that are settled in it. -/
structure SettlementSafe (origin : Round) (L : List Record) : Prop where
  /-- At any time of the run, a transaction that has to be signed is. -/
  signed : ∀ k ≤ L.length, (roundAfter origin L k).isSigned = true → Signed (L.take k)
  /-- Every stretch of settlement rounds begins with the randomness, after the check of the
  funds. -/
  begins : ∀ first last, Stretch origin L first last →
    ∃ (k : Nat) (hk : k < L.length), k + 1 = first ∧
    L[k].edge = ⟨.checkFunds, .done, .randomnessTransactionSubmission⟩
  /-- Every stretch that ends, ends with a transaction that was found. -/
  ends : ∀ first last, Stretch origin L first last → ∀ h : last < L.length,
    L[last].event = .done ∧ L[last].target = .actionPreparation ∧
      L[last].source ∈ [.validateTransaction, .checkTransactionHistory, .checkLateTxHashes]

theorem Walk.settlementSafe (h : Walk origin L) (horigin : origin.isSettlement = false) :
    SettlementSafe origin L where
  signed := fun _ hk => (h.booked horigin hk).signed
  begins := fun _ _ => h.stretch_begins horigin
  ends := fun _ _ => h.stretch_ends

theorem Table.isSettlement_of_canonical_isStart {r : Round} (h : Table.canonical.isStart r = true) :
    r.isSettlement = false := by
  rw [Table.canonical_isStart] at h
  cases r <;> first | rfl | cases h

namespace Engine

/-- After any calls on a replica of the canonical table, the settlement was safe at all times, and
where the replica is now, a transaction that has to be signed is. -/
theorem performAll_settlementSafe {c : EngineConfig} {s : Supervisor} {g₀ g : Engine}
    {calls : List Call}
    (hstart : start .canonical c s = .ok g₀) (hcalls : g₀.performAll calls = some g) :
    (g.current.isSigned = true → Signed ((g₀.performAllLog calls).map Change.record)) ∧
      SettlementSafe g₀.current ((g₀.performAllLog calls).map Change.record) := by
  have h₀ := start_setUp hstart
  have hmoves := performAll_moves hcalls
  have hsafe :=
    (hmoves.walk h₀.table).settlementSafe (Table.isSettlement_of_canonical_isStart h₀.isStart)
  refine ⟨fun hsigned => ?_, hsafe⟩
  have hafter := hsafe.signed _ (Nat.le_refl _)
  rw [hmoves.roundAfter_length, List.take_length] at hafter
  exact hafter hsigned

/-- Two settlements.  In the first the randomness is agreed on twice and another keeper submits the
transaction; the second is about to submit it. -/
def settlementEvents : List Event :=
  wayToFunds ++ [.done, .done, .incorrectSerialization, .done, .done, .done, .finalizeTimeout,
    .done, .done, .done] ++
    [.settle, .done, .done, .done, .done]

/-- The first settlement is a stretch of nine rounds, and the second has its signatures. -/
theorem settlementEvents_safe :
    ∃ g₀ g, start .canonical ⟨some .registration, 4, 4⟩ .standard = .ok g₀ ∧
      g₀.performAll [.stepAll settlementEvents] = some g ∧ g.current = .finalization ∧
      Stretch g₀.current ((g₀.performAllLog [.stepAll settlementEvents]).map Change.record) 8 16 ∧
      Signed ((g₀.performAllLog [.stepAll settlementEvents]).map Change.record) ∧
      SettlementSafe g₀.current
        ((g₀.performAllLog [.stepAll settlementEvents]).map Change.record) := by
  refine ⟨_, _, rfl, rfl, rfl, ?_, ?_⟩
  · decide +kernel
  · have hsafe :=
      @performAll_settlementSafe ⟨some .registration, 4, 4⟩ .standard _ _
        [.stepAll settlementEvents] rfl rfl
    exact ⟨hsafe.1 rfl, hsafe.2⟩

end Engine

end RoundWorkflow
