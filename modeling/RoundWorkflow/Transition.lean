import RoundWorkflow.Edge

/-!
# The canonical round graph

`transition` is the graph every replica agrees on.  A pair of a round and an event
without an exit is undefined; a replica that meets one stands still, because no
default would be right.

The graph has three parts.  A replica registers.  Then it goes through the content
cycle, from pulling items to the pause that ends the period.  In the middle of the
cycle a transaction may be settled: keepers are selected, signatures collected, the
transaction submitted and validated, and late messages taken in.
-/

namespace RoundWorkflow

/-- The round that an event leads to from another round, if it leads anywhere. -/
def transition : Round → Event → Option Round
  -- registration
  | .registrationStartup, .done => some .loadDatabase
  | .registration, .done => some .loadDatabase
  | .registration, .noMajority => some .registration
  -- content cycle
  | .loadDatabase, .done => some .pullMemes
  | .loadDatabase, .noMajority => some .loadDatabase
  | .loadDatabase, .roundTimeout => some .loadDatabase
  | .pullMemes, .done => some .collectFeedback
  | .pullMemes, .noMajority => some .pullMemes
  | .pullMemes, .roundTimeout => some .pullMemes
  | .collectFeedback, .done => some .engageTwitter
  | .collectFeedback, .error => some .collectFeedback
  | .collectFeedback, .noMajority => some .collectFeedback
  | .collectFeedback, .roundTimeout => some .collectFeedback
  | .engageTwitter, .done => some .actionDecision
  | .engageTwitter, .error => some .engageTwitter
  | .engageTwitter, .noMajority => some .engageTwitter
  | .engageTwitter, .roundTimeout => some .engageTwitter
  | .actionDecision, .done => some .actionPreparation
  | .actionDecision, .wait => some .resetAndPause
  | .actionDecision, .noMajority => some .actionDecision
  | .actionDecision, .roundTimeout => some .actionDecision
  | .actionPreparation, .done => some .actionTweet
  | .actionPreparation, .settle => some .checkFunds
  | .actionPreparation, .error => some .resetAndPause
  | .actionPreparation, .noMajority => some .actionPreparation
  | .actionPreparation, .roundTimeout => some .actionPreparation
  | .checkFunds, .done => some .randomnessTransactionSubmission
  | .checkFunds, .noFunds => some .checkFunds
  | .checkFunds, .noMajority => some .checkFunds
  | .checkFunds, .roundTimeout => some .checkFunds
  | .actionTweet, .done => some .resetAndPause
  | .actionTweet, .error => some .actionTweet
  | .actionTweet, .noMajority => some .actionTweet
  | .actionTweet, .roundTimeout => some .actionTweet
  -- settlement of a transaction
  | .randomnessTransactionSubmission, .done => some .selectKeeperTransactionSubmissionA
  | .randomnessTransactionSubmission, .noMajority => some .randomnessTransactionSubmission
  | .randomnessTransactionSubmission, .roundTimeout => some .randomnessTransactionSubmission
  | .selectKeeperTransactionSubmissionA, .done => some .collectSignature
  | .selectKeeperTransactionSubmissionA, .noMajority => some .reset
  | .selectKeeperTransactionSubmissionA, .roundTimeout => some .selectKeeperTransactionSubmissionA
  | .selectKeeperTransactionSubmissionA, .incorrectSerialization =>
    some .randomnessTransactionSubmission
  | .collectSignature, .done => some .finalization
  | .collectSignature, .noMajority => some .reset
  | .collectSignature, .roundTimeout => some .collectSignature
  | .finalization, .done => some .validateTransaction
  | .finalization, .checkHistory => some .checkTransactionHistory
  | .finalization, .checkLateArrivingMessage => some .synchronizeLateMessages
  | .finalization, .finalizationFailed => some .selectKeeperTransactionSubmissionB
  | .finalization, .insufficientFunds => some .selectKeeperTransactionSubmissionB
  | .finalization, .finalizeTimeout => some .selectKeeperTransactionSubmissionBAfterTimeout
  | .selectKeeperTransactionSubmissionB, .done => some .finalization
  | .selectKeeperTransactionSubmissionB, .noMajority => some .selectKeeperTransactionSubmissionB
  | .selectKeeperTransactionSubmissionB, .roundTimeout => some .selectKeeperTransactionSubmissionB
  | .selectKeeperTransactionSubmissionB, .incorrectSerialization =>
    some .randomnessTransactionSubmission
  | .selectKeeperTransactionSubmissionBAfterTimeout, .done => some .finalization
  | .selectKeeperTransactionSubmissionBAfterTimeout, .checkHistory => some .checkTransactionHistory
  | .selectKeeperTransactionSubmissionBAfterTimeout, .checkLateArrivingMessage =>
    some .synchronizeLateMessages
  | .selectKeeperTransactionSubmissionBAfterTimeout, .noMajority =>
    some .selectKeeperTransactionSubmissionBAfterTimeout
  | .selectKeeperTransactionSubmissionBAfterTimeout, .roundTimeout =>
    some .selectKeeperTransactionSubmissionBAfterTimeout
  | .selectKeeperTransactionSubmissionBAfterTimeout, .incorrectSerialization =>
    some .randomnessTransactionSubmission
  | .validateTransaction, .done => some .actionPreparation
  | .validateTransaction, .negative => some .checkTransactionHistory
  | .validateTransaction, .validateTimeout => some .checkTransactionHistory
  | .validateTransaction, .absent => some .selectKeeperTransactionSubmissionB
  | .validateTransaction, .noMajority => some .validateTransaction
  | .checkTransactionHistory, .done => some .actionPreparation
  | .checkTransactionHistory, .negative => some .selectKeeperTransactionSubmissionB
  | .checkTransactionHistory, .checkLateArrivingMessage => some .synchronizeLateMessages
  | .checkTransactionHistory, .checkTimeout => some .checkTransactionHistory
  | .checkTransactionHistory, .noMajority => some .checkTransactionHistory
  | .checkTransactionHistory, .absent => some .randomnessTransactionSubmission
  | .synchronizeLateMessages, .done => some .checkLateTxHashes
  | .synchronizeLateMessages, .absent => some .selectKeeperTransactionSubmissionB
  | .synchronizeLateMessages, .roundTimeout => some .synchronizeLateMessages
  | .synchronizeLateMessages, .suspiciousActivity => some .randomnessTransactionSubmission
  | .checkLateTxHashes, .done => some .actionPreparation
  | .checkLateTxHashes, .checkLateArrivingMessage => some .synchronizeLateMessages
  | .checkLateTxHashes, .checkTimeout => some .checkLateTxHashes
  | .checkLateTxHashes, .negative => some .randomnessTransactionSubmission
  | .checkLateTxHashes, .absent => some .randomnessTransactionSubmission
  | .checkLateTxHashes, .noMajority => some .randomnessTransactionSubmission
  | .reset, .done => some .randomnessTransactionSubmission
  | .reset, .noMajority => some .randomnessTransactionSubmission
  | .reset, .resetTimeout => some .randomnessTransactionSubmission
  -- the end of the period
  | .resetAndPause, .done => some .pullMemes
  | .resetAndPause, .noMajority => some .registration
  | .resetAndPause, .resetAndPauseTimeout => some .registration
  | _, _ => none

/-- The edges of the canonical graph that leave a round, in the order of the events. -/
def canonicalExits (r : Round) : List Edge :=
  Event.all.filterMap fun e => (transition r e).map fun r' => ⟨r, e, r'⟩

/-- Every edge of the canonical graph, by round and then by event. -/
def canonicalEdges : List Edge := Round.all.flatMap canonicalExits

/-- The edges are the graph of the function. -/
theorem mem_canonicalEdges_iff {e : Edge} :
    e ∈ canonicalEdges ↔ transition e.source e.event = some e.target := by
  simp only [canonicalEdges, canonicalExits, List.mem_flatMap, List.mem_filterMap,
    Option.map_eq_some_iff]
  constructor
  · rintro ⟨_, _, _, _, _, h, rfl⟩
    exact h
  · exact fun h => ⟨e.source, Enumeration.mem_all e.source, e.event,
      Enumeration.mem_all e.event, _, h, rfl⟩

end RoundWorkflow
