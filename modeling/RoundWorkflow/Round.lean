import RoundWorkflow.Event

/-!
# Rounds

A round is a unit of work that ends when the replicas agree on its outcome.  The
set of rounds is closed: every replica knows the same names, so a name is enough
to compare and to exchange rounds.

Each round has at most one timeout event of its own (`Round.timeoutEvent`).  The
two registration rounds have none, because they wait for every replica.
-/

namespace RoundWorkflow

/-- A round of the workflow, in the order of the names. -/
inductive Round where
  /-- Decide whether to act in this period. -/
  | actionDecision
  /-- Prepare the action, or settle a transaction first. -/
  | actionPreparation
  /-- Publish a post. -/
  | actionTweet
  /-- Check that a transaction can be paid for. -/
  | checkFunds
  /-- Check the hashes that late messages carried. -/
  | checkLateTxHashes
  /-- Look the transaction up in the history. -/
  | checkTransactionHistory
  /-- Collect the feedback on earlier posts. -/
  | collectFeedback
  /-- Collect the signatures of the replicas. -/
  | collectSignature
  /-- Answer posts of others. -/
  | engageTwitter
  /-- Submit the signed transaction. -/
  | finalization
  /-- Load the shared database. -/
  | loadDatabase
  /-- Pull the items of a new period. -/
  | pullMemes
  /-- Agree on the randomness that selects a keeper. -/
  | randomnessTransactionSubmission
  /-- Register again after a failed reset. -/
  | registration
  /-- Register on a fresh start. -/
  | registrationStartup
  /-- End the period and pause. -/
  | resetAndPause
  /-- Reset the settlement of a transaction. -/
  | reset
  /-- Select the first keeper. -/
  | selectKeeperTransactionSubmissionA
  /-- Select another keeper after a timeout. -/
  | selectKeeperTransactionSubmissionBAfterTimeout
  /-- Select another keeper. -/
  | selectKeeperTransactionSubmissionB
  /-- Take in messages that arrived late. -/
  | synchronizeLateMessages
  /-- Validate the submitted transaction. -/
  | validateTransaction
  deriving DecidableEq, Repr, Inhabited

namespace Round

/-- Every round, in the order of the names. -/
def all : List Round :=
  [.actionDecision, .actionPreparation, .actionTweet, .checkFunds, .checkLateTxHashes,
    .checkTransactionHistory, .collectFeedback, .collectSignature, .engageTwitter,
    .finalization, .loadDatabase, .pullMemes, .randomnessTransactionSubmission, .registration,
    .registrationStartup, .resetAndPause, .reset, .selectKeeperTransactionSubmissionA,
    .selectKeeperTransactionSubmissionBAfterTimeout, .selectKeeperTransactionSubmissionB,
    .synchronizeLateMessages, .validateTransaction]

/-- The name of a round. -/
def name : Round → String
  | .actionDecision => "ActionDecisionRound"
  | .actionPreparation => "ActionPreparationRound"
  | .actionTweet => "ActionTweetRound"
  | .checkFunds => "CheckFundsRound"
  | .checkLateTxHashes => "CheckLateTxHashesRound"
  | .checkTransactionHistory => "CheckTransactionHistoryRound"
  | .collectFeedback => "CollectFeedbackRound"
  | .collectSignature => "CollectSignatureRound"
  | .engageTwitter => "EngageTwitterRound"
  | .finalization => "FinalizationRound"
  | .loadDatabase => "LoadDatabaseRound"
  | .pullMemes => "PullMemesRound"
  | .randomnessTransactionSubmission => "RandomnessTransactionSubmissionRound"
  | .registration => "RegistrationRound"
  | .registrationStartup => "RegistrationStartupRound"
  | .resetAndPause => "ResetAndPauseRound"
  | .reset => "ResetRound"
  | .selectKeeperTransactionSubmissionA => "SelectKeeperTransactionSubmissionARound"
  | .selectKeeperTransactionSubmissionBAfterTimeout =>
    "SelectKeeperTransactionSubmissionBAfterTimeoutRound"
  | .selectKeeperTransactionSubmissionB => "SelectKeeperTransactionSubmissionBRound"
  | .synchronizeLateMessages => "SynchronizeLateMessagesRound"
  | .validateTransaction => "ValidateTransactionRound"

instance : Enumeration Round where
  all := all
  mem_all r := by cases r <;> decide
  name := name

theorem nodup_all : (Enumeration.all : List Round).Nodup := by decide

instance : ToString Round := ⟨name⟩

/-- The round a replica enters on a fresh start. -/
def defaultStart : Round := .registrationStartup

/-- Whether this is one of the two registration rounds, where a replica may start. -/
def isRegistration : Round → Bool
  | .registration | .registrationStartup => true
  | _ => false

/-- The rounds a replica may start from, in the order of the names. -/
def starts : List Round := [.registration, .registrationStartup]

/-- The event that stands for this round having run out of its budget. -/
def timeoutEvent : Round → Option Event
  | .registration | .registrationStartup => none
  | .checkLateTxHashes | .checkTransactionHistory => some .checkTimeout
  | .finalization => some .finalizeTimeout
  | .validateTransaction => some .validateTimeout
  | .reset => some .resetTimeout
  | .resetAndPause => some .resetAndPauseTimeout
  | _ => some .roundTimeout

/-- Whether the round belongs to the settlement of a transaction, from the randomness to its
validation. -/
def isSettlement : Round → Bool
  | .randomnessTransactionSubmission | .selectKeeperTransactionSubmissionA
  | .selectKeeperTransactionSubmissionB | .selectKeeperTransactionSubmissionBAfterTimeout
  | .collectSignature | .finalization | .validateTransaction | .checkTransactionHistory
  | .synchronizeLateMessages | .checkLateTxHashes | .reset => true
  | _ => false

theorem timeoutEvent_eq_none_iff (r : Round) : r.timeoutEvent = none ↔ r.isRegistration = true := by
  cases r <;> simp [timeoutEvent, isRegistration]

theorem timeoutEvent_isTimeout {r : Round} {e : Event} (h : r.timeoutEvent = some e) :
    e.isTimeout = true := by
  cases r <;> simp [timeoutEvent] at h <;> subst h <;> rfl

end Round

end RoundWorkflow
