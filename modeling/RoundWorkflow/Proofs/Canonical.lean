import RoundWorkflow.Proofs.TableLookup

/-!
# The canonical table

The canonical graph is the graph of a function on rounds and events, which accepts the event
`done` in every round.  So its keys are distinct and every round has an exit.  A path leads
to every round from the fresh start (`wayTo`).  Hence the specification is sensible
(`canonical_sensible`), and there is a table of it (`Table.canonical`), which leads where
`transition` does (`Table.canonical_next_eq_ok_iff`).
-/

namespace RoundWorkflow

variable {r r' a b : Round} {e : Event}

/-! ## The graph -/

/-- Every round accepts the event that it succeeded. -/
theorem exists_transition_done (r : Round) : ∃ r', transition r .done = some r' := by
  cases r <;> exact ⟨_, rfl⟩

/-- The canonical graph lists its edges by their keys: rounds and events are gone through in
order. -/
theorem ascending_canonicalEdges : canonicalEdges.Pairwise fun e f => e.key < f.key := by
  have hexits : ∀ (r : Round), ∀ e ∈ canonicalExits r, e.source = r := by
    intro r e he
    obtain ⟨_, -, htarget⟩ := List.mem_filterMap.mp he
    obtain ⟨_, -, rfl⟩ := Option.map_eq_some_iff.mp htarget
    rfl
  rw [canonicalEdges, List.pairwise_flatMap]
  constructor
  · intro r _
    rw [canonicalExits, List.pairwise_filterMap]
    refine Event.ascending_all.imp fun {e e'} hlt f hf f' hf' => .inr ?_
    obtain ⟨_, -, rfl⟩ := Option.map_eq_some_iff.mp hf
    obtain ⟨_, -, rfl⟩ := Option.map_eq_some_iff.mp hf'
    exact ⟨rfl, hlt⟩
  · refine Round.ascending_all.imp fun {r r'} hlt f hf f' hf' => .inl ?_
    cases hexits r f hf
    cases hexits r' f' hf'
    exact hlt

/-- No two edges of the canonical graph have one key. -/
theorem pairwise_key_canonicalEdges : canonicalEdges.Pairwise fun e f => e.key ≠ f.key :=
  ascending_canonicalEdges.imp Key.ne_of_lt

/-- Events that are accepted one after the other are a path. -/
theorem Path.follow (h : Path canonicalEdges a b) (es : List Event)
    (hes : es.foldlM transition b = some r) :
    Path canonicalEdges a r := by
  induction es generalizing b with
  | nil =>
    cases hes
    exact h
  | cons e es ih =>
    obtain ⟨b', hb', hrest⟩ := Option.bind_eq_some_iff.mp hes
    exact ih (.step (e := ⟨b, e, b'⟩) h (mem_canonicalEdges_iff.mpr hb')) hrest

/-- The events of a fresh replica on its way to the settlement of a transaction. -/
def wayToFunds : List Event := .replicate 6 .done ++ [.settle]

/-- The events of a fresh replica on its way to a round. -/
def wayTo : Round → List Event
  | .registrationStartup => []
  | .loadDatabase => [.done]
  | .pullMemes => .replicate 2 .done
  | .collectFeedback => .replicate 3 .done
  | .engageTwitter => .replicate 4 .done
  | .actionDecision => .replicate 5 .done
  | .actionPreparation => .replicate 6 .done
  | .actionTweet => .replicate 7 .done
  | .resetAndPause => .replicate 8 .done
  | .registration => .replicate 8 .done ++ [.noMajority]
  | .checkFunds => wayToFunds
  | .randomnessTransactionSubmission => wayToFunds ++ [.done]
  | .selectKeeperTransactionSubmissionA => wayToFunds ++ .replicate 2 .done
  | .reset => wayToFunds ++ .replicate 2 .done ++ [.noMajority]
  | .collectSignature => wayToFunds ++ .replicate 3 .done
  | .finalization => wayToFunds ++ .replicate 4 .done
  | .validateTransaction => wayToFunds ++ .replicate 5 .done
  | .checkTransactionHistory => wayToFunds ++ .replicate 4 .done ++ [.checkHistory]
  | .synchronizeLateMessages => wayToFunds ++ .replicate 4 .done ++ [.checkLateArrivingMessage]
  | .checkLateTxHashes => wayToFunds ++ .replicate 4 .done ++ [.checkLateArrivingMessage, .done]
  | .selectKeeperTransactionSubmissionB => wayToFunds ++ .replicate 4 .done ++ [.finalizationFailed]
  | .selectKeeperTransactionSubmissionBAfterTimeout =>
    wayToFunds ++ .replicate 4 .done ++ [.finalizeTimeout]

theorem foldlM_wayTo (r : Round) : (wayTo r).foldlM transition .registrationStartup = some r := by
  cases r <;> rfl

/-- The canonical graph passes every check of the validation. -/
theorem canonical_sensible : Specification.canonical.Sensible where
  state := ⟨.registration, EnumSet.mem_full⟩
  defaultStart := by decide
  starts := fun _ _ => EnumSet.mem_full
  finals := fun _ _ => EnumSet.mem_full
  ends := fun _ _ => ⟨EnumSet.mem_full, EnumSet.mem_full⟩
  events := fun _ _ => EnumSet.mem_full
  keys := pairwise_key_canonicalEdges
  exits := fun r _ _ => by
    obtain ⟨r', hr'⟩ := exists_transition_done r
    exact ⟨⟨r, .done, r'⟩, mem_canonicalEdges_iff.mpr hr', rfl⟩
  paths := fun r _ => ⟨.registrationStartup, by decide, Path.refl.follow (wayTo r) (foldlM_wayTo r)⟩

/-! ## The table -/

namespace Table

/-- The table of the canonical graph. -/
def canonical : Table where
  specification := .canonical
  warnings := Specification.canonical.warnings
  valid := Specification.validate_eq_ok_iff.mpr ⟨canonical_sensible, rfl⟩
  index := ⟨canonicalEdges, ascending_canonicalEdges⟩
  index_eq := EdgeIndex.eq_of_perm (EdgeIndex.perm_ofList pairwise_key_canonicalEdges).symm

/-- It is what the canonical specification is loaded as. -/
theorem load_canonical : load .canonical = .ok canonical := load_specification canonical

theorem canonical_next_eq_ok_iff : canonical.next r e = .ok r' ↔ transition r e = some r' :=
  next_eq_ok_iff.trans mem_canonicalEdges_iff

/-- A replica may start from the two registration rounds. -/
theorem canonical_isStart (r : Round) : canonical.isStart r = r.isRegistration := by
  cases r <;> decide

end Table

end RoundWorkflow
