import RoundWorkflow.Engine
import RoundWorkflow.Plan
import RoundWorkflow.Proofs.BoundedLog
import RoundWorkflow.Proofs.TableLookup
import Mathlib.Data.List.Chain

/-!
# The log of the transitions of a replica

A replica forgets its older transitions, so a statement about a whole run needs a log of
its own.  The log of a call has an entry for every event and every round of the call that
succeeded: the notification that was sent last when it did.  The log of a sequence of
calls is theirs in turn.

Whatever a replica is asked to do, it takes one *turn* after the other (`Turn`), so what holds
of every turn holds of all calls (`AlongTurns`).  A frozen replica refuses, one that meets a
fault freezes, and else it moves along an edge of its table.  So every call amounts to moves
and freezes, and its log to the notifications of the moves (`Call.moves`).

`Accounts` says what the log knows of the replica: where it is, how far it has come, in
which period it is, and what its history shows.  `performAll_accounts` says that this
holds after any calls.  A call that never ends leaves no replica behind to speak of; the
rounds before the one it hangs in are those of a call for fewer rounds.
-/

namespace RoundWorkflow

/-- Whether a transition ends a period, going from the pause to the pulling of items. -/
def Record.endsPeriod (r : Record) : Bool := r.source = .resetAndPause && r.target = .pullMemes

/-- The notifications of transitions, oldest first. -/
abbrev TransitionLog := List (Change Record)

namespace Engine

variable {σ : Type}

/-! ## What a call logs -/

/-- What a turn logs: the notification sent last, if it succeeded. -/
def turnLog (result : Except Error Round) (g : Engine) : TransitionLog :=
  match result with
  | .ok _ => g.channel.log.last?.toList
  | .error _ => []

/-- What applying events in turn logs. -/
def stepAllLog (g : Engine) : List Event → TransitionLog
  | [] => []
  | e :: es =>
    match g.step e with
    | (.ok r, g') => turnLog (.ok r) g' ++ g'.stepAllLog es
    | (.error _, _) => []

/-- What running a number of rounds logs. -/
def runForLog (g : Engine) (reg : Registry σ) (env : Environment σ) : Nat → TransitionLog
  | 0 => []
  | n + 1 =>
    match g.runRound reg env with
    | some ⟨.ok r, g', env'⟩ => turnLog (.ok r) g' ++ g'.runForLog reg env' n
    | _ => []

/-- What running rounds until the replica is told to stop logs. -/
def runUntilStoppedLog (g : Engine) (reg : Registry σ) (env : Environment σ) :
    (limit : Nat) → TransitionLog
  | 0 => []
  | limit + 1 =>
    if env.stopped then []
    else
      match g.runRound reg env with
      | some ⟨.ok r, g', env'⟩ => turnLog (.ok r) g' ++ g'.runUntilStoppedLog reg env' limit
      | _ => []

end Engine

/-- A call on a replica.  Each brings the work it runs, and what that work can touch. -/
inductive Call : Type 1 where
  | step (event : Event)
  | stepAll (events : List Event)
  | runRound {σ : Type} (reg : Registry σ) (env : Environment σ)
  | runFor {σ : Type} (rounds : Nat) (reg : Registry σ) (env : Environment σ)
  /-- Rounds until the replica is told to stop, at most `limit`. -/
  | run {σ : Type} (limit : Nat) (reg : Registry σ) (env : Environment σ)

namespace Call

open Engine (turnLog)

/-- The replica after a call, if the call ends. -/
def perform (g : Engine) : Call → Option Engine
  | .step e => some (g.step e).2
  | .stepAll es => some (g.stepAll es).2
  | .runRound reg env => (g.runRound reg env).map Run.engine
  | .runFor n reg env => (g.runFor reg env n).map Run.engine
  | .run limit reg env => (g.run reg env limit).map Run.engine

/-- What a call logs. -/
def log (g : Engine) : Call → TransitionLog
  | .step e => turnLog (g.step e).1 (g.step e).2
  | .stepAll es => g.stepAllLog es
  | .runRound reg env =>
    match g.runRound reg env with
    | some ended => turnLog ended.result ended.engine
    | none => []
  | .runFor n reg env => g.runForLog reg env n
  | .run limit reg env =>
    match reg.checkComplete g.table with
    | .ok () => g.runUntilStoppedLog reg env limit
    | .error _ => []

end Call

/-- The replica after calls in turn, if each of them ends. -/
def Engine.performAll (g : Engine) : List Call → Option Engine
  | [] => some g
  | c :: cs => (c.perform g).bind fun g' => g'.performAll cs

/-- What calls in turn log. -/
def Engine.performAllLog (g : Engine) : List Call → TransitionLog
  | [] => []
  | c :: cs =>
    match c.perform g with
    | some g' => c.log g ++ g'.performAllLog cs
    | none => []

namespace Engine

variable {σ : Type} {g g' : Engine} {L : TransitionLog}

/-! ## Turns -/

/-- The notification of a transition that a replica makes. -/
def notice (g : Engine) (e : Edge) (timedOut : Bool) : Change Record :=
  let recorded := g.streak.record e.source e.target (g.supervisor.policy e.source)
  ⟨g.history.next e g.period timedOut, recorded.2, recorded.1.consecutive⟩

theorem apply_of_next_ok {e : Event} {r : Round} (hrunning : g.frozen = false)
    (h : g.table.next g.current e = .ok r) (timedOut : Bool) :
    g.apply e timedOut = (.ok r, g.move ⟨g.current, e, r⟩ timedOut) := by
  rw [apply, if_neg (Bool.eq_false_iff.mp hrunning), h]

theorem apply_of_next_error {e : Event} {fault : Error} (hrunning : g.frozen = false)
    (h : g.table.next g.current e = .error fault) (timedOut : Bool) :
    g.apply e timedOut = (.error fault, g.freeze) := by
  rw [apply, if_neg (Bool.eq_false_iff.mp hrunning), h]

/-- The ways in which one event or one round can end. -/
inductive Turn (g : Engine) : Except Error Round → Engine → Prop where
  /-- A frozen replica does nothing. -/
  | refused : g.frozen = true → Turn g (.error (.frozen g.current)) g
  /-- A fault freezes the replica. -/
  | froze {fault : Error} : g.frozen = false → Turn g (.error fault) g.freeze
  /-- An event that the current round accepts moves the replica. -/
  | moved {e : Event} {r : Round} {timedOut : Bool} :
    g.frozen = false → g.table.next g.current e = .ok r →
      Turn g (.ok r) (g.move ⟨g.current, e, r⟩ timedOut)

theorem apply_turn (g : Engine) (e : Event) (timedOut : Bool) :
    Turn g (g.apply e timedOut).1 (g.apply e timedOut).2 := by
  rw [apply]
  split
  · exact .refused ‹_›
  · have hrunning : g.frozen = false := Bool.eq_false_iff.mpr ‹_›
    split
    · exact .moved hrunning ‹_›
    · exact .froze hrunning

theorem runRound_turn {reg : Registry σ} {env : Environment σ} {run : Run σ Round}
    (h : g.runRound reg env = some run) : Turn g run.result run.engine := by
  rw [runRound] at h
  split at h
  · cases h
    exact .refused ‹_›
  · have hrunning : g.frozen = false := Bool.eq_false_iff.mpr ‹_›
    split at h
    · cases h
      exact .froze hrunning
    · obtain ⟨ended, -, rfl⟩ := Option.map_eq_some_iff.mp h
      cases ended with
      | error fault => exact .froze hrunning
      | ok concluded => exact apply_turn g concluded.1 concluded.2

/-! ## Moves -/

/-- Moves and freezes lead from one replica to another; the log holds the notifications of the
moves. -/
inductive Moves (g : Engine) : TransitionLog → Engine → Prop where
  | refl : Moves g [] g
  | freeze {L : TransitionLog} {g' : Engine} : Moves g L g' → Moves g L g'.freeze
  | move {L : TransitionLog} {g' : Engine} {e : Event} {r : Round} {timedOut : Bool} :
    Moves g L g' → g'.table.next g'.current e = .ok r →
      Moves g (L ++ [g'.notice ⟨g'.current, e, r⟩ timedOut]) (g'.move ⟨g'.current, e, r⟩ timedOut)

theorem Moves.trans {L' : TransitionLog} {g'' : Engine} (h : Moves g L g') (h' : Moves g' L' g'') :
    Moves g (L ++ L') g'' := by
  induction h' with
  | refl => rwa [List.append_nil]
  | freeze _ ih => exact ih.freeze
  | move _ hnext ih =>
    rw [← List.append_assoc]
    exact ih.move hnext

/-- A move logs its notification. -/
theorem turnLog_move (g : Engine) (r : Round) (e : Edge) (timedOut : Bool) :
    turnLog (.ok r) (g.move e timedOut) = [g.notice e timedOut] := by
  have hlast : (g.move e timedOut).channel.log.last? = some (g.notice e timedOut) :=
    Recent.last?_push _ _
  rw [turnLog, hlast]
  rfl

theorem Turn.moves {result : Except Error Round} (h : Turn g result g') :
    Moves g (turnLog result g') g' := by
  cases h with
  | refused _ => exact .refl
  | froze _ => exact .freeze .refl
  | moved _ hnext =>
    rw [turnLog_move]
    exact Moves.move .refl hnext

theorem Turn.length_turnLog {r : Round} (h : Turn g (.ok r) g') :
    (turnLog (.ok r) g').length = 1 := by
  cases h with
  | moved _ _ => rw [turnLog_move, List.length_singleton]

/-! ## Turns in a row -/

/-- A relation between replicas, by a log, that holds of every turn and of what holds of it in a
row. -/
structure AlongTurns (R : Engine → TransitionLog → Engine → Prop) : Prop where
  refl (g : Engine) : R g [] g
  trans {g g' g'' : Engine} {L L' : TransitionLog} : R g L g' → R g' L' g'' → R g (L ++ L') g''
  step (g : Engine) (e : Event) : R g (turnLog (g.step e).1 (g.step e).2) (g.step e).2
  round {σ : Type} {g : Engine} {reg : Registry σ} {env : Environment σ} {run : Run σ Round} :
    g.runRound reg env = some run → R g (turnLog run.result run.engine) run.engine

section

variable {R : Engine → TransitionLog → Engine → Prop}

theorem AlongTurns.stepAll (hR : AlongTurns R) (es : List Event) (g : Engine) :
    R g (g.stepAllLog es) (g.stepAll es).2 := by
  induction es generalizing g with
  | nil => exact hR.refl g
  | cons e es ih =>
    have hturn := hR.step g e
    rw [stepAllLog, Engine.stepAll]
    cases hstep : g.step e with
    | mk result g' =>
      rw [hstep] at hturn
      cases result with
      | ok r => exact hR.trans hturn (ih g')
      | error fault => exact hturn

theorem AlongTurns.runFor (hR : AlongTurns R) {reg : Registry σ} (n : Nat) (g : Engine)
    {env : Environment σ} {run : Run σ Round} (h : g.runFor reg env n = some run) :
    R g (g.runForLog reg env n) run.engine := by
  induction n generalizing g env with
  | zero =>
    cases h
    exact hR.refl g
  | succ n ih =>
    rw [Engine.runFor] at h
    rw [runForLog]
    cases hround : g.runRound reg env with
    | none => rw [hround] at h; cases h
    | some round =>
      have hturn := hR.round hround
      obtain ⟨result, g', env'⟩ := round
      rw [hround] at h
      cases result with
      | ok r => exact hR.trans hturn (ih g' h)
      | error fault => cases h; exact hturn

theorem AlongTurns.runUntilStopped (hR : AlongTurns R) {reg : Registry σ} (limit : Nat) (g : Engine)
    {env : Environment σ} {executed : Nat} {run : Run σ Nat}
    (h : g.runUntilStopped reg env executed limit = some run) :
    R g (g.runUntilStoppedLog reg env limit) run.engine := by
  induction limit generalizing g env executed with
  | zero =>
    rw [Engine.runUntilStopped] at h
    split at h
    · cases h
      exact hR.refl g
    · cases h
  | succ limit ih =>
    rw [Engine.runUntilStopped] at h
    rw [runUntilStoppedLog]
    split at h
    · cases h
      rw [if_pos ‹_›]
      exact hR.refl g
    · rw [if_neg ‹_›]
      cases hround : g.runRound reg env with
      | none => rw [hround] at h; cases h
      | some round =>
        have hturn := hR.round hround
        obtain ⟨result, g', env'⟩ := round
        rw [hround] at h
        cases result with
        | ok r => exact hR.trans hturn (ih g' h)
        | error fault => cases h; exact hturn

theorem AlongTurns.call (hR : AlongTurns R) {c : Call} (h : c.perform g = some g') :
    R g (c.log g) g' := by
  cases c with
  | step e =>
    cases h
    exact hR.step g e
  | stepAll es =>
    cases h
    exact hR.stepAll es g
  | runRound reg env =>
    obtain ⟨run, hrun, rfl⟩ := Option.map_eq_some_iff.mp h
    rw [Call.log, hrun]
    exact hR.round hrun
  | runFor n reg env =>
    obtain ⟨run, hrun, rfl⟩ := Option.map_eq_some_iff.mp h
    exact hR.runFor n g hrun
  | run limit reg env =>
    obtain ⟨run, hrun, rfl⟩ := Option.map_eq_some_iff.mp h
    rw [Engine.run] at hrun
    rw [Call.log]
    cases hcomplete : reg.checkComplete g.table with
    | error fault =>
      rw [hcomplete] at hrun
      cases hrun
      exact hR.refl g
    | ok _ =>
      rw [hcomplete] at hrun
      exact hR.runUntilStopped limit g hrun

/-- What holds of every turn holds of every sequence of calls. -/
theorem AlongTurns.performAll (hR : AlongTurns R) {calls : List Call}
    (h : g.performAll calls = some g') :
    R g (g.performAllLog calls) g' := by
  induction calls generalizing g with
  | nil =>
    cases h
    exact hR.refl _
  | cons c calls ih =>
    obtain ⟨g₁, hc, hcalls⟩ := Option.bind_eq_some_iff.mp h
    rw [performAllLog, hc]
    exact hR.trans (hR.call hc) (ih hcalls)

end

/-- Every turn is a move, a freeze or nothing. -/
theorem alongTurns_moves : AlongTurns Moves where
  refl _ := .refl
  trans := .trans
  step g e := (apply_turn g e false).moves
  round h := (runRound_turn h).moves

/-- Applying events amounts to moves and freezes. -/
theorem stepAll_moves (es : List Event) (g : Engine) : Moves g (g.stepAllLog es) (g.stepAll es).2 :=
  alongTurns_moves.stepAll es g

/-- Running rounds amounts to moves and freezes. -/
theorem runFor_moves {reg : Registry σ} (n : Nat) (g : Engine) {env : Environment σ}
    {run : Run σ Round}
    (h : g.runFor reg env n = some run) : Moves g (g.runForLog reg env n) run.engine :=
  alongTurns_moves.runFor n g h

/-- Rounds that all succeed log one notification each. -/
theorem length_runForLog {reg : Registry σ} (n : Nat) (g : Engine) {env : Environment σ}
    {run : Run σ Round} {r : Round} (h : g.runFor reg env n = some run) (hok : run.result = .ok r) :
    (g.runForLog reg env n).length = n := by
  induction n generalizing g env with
  | zero => rfl
  | succ n ih =>
    rw [runFor] at h
    rw [runForLog]
    cases hround : g.runRound reg env with
    | none => rw [hround] at h; cases h
    | some round =>
      have hturn := runRound_turn hround
      obtain ⟨result, g', env'⟩ := round
      rw [hround] at h
      cases result with
      | ok r' =>
        change (turnLog (.ok r') g' ++ g'.runForLog reg env' n).length = n + 1
        rw [List.length_append, hturn.length_turnLog, ih g' h, Nat.add_comm]
      | error fault =>
        cases h
        cases hok

end Engine

/-- A call amounts to moves and freezes, and logs the notifications of the moves. -/
theorem Call.moves {g g' : Engine} {c : Call} (h : c.perform g = some g') : g.Moves (c.log g) g' :=
  Engine.alongTurns_moves.call h

namespace Engine

/-- Calls amount to moves and freezes, and log the notifications of the moves. -/
theorem performAll_moves {calls : List Call} {g g' : Engine} (h : g.performAll calls = some g') :
    g.Moves (g.performAllLog calls) g' :=
  alongTurns_moves.performAll h

/-! ## What moves preserve, and what they add up to -/

variable {g g' : Engine} {L : TransitionLog}

theorem Moves.table (h : g.Moves L g') : g'.table = g.table := by
  induction h with
  | refl => rfl
  | freeze _ ih => exact ih
  | move _ _ ih => exact ih

theorem Moves.history_capacity (h : g.Moves L g') :
    g'.history.log.capacity = g.history.log.capacity := by
  induction h with
  | refl => rfl
  | freeze _ ih => exact ih
  | move _ _ ih => exact (Recent.capacity_push _ _).trans ih

theorem Moves.channel_capacity (h : g.Moves L g') :
    g'.channel.log.capacity = g.channel.log.capacity := by
  induction h with
  | refl => rfl
  | freeze _ ih => exact ih
  | move _ _ ih => exact (Recent.capacity_push _ _).trans ih

/-- The history keeps the records of the log. -/
theorem Moves.history_keeps {before : List Record} (h : g.Moves L g')
    (hbefore : g.history.log.Keeps before) :
    g'.history.log.Keeps (before ++ L.map Change.record) := by
  induction h with
  | refl => rwa [List.map_nil, List.append_nil]
  | freeze _ ih => exact ih
  | move _ _ ih =>
    rw [List.map_append, ← List.append_assoc]
    exact ih.push _

/-- The channel keeps the notifications of the log. -/
theorem Moves.channel_keeps {before : TransitionLog} (h : g.Moves L g')
    (hbefore : g.channel.log.Keeps before) : g'.channel.log.Keeps (before ++ L) := by
  induction h with
  | refl => rwa [List.append_nil]
  | freeze _ ih => exact ih
  | move _ _ ih =>
    rw [← List.append_assoc]
    exact ih.push _

theorem Moves.steps (h : g.Moves L g') : g'.steps = g.steps + L.length := by
  induction h with
  | refl => rfl
  | freeze _ ih => exact ih
  | move _ _ ih =>
    rw [List.length_append, ← Nat.add_assoc, ← ih]
    exact Recent.total_push _ _

/-- The replica is where its last move led. -/
theorem Moves.current (h : g.Moves L g') :
    g'.current = (L.getLast?.map fun c => c.record.target).getD g.current := by
  induction h with
  | refl => rfl
  | freeze _ ih => exact ih
  | move _ _ _ =>
    rw [List.getLast?_concat]
    rfl

theorem Moves.edges (h : g.Moves L g') : ∀ c ∈ L, c.record.edge ∈ g.table.specification.edges := by
  induction h with
  | refl => intro c hc; cases hc
  | freeze _ ih => exact ih
  | move h hnext ih =>
    intro c hc
    rcases List.mem_append.mp hc with hc | hc
    · exact ih c hc
    · cases List.mem_singleton.mp hc
      rw [← h.table]
      exact Table.next_eq_ok_iff.mp hnext

/-- The first move leaves the round the replica was in. -/
theorem Moves.leaves (h : g.Moves L g') : ∀ c ∈ L.head?, c.record.source = g.current := by
  induction h with
  | refl => intro c hc; cases hc
  | freeze _ ih => exact ih
  | @move L g' e r timedOut h _ ih =>
    cases L with
    | nil =>
      intro c hc
      cases hc
      exact h.current
    | cons c' L => exact ih

/-- Each later move leaves the round that the one before it entered. -/
theorem Moves.chained (h : g.Moves L g') :
    L.IsChain fun c c' => c.record.target = c'.record.source := by
  induction h with
  | refl => exact .nil
  | freeze _ ih => exact ih
  | @move L g' e r timedOut h _ ih =>
    -- The replica left the round that the last entry so far had entered.
    refine List.isChain_append.mpr ⟨ih, .singleton _, fun c hc c' hc' => ?_⟩
    cases hc'
    have hcurrent := h.current
    rw [Option.mem_def.mp hc] at hcurrent
    exact hcurrent.symm

theorem move_period (g : Engine) (e : Edge) (timedOut : Bool) :
    (g.move e timedOut).period = g.period + if completesPeriod e then 1 else 0 := by
  rw [move]
  cases completesPeriod e <;> rfl

/-- Every move that ends a period begins another one. -/
theorem Moves.period (h : g.Moves L g') :
    g'.period = g.period + (L.map Change.record).countP Record.endsPeriod := by
  induction h with
  | refl => rfl
  | freeze _ ih => exact ih
  | @move L g' e r timedOut _ _ ih =>
    rw [List.map_append, List.countP_append, ← Nat.add_assoc, ← ih, List.map_singleton,
      List.countP_singleton]
    exact g'.move_period _ _

/-- What every move makes sure of for its notification and the log before it is so for every entry
of the log. -/
theorem Moves.forall_entry {P : TransitionLog → Change Record → Prop} (h : g.Moves L g')
    (hmove : ∀ {L : TransitionLog} {g' : Engine} {e : Event} {r : Round} {timedOut : Bool},
      g.Moves L g' → g'.table.next g'.current e = .ok r →
      P L (g'.notice ⟨g'.current, e, r⟩ timedOut))
    (i : Nat) (hi : i < L.length) : P (L.take i) L[i] := by
  induction h with
  | refl => cases hi
  | freeze _ ih => exact ih hi
  | @move L g' e r timedOut h hnext ih =>
    -- The last entry has all others before it; what is before any other is as it was.
    by_cases hlt : i < L.length
    · rw [List.getElem_append_left hlt, List.take_append_of_le_length (Nat.le_of_lt hlt)]
      exact ih hlt
    · have heq : i = L.length := by
        rw [List.length_append, List.length_singleton] at hi
        omega
      subst heq
      rw [List.getElem_concat_length rfl, List.take_left]
      exact hmove h hnext

/-- Every move is stamped with the steps and the periods before it. -/
theorem Moves.stamped (h : g.Moves L g') (i : Nat) (hi : i < L.length) :
    L[i].record.step = g.steps + i ∧
      L[i].record.period = g.period + ((L.take i).map Change.record).countP Record.endsPeriod := by
  have hlength : (L.take i).length = i := List.length_take_of_le (Nat.le_of_lt hi)
  have hstamped : L[i].record.step = g.steps + (L.take i).length ∧
      L[i].record.period = g.period + ((L.take i).map Change.record).countP Record.endsPeriod :=
    h.forall_entry (P := fun before c => c.record.step = g.steps + before.length ∧
      c.record.period = g.period + (before.map Change.record).countP Record.endsPeriod)
      (fun hbefore _ => ⟨hbefore.steps, hbefore.period⟩) i hi
  rwa [hlength] at hstamped

/-! ## What the log accounts for -/

/-- A replica as it is set up. -/
structure SetUp (t : Table) (c : EngineConfig) (g : Engine) : Prop where
  table : g.table = t
  current : g.current = c.startState.getD t.defaultStart
  isStart : t.isStart g.current = true
  period : g.period = 0
  frozen : g.frozen = false
  streak : g.streak = .fresh
  history : g.history = .empty c.historyCapacity.toNat
  channel : g.channel = .empty c.channelCapacity

theorem start_setUp {t : Table} {c : EngineConfig} {s : Supervisor} (h : start t c s = .ok g) :
    SetUp t c g := by
  rw [start] at h
  split at h
  · cases h
    exact ⟨rfl, rfl, ‹_›, rfl, rfl, rfl, rfl, rfl⟩
  · cases h

theorem SetUp.history_keeps {t : Table} {c : EngineConfig} (h : SetUp t c g) :
    g.history.log.Keeps [] := by
  rw [h.history]
  exact Recent.keeps_empty _

theorem SetUp.channel_keeps {t : Table} {c : EngineConfig} (h : SetUp t c g) :
    g.channel.log.Keeps [] := by
  rw [h.channel]
  exact Recent.keeps_empty _

theorem SetUp.steps {t : Table} {c : EngineConfig} (h : SetUp t c g) : g.steps = 0 := by
  rw [Engine.steps, h.history]
  rfl

/-- What the records of all transitions say of a replica that was set up with a table. -/
structure Accounts (t : Table) (c : EngineConfig) (L : List Record) (g : Engine) : Prop where
  /-- Every transition is along an edge of the table. -/
  edges : ∀ r ∈ L, r.edge ∈ t.specification.edges
  /-- The first transition leaves the start. -/
  leaves : ∀ r ∈ L.head?, r.source = c.startState.getD t.defaultStart
  /-- Each later one leaves the round that the one before it entered. -/
  chained : L.IsChain fun r r' => r.target = r'.source
  /-- The replica is in the round that the last one entered, or at its start. -/
  current : g.current = (L.getLast?.map Record.target).getD (c.startState.getD t.defaultStart)
  steps : g.steps = L.length
  /-- The transitions are numbered from zero. -/
  numbered : ∀ (i : Nat) (h : i < L.length), L[i].step = i
  /-- The period is the number of transitions that end one. -/
  period : g.period = L.countP Record.endsPeriod
  /-- Each transition carries the number of periods that ended before it. -/
  periods : ∀ (i : Nat) (h : i < L.length), L[i].period = (L.take i).countP Record.endsPeriod
  /-- The history shows the latest transitions, one at least. -/
  history : g.history.records = L.drop (L.length - min L.length (max c.historyCapacity.toNat 1))

/-- After any calls the log accounts for the replica. -/
theorem performAll_accounts {t : Table} {c : EngineConfig} {s : Supervisor} {g₀ g : Engine}
    {calls : List Call} (hstart : start t c s = .ok g₀) (hcalls : g₀.performAll calls = some g) :
    Accounts t c ((g₀.performAllLog calls).map Change.record) g := by
  have h := performAll_moves hcalls
  have h₀ := start_setUp hstart
  have hkeeps : g.history.log.Keeps ((g₀.performAllLog calls).map Change.record) :=
    h.history_keeps h₀.history_keeps
  have hcapacity : g.history.log.capacity = max c.historyCapacity.toNat 1 := by
    rw [h.history_capacity, h₀.history]
    rfl
  have hsteps : g₀.steps = 0 := by
    rw [steps, h₀.history]
    rfl
  refine
    { edges := ?_
      leaves := ?_
      chained := ?_
      current := ?_
      steps := ?_
      numbered := fun i hi => ?_
      period := ?_
      periods := fun i hi => ?_
      history := ?_ }
  · rw [List.forall_mem_map, ← h₀.table]
    exact h.edges
  · rw [List.head?_map, ← h₀.current]
    intro r hr
    obtain ⟨c, hc, rfl⟩ := Option.map_eq_some_iff.mp hr
    exact h.leaves c hc
  · rw [List.isChain_map]
    exact h.chained
  · rw [List.getLast?_map, Option.map_map, ← h₀.current]
    exact h.current
  · rw [h.steps, hsteps, List.length_map, Nat.zero_add]
  · rw [List.length_map] at hi
    rw [List.getElem_map, (h.stamped i hi).1, hsteps, Nat.zero_add]
  · rw [h.period, h₀.period, Nat.zero_add]
  · rw [List.length_map] at hi
    rw [List.getElem_map, (h.stamped i hi).2, h₀.period, Nat.zero_add, List.map_take]
  · rw [History.records, hkeeps.toList, hcapacity]
    congr 1
    omega

/-- The pause and the pulling of items, in turn for good. -/
def pauses : Table where
  specification := .ofEdges .resetAndPause [.resetAndPause]
    [⟨.resetAndPause, .done, .pullMemes⟩, ⟨.pullMemes, .done, .resetAndPause⟩]
  warnings :=
    [.unroutedTimeout .pullMemes .roundTimeout,
      .unroutedTimeout .resetAndPause .resetAndPauseTimeout]
  valid := by cbv

/-- A pulling of items that waits for a majority, and the pause after it. -/
def waits : Table where
  specification := .ofEdges .pullMemes [.pullMemes]
    [⟨.pullMemes, .noMajority, .pullMemes⟩, ⟨.pullMemes, .roundTimeout, .pullMemes⟩,
      ⟨.pullMemes, .done, .resetAndPause⟩, ⟨.resetAndPause, .done, .pullMemes⟩]
  warnings := [.unroutedTimeout .resetAndPause .resetAndPauseTimeout]
  valid := by cbv

/-- Five transitions through two periods, then an event that freezes the replica and one that it
refuses. -/
def pauseCalls : List Call :=
  [.stepAll [.done, .done], .runFor 2 (plannedRegistry pauses) ⟨.empty, false, .done⟩,
    .step .done, .step .wait,
    .step .done]

/-- A history of two records shows the last two of five transitions. -/
theorem pauses_accounts :
    ∃ g₀ g, start pauses ⟨none, 1, 2⟩ .standard = .ok g₀ ∧ g₀.performAll pauseCalls = some g ∧
      g.frozen = true ∧ g.history.records.map Record.step = [3, 4] ∧
      Accounts pauses ⟨none, 1, 2⟩ ((g₀.performAllLog pauseCalls).map Change.record) g :=
  ⟨_, _, rfl, rfl, rfl, rfl, @performAll_accounts _ _ .standard _ _ pauseCalls rfl rfl⟩

end Engine

end RoundWorkflow
