import RoundWorkflow.Proofs.TransitionLog

/-!
# What subscribers learn

A replica publishes its transitions on a channel, and anyone can subscribe to them at any time.
Every transition is published once, with the record that the history gets for it (`Published`); a
call that fails publishes nothing.

A subscriber that comes back before more than a channelful of transitions was applied gets all of
them.  One that stays away for longer is told how many it lost, which are the oldest, and then gets
a channelful of the latest ones (`Channel.drain_of_fits`, `Channel.drain_of_lagging`).  So what a
subscriber has been told so far, counting what it lost, is all there was between its subscription
and the message that it is due next (`Heard`).

The main statement, `Engine.publishes`, is about a replica with any number of subscribers, where
calls, subscriptions and requests for messages come in any order (`Watched`).  The replica does what
it would do with nobody around.  Subscribers can also ask in the middle of a call: it is as good as
calls for its events or rounds one by one (`Call.exists_turns`), and nothing is published within a
round.
-/

namespace RoundWorkflow

/-! ## The capacity of a channel -/

/-- The least power of two that is at least a number. -/
structure LeastPowerOfTwo (n p : Nat) : Prop where
  isPower : ∃ k, p = Nat.pow 2 k
  le : n ≤ p
  least : ∀ k, n ≤ Nat.pow 2 k → p ≤ Nat.pow 2 k

/-- A channel holds the least power of two that is enough for what was asked. -/
theorem leastPowerOfTwo_powerOfTwoFrom (n : Nat) : LeastPowerOfTwo n (powerOfTwoFrom n) := by
  rw [powerOfTwoFrom]
  split
  · exact ⟨⟨0, rfl⟩, ‹_›, fun k _ => Nat.one_le_two_pow⟩
  · have hpred : n - 1 ≠ 0 := by omega
    have hlt : n - 1 < Nat.pow 2 ((n - 1).log2 + 1) := Nat.lt_log2_self
    refine ⟨⟨_, rfl⟩, by omega, fun k hk => ?_⟩
    have hlog : (n - 1).log2 < k := (Nat.log2_lt hpred).mpr (Nat.lt_of_lt_of_le (by omega) hk)
    exact Nat.pow_le_pow_right (by decide) hlog

/-! ## What a subscriber gets -/

namespace Channel

variable {α : Type} {c : Channel α} {sent : List α} {s : Nat}

theorem receive_of_lagging (h : c.log.Keeps sent) (hlag : s + c.log.capacity < sent.length) :
    c.receive s = (some (.missed (sent.length - c.log.capacity - s)),
      sent.length - c.log.capacity) := by
  have hmissed : 0 < c.missed s := by
    rw [missed, h.first]
    omega
  rw [receive, if_pos hmissed, missed, h.first]

theorem receive_of_lt (h : c.log.Keeps sent) (hfits : sent.length ≤ s + c.log.capacity)
    (hs : s < sent.length) :
    c.receive s = (some (.message sent[s]), s + 1) := by
  have hmissed : c.missed s = 0 := (missed_eq_zero_iff h s).mpr hfits
  rw [receive, if_neg (by omega), due_of_missed_eq_zero h hmissed, List.drop_eq_getElem_cons hs]

theorem receive_of_ge (h : c.log.Keeps sent) (hs : sent.length ≤ s) : c.receive s = (none, s) := by
  have hmissed : c.missed s = 0 := (missed_eq_zero_iff h s).mpr (by omega)
  rw [receive, if_neg (by omega), due_of_missed_eq_zero h hmissed, List.drop_of_length_le hs]

/-- Asking often enough, a subscriber that has missed nothing gets all that was sent since. -/
theorem receiveUpTo_of_fits (h : c.log.Keeps sent) (n : Nat) (hs : s ≤ sent.length)
    (hfits : sent.length ≤ s + c.log.capacity) (hn : sent.length ≤ s + n) :
    c.receiveUpTo n s = ((sent.drop s).map .message, sent.length) := by
  induction n generalizing s with
  | zero =>
    have heq : s = sent.length := by omega
    rw [receiveUpTo, heq, List.drop_length]
    rfl
  | succ n ih =>
    rcases Nat.lt_or_eq_of_le hs with hlt | heq
    · rw [receiveUpTo, receive_of_lt h hfits hlt]
      simp only [ih hlt (by omega) (by omega)]
      rw [List.drop_eq_getElem_cons hlt, List.map_cons]
    · rw [receiveUpTo, receive_of_ge h (Nat.le_of_eq heq.symm), heq, List.drop_length]
      rfl

/-- A subscriber that no more messages were sent to than the channel holds gets all of them. -/
theorem drain_of_fits (h : c.log.Keeps sent) (hs : s ≤ sent.length)
    (hfits : sent.length ≤ s + c.log.capacity) :
    c.drain s = ((sent.drop s).map .message, sent.length) := by
  rw [drain, h.size]
  exact receiveUpTo_of_fits h _ hs hfits (by omega)

/-- A subscriber that more messages were sent to loses the oldest, and gets all that the channel
holds. -/
theorem drain_of_lagging (h : c.log.Keeps sent) (hlag : s + c.log.capacity < sent.length) :
    c.drain s =
      (.missed (sent.length - c.log.capacity - s) ::
        (sent.drop (sent.length - c.log.capacity)).map .message,
        sent.length) := by
  have hrest : c.receiveUpTo c.log.size (sent.length - c.log.capacity) =
      ((sent.drop (sent.length - c.log.capacity)).map .message, sent.length) :=
    receiveUpTo_of_fits h _ (Nat.sub_le _ _) (by omega) (by rw [h.size]; omega)
  rw [drain, receiveUpTo, receive_of_lagging h hlag]
  simp only [hrest]

end Channel

/-- What a subscriber was told accounts for the messages from one number up to another: it got them
in order, or learned how many of them it missed. -/
inductive Heard {α : Type} (sent : List α) (since : Nat) : List (Delivery α) → Nat → Prop where
  | nothing : Heard sent since [] since
  | message {ds : List (Delivery α)} {n : Nat} (hn : n < sent.length) :
    Heard sent since ds n → Heard sent since (ds ++ [.message sent[n]]) (n + 1)
  | missed {ds : List (Delivery α)} {n k : Nat} :
    n + k ≤ sent.length → Heard sent since ds n → Heard sent since (ds ++ [.missed k]) (n + k)

namespace Heard

variable {α : Type} {sent : List α} {since n : Nat} {ds : List (Delivery α)}

theorem since_le (h : Heard sent since ds n) : since ≤ n := by
  induction h with
  | nothing => exact Nat.le_refl since
  | message _ _ ih => exact Nat.le_succ_of_le ih
  | missed _ _ ih => exact Nat.le_add_right_of_le ih

theorem le_length (h : Heard sent since ds n) (hsince : since ≤ sent.length) : n ≤ sent.length := by
  cases h with
  | nothing => exact hsince
  | message hn _ => exact hn
  | missed hk _ => exact hk

/-- Further messages change nothing. -/
theorem append (h : Heard sent since ds n) (more : List α) : Heard (sent ++ more) since ds n := by
  induction h with
  | nothing => exact .nothing
  | @message ds n hn _ ih =>
    have hn' : n < (sent ++ more).length := by
      rw [List.length_append]
      omega
    have hsame : (sent ++ more)[n] = sent[n] := List.getElem_append_left hn
    rw [← hsame]
    exact .message hn' ih
  | missed hk _ ih => exact .missed (by rw [List.length_append]; omega) ih

/-- A subscriber that was never told of a loss got everything. -/
theorem eq_messages (h : Heard sent since ds n) (hnone : ∀ k, Delivery.missed k ∉ ds) :
    ds = ((sent.take n).drop since).map .message := by
  induction h with
  | nothing => rw [List.drop_take_self, List.map_nil]
  | @message ds n hn h ih =>
    have hds : ds = ((sent.take n).drop since).map .message :=
      ih fun k hk => hnone k (List.mem_append_left _ hk)
    have hsince : since ≤ (sent.take n).length := by
      rw [List.length_take_of_le (Nat.le_of_lt hn)]
      exact h.since_le
    rw [List.take_add_one, List.getElem?_eq_getElem hn, Option.toList_some,
      List.drop_append_of_le_length hsince, List.map_append, ← hds]
    rfl
  | @missed ds n k _ _ _ =>
    exact absurd (List.mem_append_right ds (List.mem_singleton.mpr rfl)) (hnone k)

end Heard

/-! ## Subscribers of a replica -/

/-- A subscriber of a replica, with what it has got. -/
structure Subscriber where
  /-- The number of transitions before it subscribed. -/
  since : Nat
  /-- The number of the next message that it is due. -/
  next : Nat
  /-- What it has got, oldest first. -/
  got : List (Delivery (Change Record))

namespace Subscriber

/-- A subscriber after asking once. -/
def ask (c : Channel (Change Record)) (u : Subscriber) : Subscriber :=
  match c.receive u.next with
  | (some d, next) => { u with next := next, got := u.got ++ [d] }
  | (none, _) => u

/-- A subscriber was told of everything that was sent since it subscribed, up to what it is due
next. -/
structure Follows (L : TransitionLog) (u : Subscriber) : Prop where
  since_le : u.since ≤ L.length
  heard : Heard L u.since u.got u.next

variable {L : TransitionLog} {u : Subscriber}

theorem Follows.next_le (h : u.Follows L) : u.next ≤ L.length := h.heard.le_length h.since_le

theorem Follows.append (h : u.Follows L) (more : TransitionLog) : u.Follows (L ++ more) where
  since_le := by
    rw [List.length_append]
    exact Nat.le_add_right_of_le h.since_le
  heard := h.heard.append more

theorem Follows.ask {c : Channel (Change Record)} (hkeeps : c.log.Keeps L) (h : u.Follows L) :
    (u.ask c).Follows L := by
  rw [Subscriber.ask]
  by_cases hfits : L.length ≤ u.next + c.log.capacity
  · rcases Nat.lt_or_eq_of_le h.next_le with hlt | heq
    · rw [Channel.receive_of_lt hkeeps hfits hlt]
      exact ⟨h.since_le, h.heard.message hlt⟩
    · rw [Channel.receive_of_ge hkeeps (Nat.le_of_eq heq.symm)]
      exact h
  · have hlag : u.next + c.log.capacity < L.length := Nat.lt_of_not_le hfits
    have hnext : u.next + (L.length - c.log.capacity - u.next) = L.length - c.log.capacity := by
      omega
    have hheard := Heard.missed (by rw [hnext]; omega) h.heard
    rw [hnext] at hheard
    rw [Channel.receive_of_lagging hkeeps hlag]
    exact ⟨h.since_le, hheard⟩

end Subscriber

/-- A replica and its subscribers. -/
structure Watched where
  engine : Engine
  subscribers : List Subscriber

/-- What can happen around a replica. -/
inductive Incident : Type 1 where
  | call (c : Call)
  /-- Another subscriber. -/
  | subscribe
  /-- One of the subscribers asks once. -/
  | ask (index : Nat)

/-- The call on the replica, if it is one. -/
def Incident.call? : Incident → Option Call
  | .call c => some c
  | .subscribe | .ask _ => none

/-- The calls among incidents. -/
def Incident.calls (is : List Incident) : List Call := is.filterMap Incident.call?

theorem Incident.calls_call (c : Call) (is : List Incident) :
    calls (.call c :: is) = c :: calls is := rfl

namespace Watched

/-- A replica and its subscribers after an incident, if the call ends. -/
def happen (w : Watched) : Incident → Option Watched
  | .call c => (c.perform w.engine).map fun g => { w with engine := g }
  | .subscribe =>
    some { w with subscribers := w.subscribers ++
      [⟨w.engine.steps, w.engine.channel.subscribe, []⟩] }
  | .ask index =>
    some { w with subscribers := w.subscribers.modify index (Subscriber.ask w.engine.channel) }

/-- A replica and its subscribers after incidents in turn. -/
def happenAll (w : Watched) : List Incident → Option Watched
  | [] => some w
  | i :: is => (w.happen i).bind fun w' => w'.happenAll is

/-- The replica does what it would do without subscribers. -/
theorem map_engine_happenAll (w : Watched) (is : List Incident) :
    (w.happenAll is).map Watched.engine = w.engine.performAll (Incident.calls is) := by
  induction is generalizing w with
  | nil => rfl
  | cons i is ih =>
    cases i with
    | call c =>
      rw [happenAll, happen, Incident.calls_call, Engine.performAll]
      cases hc : c.perform w.engine with
      | none => rfl
      | some g => exact ih { w with engine := g }
    | subscribe => exact ih _
    | ask index => exact ih _

/-- The channel of the replica keeps the log, and so do the subscribers. -/
structure Follows (L : TransitionLog) (w : Watched) : Prop where
  steps : w.engine.steps = L.length
  keeps : w.engine.channel.log.Keeps L
  subscribers : ∀ u ∈ w.subscribers, u.Follows L

variable {L : TransitionLog} {w w' : Watched}

theorem Follows.call (h : w.Follows L) {c : Call} {g : Engine} (hc : c.perform w.engine = some g) :
    Watched.Follows (L ++ c.log w.engine) { w with engine := g } where
  steps := by
    rw [List.length_append, ← h.steps]
    exact (Call.moves hc).steps
  keeps := (Call.moves hc).channel_keeps h.keeps
  subscribers u hu := (h.subscribers u hu).append _

theorem Follows.subscribe (h : w.Follows L) :
    Watched.Follows L { w with
      subscribers := w.subscribers ++ [⟨w.engine.steps, w.engine.channel.subscribe, []⟩] } where
  steps := h.steps
  keeps := h.keeps
  subscribers u hu := by
    rcases List.mem_append.mp hu with hu | hu
    · exact h.subscribers u hu
    · cases List.mem_singleton.mp hu
      -- The transitions and the messages so far are as many, so nothing is missing in between.
      have hsame : w.engine.channel.subscribe = w.engine.steps := h.keeps.total.trans h.steps.symm
      rw [hsame]
      exact ⟨Nat.le_of_eq h.steps, .nothing⟩

theorem Follows.ask (h : w.Follows L) (index : Nat) :
    Watched.Follows L { w with
      subscribers := w.subscribers.modify index (Subscriber.ask w.engine.channel) } where
  steps := h.steps
  keeps := h.keeps
  subscribers u hu := by
    obtain ⟨i, hi, rfl⟩ := List.mem_iff_getElem.mp hu
    rw [List.getElem_modify]
    split
    · exact (h.subscribers _ (List.getElem_mem _)).ask h.keeps
    · exact h.subscribers _ (List.getElem_mem _)

/-- Whatever happens, the subscribers keep up with the log of the calls. -/
theorem Follows.happenAll (h : w.Follows L) {is : List Incident} (hall : w.happenAll is = some w') :
    w'.Follows (L ++ w.engine.performAllLog (Incident.calls is)) := by
  induction is generalizing w L with
  | nil =>
    cases hall
    exact (List.append_nil L).symm ▸ h
  | cons i is ih =>
    obtain ⟨w₁, hi, his⟩ := Option.bind_eq_some_iff.mp hall
    cases i with
    | call c =>
      obtain ⟨g, hc, rfl⟩ := Option.map_eq_some_iff.mp hi
      rw [Incident.calls_call, Engine.performAllLog, hc, ← List.append_assoc]
      exact ih (h.call hc) his
    | subscribe =>
      cases hi
      exact (ih h.subscribe his :)
    | ask index =>
      cases hi
      exact (ih (h.ask index) his :)

end Watched

/-! ## Calls turn by turn -/

/-- A call for a single event or round. -/
def Call.isTurn : Call → Bool
  | .step _ | .runRound _ _ => true
  | .stepAll _ | .runFor _ _ _ | .run _ _ _ => false

namespace Engine

variable {σ : Type} {g g' : Engine} {L : TransitionLog}

/-- Calls for single events and rounds that lead from one replica to another with a log. -/
def Turns (g : Engine) (L : TransitionLog) (g' : Engine) : Prop :=
  ∃ turns : List Call, (∀ c ∈ turns, c.isTurn) ∧ g.performAll turns = some g' ∧
    g.performAllLog turns = L

theorem Turns.refl (g : Engine) : g.Turns [] g :=
  ⟨[], fun _ hc => absurd hc List.not_mem_nil, rfl, rfl⟩

theorem Turns.cons {c : Call} {g₁ : Engine} (hturn : c.isTurn) (hc : c.perform g = some g₁)
    (h : g₁.Turns L g') : g.Turns (c.log g ++ L) g' := by
  obtain ⟨turns, hall, hperform, rfl⟩ := h
  refine ⟨c :: turns, List.forall_mem_cons.mpr ⟨hturn, hall⟩, ?_, ?_⟩
  · rw [performAll, hc]
    exact hperform
  · rw [performAllLog, hc]

theorem Turns.single {c : Call} (hturn : c.isTurn) (hc : c.perform g = some g') :
    g.Turns (c.log g) g' := by
  have h := (Turns.refl g').cons hturn hc
  rwa [List.append_nil] at h

theorem Turns.trans {L' : TransitionLog} {g'' : Engine} (h : g.Turns L g') (h' : g'.Turns L' g'') :
    g.Turns (L ++ L') g'' := by
  obtain ⟨turns, hall, hperform, rfl⟩ := h
  induction turns generalizing g with
  | nil =>
    cases hperform
    exact h'
  | cons c turns ih =>
    obtain ⟨g₁, hc, hturns⟩ := Option.bind_eq_some_iff.mp hperform
    obtain ⟨hturn, hall⟩ := List.forall_mem_cons.mp hall
    rw [performAllLog, hc, List.append_assoc]
    exact (ih hall hturns).cons hturn hc

theorem alongTurns_turns : AlongTurns Turns where
  refl := .refl
  trans := .trans
  step _ e := .single (c := .step e) rfl rfl
  round {_ g reg env run} h := by
    have hlog : (Call.runRound reg env).log g = turnLog run.result run.engine := by rw [Call.log, h]
    rw [← hlog]
    exact .single rfl (by rw [Call.perform, h]; rfl)

/-! ## What is published -/

/-- Right after each move its record is the latest of the history, and its notification the latest
of the channel. -/
theorem Moves.exists_between (h : g.Moves L g') (i : Nat) (hi : i < L.length) :
    ∃ g₁ : Engine, g.Moves (L.take (i + 1)) g₁ ∧ g₁.Moves (L.drop (i + 1)) g' ∧
      g₁.history.last? = some L[i].record ∧ g₁.channel.log.last? = some L[i] := by
  induction h with
  | refl => cases hi
  | freeze _ ih =>
    obtain ⟨g₁, hbefore, hafter, hrecord, hnotice⟩ := ih hi
    exact ⟨g₁, hbefore, hafter.freeze, hrecord, hnotice⟩
  | @move L g' e r timedOut h hnext ih =>
    by_cases hlt : i < L.length
    · obtain ⟨g₁, hbefore, hafter, hrecord, hnotice⟩ := ih hlt
      rw [List.take_append_of_le_length hlt, List.drop_append_of_le_length hlt,
        List.getElem_append_left hlt]
      exact ⟨g₁, hbefore, hafter.move hnext, hrecord, hnotice⟩
    · have heq : i = L.length := by
        rw [List.length_append, List.length_singleton] at hi
        omega
      subst heq
      have hall : (L ++ [g'.notice ⟨g'.current, e, r⟩ timedOut]).length ≤ L.length + 1 := by
        rw [List.length_append, List.length_singleton]
      rw [List.take_of_length_le hall, List.drop_of_length_le hall, List.getElem_concat_length rfl]
      exact ⟨_, h.move hnext, .refl, Recent.last?_push _ _, Recent.last?_push _ _⟩

/-- A turn that fails publishes nothing. -/
theorem Turn.channel_of_error {fault : Error} (h : Turn g (.error fault) g') :
    g'.channel = g.channel := by
  cases h with
  | refused _ => rfl
  | froze _ => rfl

/-- A replica with a set-up has come from one state to another and has published its transitions. -/
structure Published (c : EngineConfig) (g₀ : Engine) (L : TransitionLog) (g : Engine) : Prop where
  /-- Every transition is published once. -/
  steps : g.steps = L.length
  sent : g.channel.log.total = L.length
  /-- The transitions are published in order. -/
  numbered : ∀ (i : Nat) (h : i < L.length), L[i].record.step = i
  /-- What is published of a transition is the record that the history got for it, at the time it
  got it. -/
  stored : ∀ (i : Nat) (h : i < L.length), ∃ g₁ : Engine, g₀.Moves (L.take (i + 1)) g₁ ∧
    g₁.Moves (L.drop (i + 1)) g ∧ g₁.history.last? = some L[i].record ∧
    g₁.channel.log.last? = some L[i]
  /-- The history shows the latest of these records. -/
  history : g.history.records =
    (L.map Change.record).drop (L.length - max c.historyCapacity.toNat 1)
  /-- The channel holds what was configured, rounded up. -/
  capacity : LeastPowerOfTwo (max c.notificationCapacity.toNat 1) g.channel.log.capacity
  /-- Single events and rounds publish the same. -/
  turns : g₀.Turns L g
  /-- An event that fails publishes nothing. -/
  step : ∀ (e : Event) (fault : Error), (g.step e).1 = .error fault →
    (g.step e).2.channel = g.channel
  /-- A round that fails publishes nothing. -/
  round : ∀ {σ : Type} (reg : Registry σ) (env : Environment σ) (run : Run σ Round) (fault : Error),
    g.runRound reg env = some run → run.result = .error fault → run.engine.channel = g.channel

theorem SetUp.published {t : Table} {c : EngineConfig} {g₀ : Engine} {calls : List Call}
    (h₀ : SetUp t c g₀)
    (hcalls : g₀.performAll calls = some g) : Published c g₀ (g₀.performAllLog calls) g := by
  have h := performAll_moves hcalls
  have hchannel : g.channel.log.Keeps (g₀.performAllLog calls) := h.channel_keeps h₀.channel_keeps
  have hhistory : g.history.log.Keeps ((g₀.performAllLog calls).map Change.record) :=
    h.history_keeps h₀.history_keeps
  exact
    { steps := by rw [h.steps, h₀.steps, Nat.zero_add]
      sent := hchannel.total
      numbered := fun i hi => by rw [(h.stamped i hi).1, h₀.steps, Nat.zero_add]
      stored := h.exists_between
      history := by
        have hcapacity : g.history.log.capacity = max c.historyCapacity.toNat 1 := by
          rw [h.history_capacity, h₀.history]
          rfl
        rw [History.records, hhistory.toList, List.length_map, hcapacity]
      capacity := by
        rw [h.channel_capacity, h₀.channel, Channel.capacity_empty]
        exact leastPowerOfTwo_powerOfTwoFrom _
      turns := alongTurns_turns.performAll hcalls
      step := fun e fault hfails => by
        have hturn := apply_turn g e false
        rw [← Engine.step, hfails] at hturn
        exact hturn.channel_of_error
      round := fun reg env run fault hrun hfails => by
        have hturn := runRound_turn hrun
        rw [hfails] at hturn
        exact hturn.channel_of_error }

end Engine

/-- What a subscriber has got, and what it gets when it asks until there is nothing left. -/
structure Subscriber.Served (L : TransitionLog) (c : Channel (Change Record)) (u : Subscriber) :
    Prop where
  /-- It subscribed after so many transitions. -/
  since_le : u.since ≤ L.length
  /-- It was told of everything since, up to what it is due next. -/
  heard : Heard L u.since u.got u.next
  /-- If it was told of no loss, it got everything. -/
  complete : (∀ k, .missed k ∉ u.got) → u.got = ((L.take u.next).drop u.since).map .message
  /-- While what it is due fits the channel, it gets all of it. -/
  drains : L.length ≤ u.next + c.log.capacity →
    c.drain u.next = ((L.drop u.next).map .message, L.length)
  /-- Else it loses the oldest, and gets what fits the channel. -/
  lags : u.next + c.log.capacity < L.length →
    c.drain u.next =
      (.missed (L.length - c.log.capacity - u.next) ::
        (L.drop (L.length - c.log.capacity)).map .message, L.length)

namespace Engine

/-- Subscribers do not matter to a replica, whenever they subscribe and ask.  Whatever happens, it
publishes every transition once and in order, with the record of its history, and publishes nothing
when a call fails.  A subscriber that asks in time gets all that was published since it subscribed,
and one that does not loses the oldest only. -/
theorem publishes {t : Table} {c : EngineConfig} {s : Supervisor} {g₀ : Engine}
    (hstart : start t c s = .ok g₀) (is : List Incident) :
    ((⟨g₀, []⟩ : Watched).happenAll is).map Watched.engine = g₀.performAll (Incident.calls is) ∧
      ∀ w, (⟨g₀, []⟩ : Watched).happenAll is = some w →
        Published c g₀ (g₀.performAllLog (Incident.calls is)) w.engine ∧
          ∀ u ∈ w.subscribers,
            u.Served (g₀.performAllLog (Incident.calls is)) w.engine.channel := by
  have h₀ := start_setUp hstart
  have hengine := Watched.map_engine_happenAll ⟨g₀, []⟩ is
  refine ⟨hengine, fun w hw => ?_⟩
  rw [hw] at hengine
  have hbegin : Watched.Follows [] ⟨g₀, []⟩ := ⟨h₀.steps, h₀.channel_keeps, fun u hu => nomatch hu⟩
  have hfollows := hbegin.happenAll hw
  refine ⟨h₀.published hengine.symm, fun u hu => ?_⟩
  have hu := hfollows.subscribers u hu
  exact ⟨hu.since_le, hu.heard, hu.heard.eq_messages,
    Channel.drain_of_fits hfollows.keeps hu.next_le, Channel.drain_of_lagging hfollows.keeps⟩

/-- Two subscribers, the first of which gets one message, and seven transitions with a fault after
them. -/
def waitIncidents : List Incident :=
  [.call (.step .done), .subscribe, .call (.stepAll [.done, .noMajority]), .ask 0, .subscribe,
    .call (.runFor 4 (plannedRegistry waits) ⟨.empty, false, .done⟩), .call (.step .wait)]

/-- A channel for three notifications holds four.  The first subscriber is due five and loses one of
them; the second one is due four and gets all. -/
theorem waits_publishes :
    ∃ g₀ w u v, start waits ⟨none, 3, 2⟩ .standard = .ok g₀ ∧
      (⟨g₀, []⟩ : Watched).happenAll waitIncidents = some w ∧ w.subscribers = [u, v] ∧
      w.engine.frozen = true ∧ w.engine.steps = 7 ∧ w.engine.channel.log.capacity = 4 ∧
      u.since = 1 ∧ u.got.length = 1 ∧ v.since = 3 ∧ v.got = [] ∧
      w.engine.channel.drain u.next =
        (.missed 1 :: ((g₀.performAllLog (Incident.calls waitIncidents)).drop 3).map .message, 7) ∧
      w.engine.channel.drain v.next =
        (((g₀.performAllLog (Incident.calls waitIncidents)).drop 3).map .message, 7) ∧
      Published ⟨none, 3, 2⟩ g₀ (g₀.performAllLog (Incident.calls waitIncidents)) w.engine := by
  obtain ⟨-, hpublishes⟩ := @publishes waits ⟨none, 3, 2⟩ .standard _ rfl waitIncidents
  obtain ⟨hpublished, hserved⟩ := hpublishes _ rfl
  have hfirst := hserved _ (.head _)
  have hsecond := hserved _ (.tail _ (.head _))
  exact ⟨_, _, _, _, rfl, rfl, rfl, rfl, rfl, rfl, rfl, rfl, rfl, rfl, hfirst.lags (by decide),
    hsecond.drains (by decide), hpublished⟩

end Engine

end RoundWorkflow
