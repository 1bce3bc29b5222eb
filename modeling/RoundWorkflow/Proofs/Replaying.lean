import RoundWorkflow.CommandLine.Commands
import RoundWorkflow.Files.Directory
import RoundWorkflow.Proofs.Canonical
import RoundWorkflow.Proofs.PlainStepping

/-!
# What a replay shows

A table leads from a round along events until it meets one that it does not accept.  How
far it leads is a matter of the table alone: the events are folded by `Table.next`, and
there is a longest part at their beginning of which the fold is a round
(`Table.exists_longest`).

A replica that is told all the events goes as far and stops there.  It applies the events
of that part, and the one after it, if there is one, freezes the replica
(`Engine.stepAll_longest`).  Its log has one entry for each, in order (`Table.Traversal`),
of which its history shows the latest, and a replay has a row for each of these.  So what is
in the rows is told by the table (`replay_exact`).  The command that asks for a replay writes
its rows, and fails where the replay meets a violation.
-/

namespace RoundWorkflow

/-! ## The events that a table accepts -/

namespace Table

/-- The records of all transitions that events make from a round on. -/
structure Traversal (t : Table) (a : Round) (events : List Event) (L : List Record) : Prop where
  /-- There is a record for every event. -/
  recorded : L.map Record.event = events
  /-- A transition leaves the round that the events before it lead to, for the round that its event
  leads to. -/
  rounds : ∀ (i : Nat) (h : i < L.length),
    (events.take i).foldlM t.next a = .ok L[i].source ∧
    t.next L[i].source L[i].event = .ok L[i].target
  /-- The transitions are numbered from zero. -/
  numbered : ∀ (i : Nat) (h : i < L.length), L[i].step = i
  /-- Each carries the number of transitions before it that ended a period. -/
  periods : ∀ (i : Nat) (h : i < L.length), L[i].period = (L.take i).countP Record.endsPeriod

variable {t : Table} {a r : Round} {events : List Event}

/-- Events are accepted up to a place if they are up to a later one. -/
theorem exists_foldlM_take {n k : Nat} (h : (events.take k).foldlM t.next a = .ok r) (hle : n ≤ k) :
    ∃ r', (events.take n).foldlM t.next a = .ok r' := by
  have hsplit := List.take_append_drop n (events.take k)
  rw [List.take_take, Nat.min_eq_left hle] at hsplit
  rw [← hsplit, List.foldlM_append] at h
  cases hfold : (events.take n).foldlM t.next a with
  | ok r' => exact ⟨r', rfl⟩
  | error fault =>
    rw [hfold] at h
    cases h

/-- Events are accepted up to a place and no further, if the table does not accept the next one
there. -/
theorem foldlM_take_iff {k : Nat} (h : (events.take k).foldlM t.next a = .ok r)
    (hrefused : ∀ e ∈ events[k]?, ∃ fault, t.next r e = .error fault) {n : Nat}
    (hn : n ≤ events.length) :
    (∃ r', (events.take n).foldlM t.next a = .ok r') ↔ n ≤ k := by
  refine ⟨fun ⟨r', hr'⟩ => Nat.not_lt.mp fun hlt => ?_, exists_foldlM_take h⟩
  -- The events up to the place after `k` would be accepted too.
  obtain ⟨r₁, hr₁⟩ := exists_foldlM_take hr' (Nat.succ_le_of_lt hlt)
  have hlt' : k < events.length := Nat.lt_of_lt_of_le hlt hn
  obtain ⟨fault, hfault⟩ := hrefused events[k] (List.getElem?_eq_getElem hlt')
  rw [List.take_succ_eq_append_getElem hlt', List.foldlM_append, h] at hr₁
  change [events[k]].foldlM t.next r = .ok r₁ at hr₁
  rw [List.foldlM_cons, hfault] at hr₁
  cases hr₁

/-- A start that is given, or else the default start, is a start. -/
theorem isStart_getD (t : Table) {start : Option Round} (h : ∀ r ∈ start, t.isStart r = true) :
    t.isStart (start.getD t.defaultStart) = true := by
  cases start with
  | none => exact decide_eq_true t.sensible.defaultStart
  | some r => exact h r rfl

end Table

namespace Engine

variable {g g' : Engine} {L : TransitionLog}

/-- The events of a log lead from where a replica was to where it is. -/
theorem Moves.leads (h : g.Moves L g') :
    (L.map Change.event).foldlM g.table.next g.current = .ok g'.current := by
  induction h with
  | refl => rfl
  | freeze _ ih => exact ih
  | @move L g' e r timedOut h hnext ih =>
    rw [h.table] at hnext
    rw [List.map_append, List.foldlM_append, ih]
    change [e].foldlM g.table.next g'.current = .ok r
    rw [List.foldlM_cons, hnext]
    rfl

/-- Every entry of a log leaves the round that the events before it lead to. -/
theorem Moves.rounds (h : g.Moves L g') (i : Nat) (hi : i < L.length) :
    ((L.take i).map Change.event).foldlM g.table.next g.current = .ok L[i].record.source ∧
      g.table.next L[i].record.source L[i].record.event = .ok L[i].record.target :=
  h.forall_entry
    (P := fun before c => (before.map Change.event).foldlM g.table.next g.current =
      .ok c.record.source ∧
      g.table.next c.record.source c.record.event = .ok c.record.target)
    (fun hbefore hnext => ⟨hbefore.leads, hbefore.table ▸ hnext⟩) i hi

/-- A replica that is told events applies those that its table accepts, up to the first that it does
not. -/
theorem stepAll_longest (events : List Event) (hrunning : g.frozen = false) :
    ∃ k ≤ events.length, (g.stepAllLog events).map Change.event = events.take k ∧
      (events.take k).foldlM g.table.next g.current = .ok (g.stepAll events).2.current ∧
      (∀ e ∈ events[k]?, ∃ fault, g.table.next (g.stepAll events).2.current e = .error fault) ∧
      (g.stepAll events).1 =
        match events[k]? with
        | none => .ok (g.stepAll events).2.current
        | some e => .error (.protocolViolation (g.stepAll events).2.current e) := by
  induction events generalizing g with
  | nil => exact ⟨0, Nat.le_refl 0, rfl, rfl, nofun, rfl⟩
  | cons e events ih =>
    cases hnext : g.table.next g.current e with
    | error fault =>
      have hstep : g.step e = (.error fault, g.freeze) := apply_of_next_error hrunning hnext false
      obtain ⟨-, rfl⟩ := Table.next_eq_error_iff.mp hnext
      rw [stepAll, stepAllLog, hstep]
      refine ⟨0, Nat.zero_le _, rfl, rfl, ?_, rfl⟩
      rintro _ ⟨⟩
      exact ⟨_, hnext⟩
    | ok r =>
      have hstep : g.step e = (.ok r, g.move ⟨g.current, e, r⟩ false) :=
        apply_of_next_ok hrunning hnext false
      obtain ⟨k, hk, hlog, hfold, hrefused, hresult⟩ :=
        ih (g := g.move ⟨g.current, e, r⟩ false) hrunning
      rw [stepAll, stepAllLog, hstep]
      refine ⟨k + 1, Nat.succ_le_succ hk, ?_, ?_, hrefused, hresult⟩
      · dsimp only
        rw [turnLog_move, List.map_append, hlog]
        rfl
      · rw [List.take_succ_cons, List.foldlM_cons, hnext]
        exact hfold

/-- The log of the events that are applied traverses the table. -/
theorem SetUp.traversal {t : Table} {c : EngineConfig} (h₀ : SetUp t c g) (h : g.Moves L g') :
    t.Traversal (c.startState.getD t.defaultStart) (L.map Change.event) (L.map Change.record) where
  recorded := List.map_map
  rounds i hi := by
    rw [List.length_map] at hi
    have hrounds := h.rounds i hi
    rw [h₀.table, h₀.current, List.map_take] at hrounds
    rw [List.getElem_map]
    exact hrounds
  numbered i hi := by
    rw [List.length_map] at hi
    rw [List.getElem_map, (h.stamped i hi).1, h₀.steps, Nat.zero_add]
  periods i hi := by
    rw [List.length_map] at hi
    rw [List.getElem_map, (h.stamped i hi).2, h₀.period, Nat.zero_add, List.map_take]

end Engine

/-! ## Commands -/

/-- A computation that succeeds is followed by what comes after it. -/
theorem run_bind_of_ok {ε σ α β : Type} {x : ExceptT ε (StateM σ) α}
    {f : α → ExceptT ε (StateM σ) β} {a : α} {d d' : σ}
    (h : x.run d = (.ok a, d')) : (x >>= f).run d = (f a).run d' := by
  change (fun p : Except ε α × σ => ExceptT.bindCont f p.1 p.2) (x.run d) = _
  rw [h]
  rfl

namespace Command

open MonadExcept (ofExcept)

variable {c : Configuration} {layout : Layout} {option start : Option Round} {path : Option String}
  {events : List Event}

/-- The round that a command has its replay start from: the one of its option, or else the one of
the configuration. -/
def startFor (c : Configuration) (option : Option Round) : Except Failure (Option Round) :=
  match option with
  | some r => .ok (some r)
  | none => (c.engineConfig.mapError .unusableSetting).map EngineConfig.startState

theorem perform_trace {m : Type → Type} [Monad m] [LawfulMonad m] [Files m] :
    ((Command.trace events option path).perform c layout : ExceptT Failure m Reply) = do
      let start ← ofExcept (startFor c option)
      let t ← table (path <|> c.engine.specification)
      return replayed (← ofExcept ((replay t start events).mapError .workflow)) layout := by
  cases option with
  | some r =>
    rw [perform, startFor]
    simp [ofExcept]
  | none => rfl

/-- A command that finds a table and a round to start from answers with their replay. -/
theorem trace_run {d d' : Directory} {t : Table} {r : Replay}
    (hstart : startFor c option = .ok start)
    (htable : (table (path <|> c.engine.specification) :
      ExceptT Failure (StateM Directory) Table).run d = (.ok t, d'))
    (hreplay : replay t start events = .ok r) :
    ((Command.trace events option path).perform c layout :
      ExceptT Failure (StateM Directory) Reply).run d = (.ok (replayed r layout), d') := by
  have hfirst :
      (ofExcept (startFor c option) : ExceptT Failure (StateM Directory) (Option Round)).run d =
      (.ok start, d) := by
    rw [hstart]
    rfl
  rw [perform_trace, run_bind_of_ok hfirst, run_bind_of_ok htable, hreplay]
  rfl

/-- The command writes the rows of the replay, and where the replay ended if it reached the end. -/
theorem output_replayed (r : Replay) (layout : Layout) :
    (replayed r layout).output = Report.text layout r.rows ++
      if r.violation = none then outcomeLine ("Final round: " ++ r.finalRound.name) else "" := by
  rw [replayed]
  cases r.violation with
  | none => rfl
  | some cause => exact String.append_empty.symm

/-- The violation of a replay is the failure of the command. -/
theorem failure_replayed (r : Replay) (layout : Layout) :
    (replayed r layout).failure = r.violation.map .workflow := by
  rw [replayed]
  cases r.violation <;> rfl

theorem code_replayed_eq_zero_iff (r : Replay) (layout : Layout) :
    (replayed r layout).code = 0 ↔ r.violation = none := by
  rw [Reply.code, failure_replayed]
  cases r.violation <;> simp

end Command

/-! ## Replays -/

/-- A replay shows what has come of a replica that is told the events. -/
theorem replay_of_stepAll {t : Table} {start : Option Round} {events : List Event} {g : Engine}
    {r : Round} {refused : Option Event}
    (hg : Engine.start t { EngineConfig.standard with startState := start } .standard = .ok g)
    (h : (g.stepAll events).1 =
      match refused with
      | none => .ok r
      | some e => .error (.protocolViolation r e)) :
    replay t start events =
      .ok ⟨(g.stepAll events).2.history.records.map Report.recordRow, (g.stepAll events).2.current,
        refused.map (.protocolViolation r)⟩ := by
  rw [replay, hg]
  dsimp only [bind, Except.bind]
  rw [h]
  cases refused <;> rfl

/-- A replay stops at the first event that the table does not accept where the events before it have
led, and at the end if there is none.  It has a row for each of the latest transitions up to there,
at most ten thousand of them, in order, with the number and the period of the transition, the round
it left, its event and the round it led to.  A command that asks for the replay writes these rows,
and fails with the violation if there is one, and succeeds if there is none. -/
theorem replay_exact {t : Table} {start : Option Round} (hstart : ∀ r ∈ start, t.isStart r = true)
    (events : List Event) :
    ∃ k ≤ events.length, ∃ (r : Replay) (L : List Record), replay t start events = .ok r ∧
      (∀ n ≤ events.length,
        (∃ r', (events.take n).foldlM t.next (start.getD t.defaultStart) = .ok r') ↔ n ≤ k) ∧
      (events.take k).foldlM t.next (start.getD t.defaultStart) = .ok r.finalRound ∧
      r.violation = events[k]?.map (.protocolViolation r.finalRound) ∧
      t.Traversal (start.getD t.defaultStart) (events.take k) L ∧
      r.rows = (L.drop (k - min k 10000)).map (fun s =>
        [("step", .nat s.step), ("period", .nat s.period), ("from", .string s.source.name),
          ("event", .string s.event.name), ("to", .string s.target.name)]) ∧
      ∀ (c : Configuration) (layout : Layout) (option : Option Round) (path : Option String)
        (d d' : Directory),
        Command.startFor c option = .ok start →
          (Command.table (path <|> c.engine.specification) :
            ExceptT Failure (StateM Directory) Table).run d = (.ok t, d') →
          ((Command.trace events option path).perform c layout :
            ExceptT Failure (StateM Directory) Reply).run d =
              (.ok (Command.replayed r layout), d') ∧
            (Command.replayed r layout).output =
              Report.text layout r.rows ++
                (if r.violation = none then
                  Command.outcomeLine ("Final round: " ++ r.finalRound.name)
                else "") ∧
            (Command.replayed r layout).failure = r.violation.map .workflow ∧
            ((Command.replayed r layout).code = 0 ↔ r.violation = none) := by
  obtain ⟨g, hg⟩ : ∃ g,
    Engine.start t { EngineConfig.standard with startState := start } .standard = .ok g :=
    ⟨_, if_pos (t.isStart_getD hstart)⟩
  have h₀ := Engine.start_setUp hg
  have hmoves := g.stepAll_moves events
  obtain ⟨k, hk, hlog, hfold, hrefused, hresult⟩ := Engine.stepAll_longest events h₀.frozen
  rw [h₀.table, h₀.current] at hfold
  rw [h₀.table] at hrefused
  have htraversal := h₀.traversal hmoves
  have hlength : ((g.stepAllLog events).map Change.record).length = k := by
    rw [List.length_map, ← List.length_map Change.event, hlog, List.length_take_of_le hk]
  have hkeeps := hmoves.history_keeps h₀.history_keeps
  have hcapacity : (g.stepAll events).2.history.log.capacity = 10000 := by
    rw [hmoves.history_capacity, h₀.history]
    rfl
  have hreplay := replay_of_stepAll hg hresult
  rw [hlog] at htraversal
  refine ⟨k, hk, _, _, hreplay, fun n hn => Table.foldlM_take_iff hfold hrefused hn, hfold,
    rfl, htraversal, ?_,
    fun c layout option path d d' hoption htable => ?_⟩
  · have hdropped : k - 10000 = k - min k 10000 := by omega
    rw [History.records, hkeeps.toList, hcapacity, List.nil_append, hlength, hdropped]
    rfl
  · exact ⟨Command.trace_run hoption htable hreplay, Command.output_replayed _ _,
      Command.failure_replayed _ _, Command.code_replayed_eq_zero_iff _ _⟩

/-- A replica that registers again does not accept to wait where it loads the database. -/
theorem canonical_replay_stops :
    (∀ r ∈ some Round.registration, Table.canonical.isStart r = true) ∧
      ∃ r, replay .canonical (some .registration) [.done, .wait, .done] = .ok r ∧
        r.finalRound = .loadDatabase ∧
        r.violation = some (.protocolViolation .loadDatabase .wait) ∧
        r.rows = [[("step", .nat 0), ("period", .nat 0), ("from", .string "RegistrationRound"),
          ("event", .string "DONE"), ("to", .string "LoadDatabaseRound")]] ∧
        ((Command.trace [.done, .wait, .done] (some .registration) none).perform .standard .grid :
            ExceptT Failure (StateM Directory) Reply).run ∅ = (.ok (Command.replayed r .grid), ∅) ∧
        (Command.replayed r .grid).code = 1 := by
  have hstart : ∀ r ∈ some Round.registration, Table.canonical.isStart r = true := by
    rintro _ ⟨⟩
    decide
  have htable : (Command.table none : ExceptT Failure (StateM Directory) Table).run ∅ =
      (.ok .canonical, ∅) := by
    rw [Command.table, Table.load_canonical]
    rfl
  have hfirst : [Event.done].foldlM Table.canonical.next .registration = .ok .loadDatabase := rfl
  have hsecond : ∀ r', [Event.done, .wait].foldlM Table.canonical.next .registration ≠ .ok r' :=
    fun _ => nofun
  obtain ⟨k, -, r, L, hreplay, hlongest, hfinal, hviolation, htraversal, hrows, hcommand⟩ :=
    @replay_exact .canonical (some .registration) hstart [.done, .wait, .done]
  have hle : 1 ≤ k := (hlongest 1 (by decide)).mp ⟨_, hfirst⟩
  have hlt : ¬2 ≤ k := fun h => by
    obtain ⟨r', hr'⟩ := (hlongest 2 (by decide)).mpr h
    exact hsecond r' hr'
  obtain rfl : k = 1 := by omega
  have hround : r.finalRound = .loadDatabase := Except.ok.inj (hfinal.symm.trans hfirst)
  have hstopped : r.violation = some (.protocolViolation .loadDatabase .wait) := by
    rw [hviolation, hround]
    rfl
  obtain ⟨hrun, -, hfailure, -⟩ := hcommand .standard .grid (some .registration) none ∅ ∅ rfl htable
  refine ⟨hstart, r, hreplay, hround, hstopped, ?_, hrun, ?_⟩
  · obtain ⟨s, rfl, hevent⟩ := List.map_eq_singleton_iff.mp htraversal.recorded
    obtain ⟨hsource, htarget⟩ := htraversal.rounds 0 Nat.one_pos
    have hstep : s.step = 0 := htraversal.numbered 0 Nat.one_pos
    have hperiod : s.period = 0 := htraversal.periods 0 Nat.one_pos
    have hleft : s.source = .registration := (Except.ok.inj hsource).symm
    have hentered : s.target = .loadDatabase := by
      change Table.canonical.next s.source s.event = .ok s.target at htarget
      rw [hleft, hevent] at htarget
      exact (Except.ok.inj htarget).symm
    rw [hrows, show 1 - min 1 10000 = 0 from rfl, List.drop_zero, List.map_singleton, hstep,
      hperiod, hleft, hevent, hentered]
    rfl
  · rw [Reply.code, hfailure, hstopped]
    rfl

end RoundWorkflow
