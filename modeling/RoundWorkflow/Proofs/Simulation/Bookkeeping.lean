import RoundWorkflow.Proofs.TransitionLog
import RoundWorkflow.Proofs.Simulation.Rounds

/-!
# The books of a simulation

Three rounds of a simulation write to the store.  A validation that succeeds records the
hash of its period, the preparation of an action settles the hash that it finds, and a post
that is published is filed.  What the store holds in the end can be told from the
transitions alone.

A validation *waits* after some transitions if nothing was prepared since and no other
validation has taken its place (`Simulation.Waits`), and a preparation *settles* the
validation that waits before it (`Simulation.Settles`).  The store is a function of the
transitions (`Simulation.store_of_runFor`), and one more of them keeps the books
(`Simulation.Books.HeldBy.enter`): the list of settled hashes is that of the validations
that are settled, and a hash is found waiting exactly if a validation waits.  The validations
in the books stand in the order of the log, and the one that waits stands after them, so that
none of them is settled twice.  The main statement is `simulate_keepsBooks`.

A hash may be settled twice even so.  Validations of one period have the same hash, and each
of them is settled on its own (`alternating_settles_twice`).  So a hash is settled as often as
it was validated, and not more often.
-/

namespace RoundWorkflow

namespace Simulation

/-! ## What transitions record, settle and file -/

/-- A validation that succeeded. -/
def validates (r : Record) : Bool := r.source = .validateTransaction && r.event = .done

/-- A preparation of an action, whatever came of it. -/
def prepares (r : Record) : Bool := r.source = .actionPreparation

/-- A post that was published. -/
def tweets (r : Record) : Bool := r.source = .actionTweet && r.event = .done

/-- A validation is the latest one, and nothing was prepared since. -/
def Waits (L : List Record) (v : Record) : Prop :=
  ∃ before after, L = before ++ v :: after ∧ validates v = true ∧
    ∀ r ∈ after, validates r = false ∧ prepares r = false

/-- A preparation comes after a validation that waits. -/
def Settles (L : List Record) (v p : Record) : Prop :=
  ∃ before after, L = before ++ p :: after ∧ prepares p = true ∧ Waits before v

variable {L : List Record} {r v p : Record}

/-- A place in a list that has one more entry at its end is that entry, or a place in the list. -/
theorem concat_eq_append_cons_iff {α : Type} {xs before after : List α} {a x : α} :
    xs ++ [a] = before ++ x :: after ↔
      before = xs ∧ x = a ∧ after = [] ∨ ∃ after', after = after' ++ [a] ∧
      xs = before ++ x :: after' := by
  constructor
  · intro h
    rcases List.eq_nil_or_concat after with rfl | ⟨after', y, rfl⟩
    · obtain ⟨rfl, hx⟩ := List.append_inj' h rfl
      exact .inl ⟨rfl, (List.singleton_inj.mp hx).symm, rfl⟩
    · rw [List.concat_eq_append, ← List.cons_append, ← List.append_assoc] at h
      obtain ⟨rfl, hy⟩ := List.append_inj' h rfl
      exact .inr ⟨after', by rw [List.concat_eq_append, List.singleton_inj.mp hy], rfl⟩
  · rintro (⟨rfl, rfl, rfl⟩ | ⟨after', rfl, rfl⟩)
    · rfl
    · rw [List.append_assoc, List.cons_append]

/-- A transition is the validation that waits after it, or leaves the one that waited before it, or
ends its waiting. -/
theorem waits_concat_iff :
    Waits (L ++ [r]) v ↔
      validates r = true ∧ v = r ∨ validates r = false ∧ prepares r = false ∧ Waits L v := by
  simp only [Waits, concat_eq_append_cons_iff]
  constructor
  · rintro ⟨before, _, ⟨rfl, rfl, rfl⟩ | ⟨after, rfl, hL⟩, hv, hafter⟩
    · exact .inl ⟨hv, rfl⟩
    · obtain ⟨hvalidates, hprepares⟩ := hafter r (List.mem_append_right _ List.mem_cons_self)
      exact .inr ⟨hvalidates, hprepares, before, after, hL, hv,
        fun r' hr' => hafter r' (List.mem_append_left _ hr')⟩
  · rintro (⟨hr, rfl⟩ | ⟨hvalidates, hprepares, before, after, rfl, hv, hafter⟩)
    · exact ⟨L, [], .inl ⟨rfl, rfl, rfl⟩, hr, fun _ h => absurd h List.not_mem_nil⟩
    · refine ⟨before, after ++ [r], .inr ⟨after, rfl, rfl⟩, hv, fun r' hr' => ?_⟩
      rcases List.mem_append.mp hr' with hr' | hr'
      · exact hafter r' hr'
      · cases List.mem_singleton.mp hr'
        exact ⟨hvalidates, hprepares⟩

theorem settles_concat_iff :
    Settles (L ++ [r]) v p ↔ Settles L v p ∨ p = r ∧ prepares r = true ∧ Waits L v := by
  simp only [Settles, concat_eq_append_cons_iff]
  constructor
  · rintro ⟨before, _, ⟨rfl, rfl, rfl⟩ | ⟨after, rfl, hL⟩, hp, hv⟩
    · exact .inr ⟨rfl, hp, hv⟩
    · exact .inl ⟨before, after, hL, hp, hv⟩
  · rintro (⟨before, after, rfl, hp, hv⟩ | ⟨rfl, hp, hv⟩)
    · exact ⟨before, after ++ [r], .inr ⟨after, rfl, rfl⟩, hp, hv⟩
    · exact ⟨L, [], .inl ⟨rfl, rfl, rfl⟩, hp, hv⟩

/-! ## The books of a log -/

/-- What has been settled by some transitions, and what waits to be. -/
structure Books where
  /-- The validations that were settled, each with the preparation that settled it. -/
  filings : List (Record × Record)
  /-- The validation that waits. -/
  waiting : Option Record

namespace Books

/-- The books after one more transition. -/
def enter (b : Books) (r : Record) : Books :=
  if prepares r then ⟨b.filings ++ b.waiting.toList.map fun v => (v, r), none⟩
  else if validates r then ⟨b.filings, some r⟩
  else b

/-- The books of the transitions of a log. -/
def ofLog (L : List Record) : Books := L.foldl enter ⟨[], none⟩

theorem ofLog_concat (L : List Record) (r : Record) : ofLog (L ++ [r]) = (ofLog L).enter r := by
  rw [ofLog, List.foldl_append]
  rfl

/-- The books have what the log says. -/
structure Exact (b : Books) (L : List Record) : Prop where
  waits : ∀ v, Waits L v ↔ b.waiting = some v
  settles : ∀ v p, Settles L v p ↔ (v, p) ∈ b.filings
  /-- The validations that were settled come in the order of the log, and the one that waits comes
  after them. -/
  validated : (b.filings.map Prod.fst ++ b.waiting.toList).Sublist (L.filter validates)
  /-- The preparations come in the order of the log. -/
  prepared : (b.filings.map Prod.snd).Sublist (L.filter prepares)

variable {b : Books}

/-- A preparation is no validation. -/
theorem validates_of_prepares (h : prepares r = true) : validates r = false := by
  have hsource : r.source = .actionPreparation := of_decide_eq_true h
  rw [validates, hsource]
  rfl

theorem Exact.enter (h : b.Exact L) (r : Record) : (b.enter r).Exact (L ++ [r]) := by
  rw [Books.enter]
  by_cases hprepares : prepares r = true
  · have hvalidates := validates_of_prepares hprepares
    rw [if_pos hprepares]
    refine ⟨fun v => ?_, fun v p => ?_, ?_, ?_⟩
    · simp [waits_concat_iff, hvalidates, hprepares]
    · rw [settles_concat_iff, h.settles, h.waits, List.mem_append]
      simp [hprepares, eq_comm, and_comm]
    · have hwaiting : (b.waiting.toList.map fun v => (v, r)).map Prod.fst = b.waiting.toList := by
        cases b.waiting <;> rfl
      rw [List.map_append, hwaiting, List.filter_append,
        List.filter_cons_of_neg (by simp [hvalidates])]
      simpa using h.validated
    · rw [List.map_append, List.filter_append, List.filter_cons_of_pos hprepares]
      refine h.prepared.append ?_
      cases b.waiting <;> simp
  · rw [if_neg hprepares]
    rw [Bool.not_eq_true] at hprepares
    have hsettles : ∀ v p, Settles (L ++ [r]) v p ↔ (v, p) ∈ b.filings := fun v p => by
      rw [settles_concat_iff, h.settles, hprepares]
      simp
    have hprepared : (b.filings.map Prod.snd).Sublist ((L ++ [r]).filter prepares) := by
      rw [List.filter_append]
      exact h.prepared.trans (List.sublist_append_left _ _)
    by_cases hvalidates : validates r = true
    · rw [if_pos hvalidates]
      refine ⟨fun v => ?_, hsettles, ?_, hprepared⟩
      · simpa [waits_concat_iff, hvalidates] using eq_comm
      · rw [List.filter_append, List.filter_cons_of_pos hvalidates]
        exact ((List.sublist_append_left _ _).trans h.validated).append (List.Sublist.refl _)
    · rw [if_neg hvalidates]
      rw [Bool.not_eq_true] at hvalidates
      refine ⟨fun v => ?_, hsettles, ?_, hprepared⟩
      · simp [waits_concat_iff, hvalidates, hprepares, h.waits]
      · rw [List.filter_append]
        exact h.validated.trans (List.sublist_append_left _ _)

theorem ofLog_exact (L : List Record) : (ofLog L).Exact L := by
  induction L using List.reverseRecOn with
  | nil =>
    exact ⟨fun v => ⟨fun ⟨_, _, h, _⟩ => by simp at h, nofun⟩,
      fun v p => ⟨fun ⟨_, _, h, _⟩ => by simp at h, nofun⟩,
      .slnil, .slnil⟩
  | append_singleton L r ih =>
    rw [ofLog_concat]
    exact ih.enter r

end Books

/-- The settled hashes are those of some of the validations, and none comes more often than among
these. -/
theorem count_settled_le {filings : List (Record × Record)}
    (h : (filings.map Prod.fst).Sublist (L.filter validates)) (hash : String) :
    (filings.map fun f => hashOf f.1.period).count hash ≤
      (L.filter validates).countP fun v => hashOf v.period = hash := by
  have hhashes : (filings.map fun f => hashOf f.1.period) =
      (filings.map Prod.fst).map fun v => hashOf v.period := by
    rw [List.map_map]
    rfl
  rw [hhashes, List.count_eq_countP, List.countP_map]
  exact h.countP_le

/-! ## The books in the store -/

/-- What is at the key of a list: nothing before the first value is appended to it. -/
def listed : List Json → Option Json
  | [] => none
  | v :: vs => some (.array (v :: vs))

theorem listed_concat (vs : List Json) (v : Json) :
    listed (vs ++ [v]) = some (.array (vs ++ [v])) := by
  cases vs <;> rfl

/-- The strings of a list are told by what is at its key. -/
theorem eq_of_listed {α : Type} {f : α → String} {xs : List α} {ss : List String}
    (h : listed (xs.map fun x => .string (f x)) = some (.array (ss.map .string))) :
    xs.map f = ss := by
  cases xs with
  | nil => cases h
  | cons x xs =>
    have hitems := Json.array.inj (Option.some.inj h)
    have hstrings : ((x :: xs).map f).map Json.string = ss.map .string := by
      rw [List.map_map]
      exact hitems
    exact List.map_injective_iff.mpr (fun _ _ => Json.string.inj) hstrings

/-- An append to a list is listed after the others. -/
theorem read_extend {s : Store} {key : String} {vs : List Json} (h : s.read key = listed vs)
    (v : Json) :
    (s.extend key v).read key = listed (vs ++ [v]) := by
  have hlist : s.listAt key = vs := by
    rw [Store.listAt, h]
    cases vs <;> rfl
  rw [Store.extend, Store.read_write, if_pos rfl, hlist, listed_concat]

theorem pendingHash?_eq_some_iff {s : Store} {hash : String} :
    pendingHash? s = some hash ↔ s.read hashKey = some (.string hash) := by
  rw [pendingHash?]
  split <;> simp_all

/-- A store holds the books of a log. -/
structure Books.HeldBy (b : Books) (L : List Record) (s : Store) : Prop where
  pending : pendingHash? s = b.waiting.map fun v => hashOf v.period
  settled : s.read settledKey = listed (b.filings.map fun f => .string (hashOf f.1.period))
  posts : s.read postsKey = listed ((L.filter tweets).map fun r => .nat r.period)

variable {b : Books} {s s' : Store}

/-- A hash is found waiting exactly if it is the one of the validation that waits. -/
theorem Books.HeldBy.read_hash_iff (h : b.HeldBy L s) (hexact : b.Exact L) (hash : String) :
    s.read hashKey = some (.string hash) ↔ ∃ v, Waits L v ∧ hashOf v.period = hash := by
  rw [← pendingHash?_eq_some_iff, h.pending, Option.map_eq_some_iff]
  simp only [hexact.waits]

/-- A transition that is no post, and leaves the posts as they are, leaves them as the log has
them. -/
theorem Books.HeldBy.read_posts (h : b.HeldBy L s) (htweets : tweets r = false)
    (hread : s'.read postsKey = s.read postsKey) :
    s'.read postsKey = listed (((L ++ [r]).filter tweets).map fun r => .nat r.period) := by
  rw [hread, h.posts, List.filter_append, List.filter_cons_of_neg (by simp [htweets]),
    List.filter_nil, List.append_nil]

/-- The preparation of an action settles what waits. -/
theorem Books.HeldBy.prepare (h : b.HeldBy L s) (hprepares : prepares r = true) :
    (b.enter r).HeldBy (L ++ [r]) (storeAfter ⟨r.source, r.period⟩ r.event s) := by
  have hsource : r.source = .actionPreparation := of_decide_eq_true hprepares
  have htweets : tweets r = false := by
    rw [tweets, hsource]
    rfl
  rw [Books.enter, if_pos hprepares, storeAfter, awaited?, if_pos hsource, h.pending]
  cases hwaiting : b.waiting with
  | none =>
    dsimp only [Option.map_none]
    rw [if_neg (by simp [hsource]), if_neg (by simp [hsource])]
    refine ⟨?_, ?_, h.read_posts htweets rfl⟩
    · rw [h.pending, hwaiting]
    · rw [h.settled, Option.toList_none, List.map_nil, List.append_nil]
  | some v =>
    dsimp only [Option.map_some]
    refine ⟨?_, ?_, h.read_posts htweets ?_⟩
    · rw [pendingHash?, Store.read_write, if_pos rfl]
      rfl
    · rw [Store.read_write, if_neg (by decide), read_extend h.settled, List.map_append]
      rfl
    · rw [Store.read_write, if_neg (by decide), Store.extend, Store.read_write, if_neg (by decide)]

/-- A validation that succeeds waits. -/
theorem Books.HeldBy.validate (h : b.HeldBy L s)
    (hvalidates : r.source = .validateTransaction ∧ r.event = .done) :
    Books.HeldBy ⟨b.filings, some r⟩ (L ++ [r]) (s.write hashKey (.string (hashOf r.period))) := by
  have htweets : tweets r = false := by
    rw [tweets, hvalidates.1]
    rfl
  refine ⟨?_, ?_, h.read_posts htweets ?_⟩
  · rw [pendingHash?, Store.read_write, if_pos rfl]
    rfl
  · rw [Store.read_write, if_neg (by decide), h.settled]
  · rw [Store.read_write, if_neg (by decide)]

/-- A post that is published is filed. -/
theorem Books.HeldBy.publish (h : b.HeldBy L s)
    (hpublishes : r.source = .actionTweet ∧ r.event = .done) :
    b.HeldBy (L ++ [r]) (s.extend postsKey (.nat r.period)) := by
  have htweets : tweets r = true := by
    rw [tweets, hpublishes.1, hpublishes.2]
    rfl
  refine ⟨?_, ?_, ?_⟩
  · rw [pendingHash?, Store.extend, Store.read_write, if_neg (by decide), ← pendingHash?, h.pending]
  · rw [Store.extend, Store.read_write, if_neg (by decide), h.settled]
  · rw [read_extend h.posts, List.filter_append, List.filter_cons_of_pos htweets, List.map_append]
    rfl

/-- A round that concludes a transition enters it. -/
theorem Books.HeldBy.enter (h : b.HeldBy L s) (r : Record) :
    (b.enter r).HeldBy (L ++ [r]) (storeAfter ⟨r.source, r.period⟩ r.event s) := by
  by_cases hprepares : prepares r = true
  · exact h.prepare hprepares
  have hsource : r.source ≠ .actionPreparation := fun hsource => hprepares (decide_eq_true hsource)
  rw [Books.enter, if_neg hprepares, storeAfter, awaited?, if_neg hsource, validates,
    ← Bool.decide_and]
  dsimp only
  by_cases hvalidates : r.source = .validateTransaction ∧ r.event = .done
  · rw [if_pos hvalidates, if_pos (decide_eq_true hvalidates)]
    exact h.validate hvalidates
  · rw [if_neg hvalidates, if_neg (by simpa using hvalidates)]
    by_cases hpublishes : r.source = .actionTweet ∧ r.event = .done
    · rw [if_pos hpublishes]
      exact h.publish hpublishes
    · have htweets : tweets r = false := by
        rw [tweets, ← Bool.decide_and]
        exact decide_eq_false hpublishes
      rw [if_neg hpublishes]
      exact ⟨h.pending, h.settled, h.read_posts htweets rfl⟩

/-! ## Simulations -/

/-- The store after the rounds that concluded some transitions, one after the other. -/
def storeOf (L : List Record) (s : Store) : Store :=
  L.foldl (fun s r => storeAfter ⟨r.source, r.period⟩ r.event s) s

/-- The store in which a log is kept holds its books. -/
theorem heldBy_storeOf (L : List Record) : (Books.ofLog L).HeldBy L (storeOf L .empty) := by
  induction L using List.reverseRecOn with
  | nil => exact ⟨rfl, rfl, rfl⟩
  | append_singleton L r ih =>
    rw [Books.ofLog_concat, storeOf, List.foldl_append]
    exact ih.enter r

variable {σ : Type} [RandomSource σ]

/-- A simulated replica leaves the store that its transitions make. -/
theorem store_of_runFor (n : Nat) {g : Engine} {env : Environment σ} {run : Run σ Round} {r : Round}
    (hrunning : g.frozen = false) (hstate : g.current ∈ g.table.states) (h : Filed env.store)
    (hrun : g.runFor (registry g.table) env n = some run) (hok : run.result = .ok r) :
    run.environment.store =
      storeOf ((g.runForLog (registry g.table) env n).map Change.record) env.store := by
  induction n generalizing g env with
  | zero =>
    cases hrun
    rfl
  | succ n ih =>
    have hround := runRound_registry hrunning hstate h
    rw [Engine.runFor, hround] at hrun
    rw [Engine.runForLog, hround]
    cases hnext : g.table.next g.current (decision g.table g.current env).1 with
    | error fault =>
      rw [Engine.apply_of_next_error hrunning hnext] at hrun
      cases hrun
      cases hok
    | ok r' =>
      rw [Engine.apply_of_next_ok hrunning hnext] at hrun ⊢
      have hmoved : (g.move ⟨g.current, (decision g.table g.current env).1, r'⟩ false).frozen =
          false := hrunning
      have hrest := ih hmoved (Table.mem_states_of_next hnext) (h.storeAfter _ _) hrun
      rw [hrest]
      dsimp only
      rw [Engine.turnLog_move, List.map_append]
      rfl

end Simulation

/-- No two transitions of a replica are alike, since they are numbered. -/
theorem Engine.SetUp.nodup_records {t : Table} {c : EngineConfig} {g g' : Engine}
    {L : TransitionLog} (h₀ : SetUp t c g) (h : g.Moves L g') : (L.map Change.record).Nodup := by
  have hnumbers : (L.map Change.record).map Record.step = List.range L.length := by
    refine List.ext_getElem (by simp) fun i hi _ => ?_
    rw [List.length_map, List.length_map] at hi
    rw [List.getElem_map, List.getElem_map, (h.stamped i hi).1, h₀.steps, Nat.zero_add,
      List.getElem_range]
  have hnodup : ((L.map Change.record).map Record.step).Nodup := hnumbers ▸ List.nodup_range
  exact List.Pairwise.of_map Record.step (fun _ _ => ne_of_apply_ne Record.step) hnodup

open Simulation

variable {σ : Type} [RandomSource σ]

/-- The store of a simulation tells of its transitions.  The published posts are those of the
transitions that publish one, and the settled hashes are those of the validations that a preparation
settled, all in order, each validation at most once, and so each hash at most as often as there were
validations that left it.  A hash waits exactly if a validation does. -/
theorem simulate_keepsBooks {t : Table} {c : EngineConfig} {s : Supervisor} {g : Engine}
    {steps : Nat} {source : σ} {sim : Simulation} (hstart : Engine.start t c s = .ok g)
    (hsim : simulate g steps source = .ok sim) :
    ∃ L : List Record,
      L = (g.runForLog (registry g.table) ⟨.empty, false, source⟩ steps).map Change.record ∧
      L.length = steps ∧
      sim.store.read postsKey = listed ((L.filter tweets).map fun r => .nat r.period) ∧
      (∃ filings : List (Record × Record),
        sim.store.read settledKey = listed (filings.map fun f => .string (hashOf f.1.period)) ∧
          (∀ v p, (v, p) ∈ filings ↔ Settles L v p) ∧
          (filings.map Prod.fst).Sublist (L.filter validates) ∧
          (filings.map Prod.snd).Sublist (L.filter prepares) ∧
          (filings.map Prod.fst).Nodup ∧ (filings.map Prod.snd).Nodup ∧
          ∀ hash, (filings.map fun f => hashOf f.1.period).count hash ≤
            (L.filter validates).countP fun v => hashOf v.period = hash) ∧
      (∀ v, Waits L v → sim.store.read hashKey = some (.string (hashOf v.period))) ∧
      ((∃ hash, sim.store.read hashKey = some (.string hash)) ↔ ∃ v, Waits L v) := by
  obtain ⟨⟨r, hok⟩, rfl⟩ := simulate_eq_ok_iff.mp hsim
  have h₀ := Engine.start_setUp hstart
  have hrun := runFor_eq_run g steps source
  have hstate : g.current ∈ g.table.states := by
    rw [h₀.table]
    exact Table.mem_states_of_isStart h₀.isStart
  have hstore := store_of_runFor steps h₀.frozen hstate filed_empty hrun hok
  have hlength := Engine.length_runForLog steps g hrun hok
  have hnodup := h₀.nodup_records (Engine.runFor_moves steps g hrun)
  rw [← List.length_map Change.record] at hlength
  generalize hL : (g.runForLog (registry g.table) ⟨.empty, false, source⟩ steps).map
    Change.record = L at *
  have hexact := Books.ofLog_exact L
  have hheld := heldBy_storeOf L
  rw [← hstore] at hheld
  have hwaits := hheld.read_hash_iff hexact
  have hvalidated : ((Books.ofLog L).filings.map Prod.fst).Sublist (L.filter validates) :=
    (List.sublist_append_left _ _).trans hexact.validated
  refine ⟨L, rfl, hlength, hheld.posts, ⟨(Books.ofLog L).filings, hheld.settled,
    fun v p => (hexact.settles v p).symm, hvalidated, hexact.prepared,
    hvalidated.nodup (hnodup.filter _), hexact.prepared.nodup (hnodup.filter _),
    count_settled_le hvalidated⟩, fun v hv => (hwaits _).mpr ⟨v, hv, rfl⟩, ?_⟩
  simp only [hwaits]
  exact ⟨fun ⟨_, v, hv, _⟩ => ⟨v, hv⟩, fun ⟨v, hv⟩ => ⟨_, v, hv, rfl⟩⟩

/-- A validation, the preparation after it and the post after that, which may fail.  Then there is
another validation, and else the pause before the next period. -/
def settling : Table where
  specification := .ofEdges .validateTransaction [.validateTransaction]
    [⟨.validateTransaction, .done, .actionPreparation⟩, ⟨.actionPreparation, .done, .actionTweet⟩,
      ⟨.actionTweet, .noMajority, .validateTransaction⟩, ⟨.actionTweet, .done, .resetAndPause⟩,
      ⟨.resetAndPause, .done, .pullMemes⟩, ⟨.pullMemes, .done, .validateTransaction⟩]
  warnings :=
    [.unroutedTimeout .actionPreparation .roundTimeout, .unroutedTimeout .actionTweet .roundTimeout,
      .unroutedTimeout .pullMemes .roundTimeout,
      .unroutedTimeout .resetAndPause .resetAndPauseTimeout,
      .unroutedTimeout .validateTransaction .validateTimeout]
  valid := by cbv

/-- The first post fails, so there are two validations in a period, and both are settled.  The one
of the next period waits. -/
theorem settling_keepsBooks :
    ∃ g sim, Engine.start settling .standard .standard = .ok g ∧
      simulate g 9 (⟨[0, 1]⟩ : Decisions) = .ok sim ∧
      sim.store.read postsKey = some (.array [.nat 0]) ∧
      sim.store.read settledKey = some (.array [.string (hashOf 0), .string (hashOf 0)]) ∧
      sim.store.read hashKey = some (.string (hashOf 1)) ∧
      ∃ L v, L = (g.runForLog (registry g.table) ⟨.empty, false, (⟨[0, 1]⟩ : Decisions)⟩ 9).map
        Change.record ∧ Waits L v ∧ 2 ≤ (L.filter validates).countP fun v =>
          hashOf v.period = hashOf 0 := by
  refine ⟨_, _, rfl, rfl, rfl, rfl, rfl, ?_⟩
  obtain ⟨L, rfl, -, -, ⟨filings, hsettled, -, -, -, -, -, hcount⟩, -, hwaits⟩ :=
    @simulate_keepsBooks Decisions _ settling .standard .standard _ 9 ⟨[0, 1]⟩ _ rfl rfl
  obtain ⟨v, hv⟩ := hwaits.mp ⟨_, rfl⟩
  have htwo : (filings.map fun f => hashOf f.1.period) = [hashOf 0, hashOf 0] :=
    eq_of_listed hsettled.symm
  refine ⟨_, v, rfl, hv, Nat.le_trans ?_ (hcount (hashOf 0))⟩
  rw [htwo, List.count_cons_self, List.count_cons_self]
  exact Nat.le_add_left 2 _

/-- Two rounds that take turns and never end a period. -/
def alternating : Table where
  specification := .ofEdges .validateTransaction [.validateTransaction]
    [⟨.validateTransaction, .done, .actionPreparation⟩,
      ⟨.actionPreparation, .done, .validateTransaction⟩]
  warnings :=
    [.unroutedTimeout .actionPreparation .roundTimeout,
      .unroutedTimeout .validateTransaction .validateTimeout]
  valid := by cbv

/-- Both validations leave the hash of the period that they are in, and it is settled twice. -/
theorem alternating_settles_twice :
    ∃ g sim, Table.load alternating.specification = .ok alternating ∧
      Engine.start alternating .standard .standard = .ok g ∧
      simulate g 4 (⟨[]⟩ : Decisions) = .ok sim ∧
      ∃ hashes : List String,
        sim.store.read settledKey = some (.array (hashes.map .string)) ∧ ¬hashes.Nodup :=
  ⟨_, _, alternating.load_specification, rfl, rfl, [hashOf 0, hashOf 0], rfl, by simp⟩

end RoundWorkflow
