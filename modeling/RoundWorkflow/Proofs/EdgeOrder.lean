import RoundWorkflow.Table.Graphviz
import RoundWorkflow.Proofs.Progress

/-!
# The order of the edges

A document lists the edges of a round graph in some order, and two replicas may have been
given files that list them in different orders.  Nothing comes of it.

Validation goes through the edges in turn, and may blame one edge here and another one
there.  But whether a specification is sensible is a matter of which edges it has
(`sensible_withEdges_iff`), and so are its warnings, what a table finds, and what is drawn
of it (`Table.Agrees`).

A replica asks its table for the next round, and for the states that a registry has to
cover.  So with a table that agrees with its own it starts alike, answers every request
alike, and afterwards differs in the table only (`serveAll_withTable`).  The main statement
is `Table.load_withEdges`.
-/

namespace RoundWorkflow

/-! ## Specifications -/

/-- A path leads through more edges if it leads through some of them. -/
theorem Path.mono {edges edges' : List Edge} {a r : Round} (hedges : edges ⊆ edges')
    (h : Path edges a r) :
    Path edges' a r := by
  induction h with
  | refl => exact .refl
  | step _ he ih => exact .step ih (hedges he)

theorem path_iff_of_perm {edges edges' : List Edge} {a r : Round} (h : edges.Perm edges') :
    Path edges a r ↔ Path edges' a r :=
  ⟨Path.mono h.subset, Path.mono h.symm.subset⟩

namespace Specification

/-- The specification with other edges. -/
def withEdges (s : Specification) (edges : List Edge) : Specification := { s with edges := edges }

variable {s : Specification} {edges : List Edge}

theorem Sensible.withEdges (h : edges.Perm s.edges) (hs : s.Sensible) :
    (s.withEdges edges).Sensible where
  state := hs.state
  defaultStart := hs.defaultStart
  starts := hs.starts
  finals := hs.finals
  ends e he := hs.ends e (h.subset he)
  events e he := hs.events e (h.subset he)
  keys := (h.pairwise_iff fun hkey => hkey.symm).mpr hs.keys
  exits r hr hfinal := by
    obtain ⟨e, he, hsource⟩ := hs.exits r hr hfinal
    exact ⟨e, h.symm.subset he, hsource⟩
  paths r hr := by
    obtain ⟨a, ha, hpath⟩ := hs.paths r hr
    exact ⟨a, ha, (path_iff_of_perm h).mpr hpath⟩

theorem sensible_withEdges_iff (h : edges.Perm s.edges) :
    (s.withEdges edges).Sensible ↔ s.Sensible :=
  ⟨fun hs => Sensible.withEdges (s := s.withEdges edges) h.symm hs, fun hs => hs.withEdges h⟩

theorem warnings_withEdges (h : edges.Perm s.edges) :
    (s.withEdges edges).warnings = s.warnings := by
  have hunused : (s.withEdges edges).unusedEvents = s.unusedEvents := by
    rw [unusedEvents, unusedEvents]
    refine List.filter_congr fun e _ => ?_
    exact congrArg _ h.any_eq
  have hunrouted : (s.withEdges edges).unroutedTimeout? = s.unroutedTimeout? := by
    funext r
    have hkey : (s.withEdges edges).hasKey = s.hasKey := funext fun k => h.any_eq
    rw [unroutedTimeout?, unroutedTimeout?, hkey]
  rw [warnings, warnings, hunused, hunrouted]
  rfl

theorem validate_withEdges_iff (h : edges.Perm s.edges) {warnings : List Warning} :
    (s.withEdges edges).validate = .ok warnings ↔ s.validate = .ok warnings := by
  rw [validate_eq_ok_iff, validate_eq_ok_iff, sensible_withEdges_iff h, warnings_withEdges h]

theorem reachableFrom_withEdges (h : edges.Perm s.edges) (r : Round) :
    (s.withEdges edges).reachableFrom r = s.reachableFrom r := by
  apply EnumSet.ext
  intro r'
  rw [mem_reachableFrom_iff, mem_reachableFrom_iff]
  exact path_iff_of_perm h

end Specification

/-! ## Tables -/

namespace Table

/-- Two tables have the same answer to everything that can be asked of a table. -/
structure Agrees (t' t : Table) : Prop where
  states : t'.states = t.states
  isStart : ∀ r, t'.isStart r = t.isStart r
  isFinal : ∀ r, t'.isFinal r = t.isFinal r
  defaultStart : t'.defaultStart = t.defaultStart
  warnings : t'.warnings = t.warnings
  next : ∀ r e, t'.next r e = t.next r e
  accepted : ∀ r, t'.accepted r = t.accepted r
  outgoing : ∀ r, t'.outgoing r = t.outgoing r
  reachableFrom : ∀ r, t'.specification.reachableFrom r = t.specification.reachableFrom r
  edgeCount : t'.edgeCount = t.edgeCount
  dot : t'.dot = t.dot

variable {t t' : Table} {edges : List Edge}

/-- The index is a matter of which edges there are. -/
theorem index_eq_of_perm (h : t'.specification.edges.Perm t.specification.edges) :
    t'.index = t.index :=
  EdgeIndex.eq_of_perm (t'.perm_index.trans (h.trans t.perm_index.symm))

theorem agrees_of_perm (hspec : t'.specification = t.specification.withEdges edges)
    (h : edges.Perm t.specification.edges) : t'.Agrees t := by
  have hperm : t'.specification.edges.Perm t.specification.edges := by
    rw [hspec]
    exact h
  have hindex := index_eq_of_perm hperm
  have hstates : t'.states = t.states := by
    rw [states, hspec]
    rfl
  have hisStart : t'.isStart = t.isStart := by
    funext r
    rw [isStart, hspec]
    rfl
  have hisFinal : t'.isFinal = t.isFinal := by
    funext r
    rw [isFinal, hspec]
    rfl
  have htarget : t'.target? = t.target? := by
    funext k
    rw [target?, target?, hindex]
  have haccepted : t'.accepted = t.accepted := by
    funext r
    rw [accepted, accepted, hindex]
  have houtgoing : t'.outgoing = t.outgoing := by
    funext r
    rw [outgoing, outgoing, haccepted, htarget]
  have hnode : t'.nodeLine = t.nodeLine := by
    funext r
    rw [nodeLine, nodeLine, shape, shape, hisStart, hisFinal]
  exact
    { states := hstates
      isStart := congrFun hisStart
      isFinal := congrFun hisFinal
      defaultStart := by
        rw [defaultStart, hspec]
        rfl
      warnings := by rw [warnings_eq, warnings_eq, hspec, Specification.warnings_withEdges h]
      next := fun r e => by rw [next, next, htarget]
      accepted := congrFun haccepted
      outgoing := congrFun houtgoing
      reachableFrom := fun r => by rw [hspec, Specification.reachableFrom_withEdges h]
      edgeCount := by rw [edgeCount, edgeCount, hindex]
      dot := by
        unfold dot orderedEdges
        rw [hstates, hnode, hindex] }

end Table

/-! ## Replicas -/

variable {σ α : Type}

/-- The replica with another table. -/
def Engine.withTable (t : Table) (g : Engine) : Engine := { g with table := t }

/-- The run with another table for the replica afterwards. -/
def Run.withTable (t : Table) (run : Run σ α) : Run σ α :=
  { run with engine := run.engine.withTable t }

namespace Engine

variable {t : Table} {g : Engine}

theorem start_withTable {t' : Table} (h : t'.Agrees t) (c : EngineConfig) (s : Supervisor) :
    start t' c s = (start t c s).map (withTable t') := by
  rw [start, start, h.defaultStart, h.isStart]
  split <;> rfl

theorem apply_withTable (h : t.Agrees g.table) (e : Event) (timedOut : Bool) :
    (g.withTable t).apply e timedOut =
      ((g.apply e timedOut).1, (g.apply e timedOut).2.withTable t) := by
  cases hfrozen : g.frozen with
  | true =>
    rw [apply, apply, if_pos hfrozen, if_pos (show (g.withTable t).frozen = true from hfrozen)]; rfl
  | false =>
    have hsame : (g.withTable t).table.next g.current e = g.table.next g.current e :=
      h.next g.current e
    cases hnext : g.table.next g.current e with
    | ok r =>
      rw [apply_of_next_ok hfrozen hnext,
        apply_of_next_ok (g := g.withTable t) hfrozen (hsame.trans hnext)]
      rfl
    | error fault =>
      rw [apply_of_next_error hfrozen hnext,
        apply_of_next_error (g := g.withTable t) hfrozen (hsame.trans hnext)]
      rfl

theorem stepAll_withTable (es : List Event) (h : t.Agrees g.table) :
    (g.withTable t).stepAll es = ((g.stepAll es).1, (g.stepAll es).2.withTable t) := by
  induction es generalizing g with
  | nil => rfl
  | cons e es ih =>
    have htable := (apply_turn g e false).moves.table
    rw [stepAll, stepAll, step, step, apply_withTable h]
    cases hstep : g.apply e false with
    | mk result g' =>
      rw [hstep] at htable
      cases result with
      | ok r => exact ih (htable ▸ h)
      | error fault => rfl

theorem runRound_withTable (h : t.Agrees g.table) (reg : Registry σ) (env : Environment σ) :
    (g.withTable t).runRound reg env = (g.runRound reg env).map (Run.withTable t) := by
  cases hfrozen : g.frozen with
  | true =>
    rw [runRound_of_frozen hfrozen, runRound_of_frozen (g := g.withTable t) hfrozen]
    rfl
  | false =>
    cases hbehaviour : reg.behaviour? g.current with
    | none =>
      rw [runRound_of_missing hfrozen hbehaviour,
        runRound_of_missing (g := g.withTable t) hfrozen hbehaviour]
      rfl
    | some behaviour =>
      -- The work is done without a look at the table.
      have hattempt : (g.withTable t).attempt behaviour env = g.attempt behaviour env := rfl
      rw [runRound_of_behaviour hfrozen hbehaviour,
        runRound_of_behaviour (g := g.withTable t) hfrozen hbehaviour, hattempt, Option.map_map]
      congr 1
      funext ended
      cases ended with
      | error fault => rfl
      | ok concluded =>
        dsimp only
        rw [apply_withTable h]
        rfl

theorem runFor_withTable (n : Nat) (h : t.Agrees g.table) (reg : Registry σ) (env : Environment σ) :
    (g.withTable t).runFor reg env n = (g.runFor reg env n).map (Run.withTable t) := by
  induction n generalizing g env with
  | zero => rfl
  | succ n ih =>
    rw [runFor, runFor, runRound_withTable h]
    cases hround : g.runRound reg env with
    | none => rfl
    | some run =>
      have htable := (runRound_turn hround).moves.table
      obtain ⟨result, g', env'⟩ := run
      cases result with
      | ok r => exact ih (htable ▸ h) env'
      | error fault => rfl

theorem runUntilStopped_withTable (limit : Nat) (h : t.Agrees g.table) (reg : Registry σ)
    (env : Environment σ) (executed : Nat) :
    (g.withTable t).runUntilStopped reg env executed limit =
      (g.runUntilStopped reg env executed limit).map (Run.withTable t) := by
  induction limit generalizing g env executed with
  | zero =>
    rw [runUntilStopped, runUntilStopped]
    split <;> rfl
  | succ limit ih =>
    rw [runUntilStopped, runUntilStopped, runRound_withTable h]
    split
    · rfl
    · cases hround : g.runRound reg env with
      | none => rfl
      | some run =>
        have htable := (runRound_turn hround).moves.table
        obtain ⟨result, g', env'⟩ := run
        cases result with
        | ok r => exact ih (htable ▸ h) env' _
        | error fault => rfl

theorem run_withTable (h : t.Agrees g.table) (reg : Registry σ) (env : Environment σ)
    (limit : Nat) :
    (g.withTable t).run reg env limit = (g.run reg env limit).map (Run.withTable t) := by
  have hcheck : reg.checkComplete (g.withTable t).table = reg.checkComplete g.table := by
    have hstates : (g.withTable t).table.states = g.table.states := h.states
    rw [Registry.checkComplete, Registry.checkComplete, hstates]
  rw [run, run, hcheck]
  cases reg.checkComplete g.table with
  | error fault => rfl
  | ok done => exact runUntilStopped_withTable limit h reg env 0

theorem serve_withTable (h : t.Agrees g.table) (env : Environment σ) (request : Request σ) :
    (g.withTable t).serve env request = (g.serve env request).map (Run.withTable t) := by
  cases request with
  | step e =>
    rw [serve, serve, step, step, apply_withTable h]
    rfl
  | stepAll es =>
    rw [serve, serve, stepAll_withTable es h]
    rfl
  | runRound reg =>
    rw [serve, serve, runRound_withTable h, Option.map_map, Option.map_map]
    rfl
  | runFor n reg =>
    rw [serve, serve, runFor_withTable n h, Option.map_map, Option.map_map]
    rfl
  | run limit reg =>
    rw [serve, serve, run_withTable h, Option.map_map, Option.map_map]
    rfl

/-- A replica with a table that agrees with its own answers alike, and differs in the table only. -/
theorem serveAll_withTable (requests : List (Request σ)) (h : t.Agrees g.table)
    (env : Environment σ) :
    (g.withTable t).serveAll env requests =
      (g.serveAll env requests).map fun ended => (ended.1, ended.2.1.withTable t, ended.2.2) := by
  induction requests generalizing g env with
  | nil => rfl
  | cons request requests ih =>
    rw [serveAll, serveAll, serve_withTable h]
    cases hserve : g.serve env request with
    | none => rfl
    | some run =>
      have htable := (Call.moves (perform_call hserve)).table
      rw [Option.map_some, Option.bind_some, Option.bind_some]
      have hrest := ih (g := run.engine) (htable ▸ h) run.environment
      change ((run.engine.withTable t).serveAll run.environment requests).map _ = _
      rw [hrest, Option.map_map, Option.map_map]
      rfl

end Engine

/-! ## Listing in another order -/

/-- It does not matter in which order the edges are listed.  Validation accepts all orders with the
same warnings, or none.  The tables agree, and replicas that are set up alike with them start alike,
answer every request alike, and differ in their tables only. -/
theorem Table.load_withEdges {s : Specification} {edges : List Edge} (h : edges.Perm s.edges) :
    (∀ warnings, (s.withEdges edges).validate = .ok warnings ↔ s.validate = .ok warnings) ∧
      ∀ t, load s = .ok t → ∃ t', load (s.withEdges edges) = .ok t' ∧ t'.Agrees t ∧
        ∀ (c : EngineConfig) (supervisor : Supervisor),
          Engine.start t' c supervisor = (Engine.start t c supervisor).map (Engine.withTable t') ∧
            ∀ g, Engine.start t c supervisor = .ok g →
              ∀ {σ : Type} (env : Environment σ) (requests : List (Request σ)),
                (g.withTable t').serveAll env requests =
                  (g.serveAll env requests).map fun ended =>
                    (ended.1, ended.2.1.withTable t', ended.2.2) := by
  refine ⟨fun warnings => Specification.validate_withEdges_iff h, fun t hload => ?_⟩
  cases specification_of_load hload
  have hvalid := (Specification.validate_withEdges_iff h).mpr t.valid
  let t' : Table :=
    { specification := t.specification.withEdges edges, warnings := t.warnings, valid := hvalid }
  have hagrees : t'.Agrees t := agrees_of_perm rfl h
  refine ⟨t', t'.load_specification, hagrees,
    fun c supervisor => ⟨Engine.start_withTable hagrees c supervisor, ?_⟩⟩
  intro g hstart σ env requests
  have htable : g.table = t := (Engine.start_setUp hstart).table
  exact Engine.serveAll_withTable requests (htable ▸ hagrees) env

namespace Engine

/-- A replica whose file lists the edges of a pulling of items backwards answers as one whose file
does not. -/
theorem waits_backwards :
    waits.specification.edges.reverse ≠ waits.specification.edges ∧
      ∃ t, Table.load (waits.specification.withEdges waits.specification.edges.reverse) = .ok t ∧
        t.Agrees waits ∧
        ∃ g g₁, start t .standard .standard = .ok g ∧
          g.serveAll idle [.step .noMajority, .step .done, .step .wait] =
            some ([.ok (.round .pullMemes), .ok (.round .resetAndPause),
              .error (.protocolViolation .resetAndPause .wait)], g₁, idle) ∧
          g₁.table = t ∧ g₁.current = .resetAndPause ∧ g₁.frozen = true := by
  have hreversed : waits.specification.edges.reverse.Perm waits.specification.edges :=
    List.reverse_perm _
  obtain ⟨t, hload, hagrees, hreplicas⟩ :=
    (Table.load_withEdges hreversed).2 waits waits.load_specification
  obtain ⟨hstart, hserve⟩ := hreplicas .standard .standard
  exact ⟨by decide, t, hload, hagrees, _, _, hstart, hserve _ rfl idle _, rfl, rfl, rfl⟩

end Engine

end RoundWorkflow
