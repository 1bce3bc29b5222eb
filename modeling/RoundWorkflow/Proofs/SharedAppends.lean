import Mathlib.Algebra.BigOperators.Group.Finset.Piecewise
import Mathlib.Algebra.Order.BigOperators.Group.Finset
import RoundWorkflow.Proofs.StoreCalls

/-!
# Appends to a shared store

Any number of holders may share a store and append to one list in it.  An append is not a single
step.  It asks for the lock of the store until it has it, it looks the list up and begins it where
there is none, it stores the longer list, and it gives the lock back and returns.  Between any two
of these the other holders may have their turns.

The lock itself is a parameter (`Lock`).  What is relied on is that one holder has it at a time
(`Lock.Exclusive`), and that those who wait for it are served in the order in which they have asked
(`Lock.Fair`).

`Sharing.turn` is one turn of a holder.  What the lock is worth is that in every state the appends
that have returned were made one after the other, and that only the owner of the lock has brought
one more to some stage on top of them (`Sharing.Serial`).  Every turn keeps it so
(`Sharing.Serial.turn`).  In particular no holder looks up the list while another is about to store
a longer one, which would lose that append.

A turn that is not spent waiting brings an append on, and unless all are made there is a holder that
has such a turn (`Sharing.exists_ready`).  So all appends are made if no holder is left without
turns for good (`Sharing.exists_finished`).  The main statement is `Sharing.appends_exact`.
-/

namespace RoundWorkflow

namespace Store

variable {s s' : Store} {key : String} {vs : List Json}

/-- Stores a value that was found at a key with one more value in it, if it is a list. -/
def put (s : Store) (key : String) (held value : Json) : Except Error Nat × Store :=
  match held with
  | .array items => (.ok (items.length + 1), s.write key (.array (items ++ [value])))
  | j => (.error (.store (.notAList key j.kindText)), s)

/-- To push is to find the list and to store it. -/
theorem push_eq_put (s : Store) (key : String) (v : Json) :
    s.push key v = (s.entry key (.array [])).2.put key (s.entry key (.array [])).1 v := rfl

/-- A store has become another one by appends to the list at a key. -/
structure Appended (s : Store) (key : String) (vs : List Json) (s' : Store) : Prop where
  list : s'.read key = if vs = [] then s.read key else some (.array (s.listAt key ++ vs))
  others : ∀ key' ≠ key, s'.read key' = s.read key'
  version : s'.version = s.version + vs.length

theorem Appended.refl (s : Store) (key : String) : s.Appended key [] s := ⟨rfl, fun _ _ => rfl, rfl⟩

theorem Appended.listAt (h : s.Appended key vs s') : s'.listAt key = s.listAt key ++ vs := by
  rw [Store.listAt, h.list]
  by_cases hvs : vs = []
  · rw [if_pos hvs, hvs, List.append_nil]
    rfl
  · rw [if_neg hvs]

theorem Appended.holdsList (h : s.Appended key vs s') (hs : s.HoldsList key) :
    s'.HoldsList key := by
  intro j hj
  rw [h.list] at hj
  split at hj
  · exact hs j hj
  · exact ⟨_, (Option.some.inj hj).symm⟩

theorem Appended.extend (h : s.Appended key vs s') (v : Json) :
    s.Appended key (vs ++ [v]) (s'.extend key v) where
  list := by
    have hne : vs ++ [v] ≠ [] := List.append_ne_nil_of_right_ne_nil vs (List.cons_ne_nil v [])
    rw [Store.extend, read_write, if_pos rfl, h.listAt, if_neg hne, List.append_assoc]
  others key' hkey' := by
    rw [Store.extend, read_write, if_neg hkey', h.others key' hkey']
  version := by
    rw [Store.extend, write, h.version, List.length_append, List.length_singleton, Nat.add_assoc]

end Store

/-! ## Locks -/

/-- A lock, as those see it who ask for it. -/
structure Lock (ι : Type) where
  /-- What the lock keeps track of. -/
  State : Type
  /-- The lock before anyone has asked for it. -/
  fresh : State
  /-- A holder asks for the lock, and is told whether it has it now. -/
  ask : State → ι → Bool × State
  /-- A holder gives the lock back. -/
  release : State → ι → State

namespace Lock

variable {ι : Type}

/-- One holder has the lock at a time: whoever was told so last, until it gives the lock back. -/
structure Exclusive (L : Lock ι) (owner : L.State → Option ι) : Prop where
  fresh : owner L.fresh = none
  granted {k : L.State} {i : ι} : (L.ask k i).1 = true → owner k = none ∧
    owner (L.ask k i).2 = some i
  refused {k : L.State} {i : ι} : (L.ask k i).1 = false → owner (L.ask k i).2 = owner k
  released {k : L.State} {i : ι} : owner k = some i → owner (L.release k i) = none

variable [DecidableEq ι]

/-- Holders that are refused stand in line, and the first one is served as soon as the lock is
free. -/
structure Fair (L : Lock ι) (owner : L.State → Option ι) (line : L.State → List ι) : Prop where
  fresh : line L.fresh = []
  served {k : L.State} {i : ι} : owner k = none → (∀ j ∈ (line k).head?, j = i) →
    (L.ask k i).1 = true
  granted {k : L.State} {i : ι} : (L.ask k i).1 = true →
    line (L.ask k i).2 = (line k).filter fun j => j ≠ i
  refused {k : L.State} {i : ι} :
    (L.ask k i).1 = false → line (L.ask k i).2 = if i ∈ line k then line k else line k ++ [i]
  released {k : L.State} {i : ι} : line (L.release k i) = line k

/-- The lock that keeps its owner and the line. -/
def inLine (ι : Type) [DecidableEq ι] : Lock ι where
  State := Option ι × List ι
  fresh := (none, [])
  ask k i :=
    if k.1 = none ∧ ∀ j ∈ k.2.head?, j = i then (true, some i, k.2.filter fun j => j ≠ i)
    else (false, k.1, if i ∈ k.2 then k.2 else k.2 ++ [i])
  release k _ := (none, k.2)

variable {k : (inLine ι).State} {i : ι}

theorem inLine_granted (h : ((inLine ι).ask k i).1 = true) :
    k.1 = none ∧ (inLine ι).ask k i = (true, some i, k.2.filter fun j => j ≠ i) := by
  dsimp only [inLine] at h ⊢
  split at h
  · rename_i hserved
    exact ⟨hserved.1, if_pos hserved⟩
  · cases h

theorem inLine_refused (h : ((inLine ι).ask k i).1 = false) :
    (inLine ι).ask k i = (false, k.1, if i ∈ k.2 then k.2 else k.2 ++ [i]) := by
  dsimp only [inLine] at h ⊢
  split at h
  · cases h
  · exact if_neg ‹_›

theorem inLine_exclusive : (inLine ι).Exclusive Prod.fst where
  fresh := rfl
  granted h := ⟨(inLine_granted h).1, by rw [(inLine_granted h).2]⟩
  refused h := by rw [inLine_refused h]
  released _ := rfl

theorem inLine_fair : (inLine ι).Fair Prod.fst Prod.snd where
  fresh := rfl
  served hfree hfirst := congrArg Prod.fst (if_pos ⟨hfree, hfirst⟩)
  granted h := by rw [(inLine_granted h).2]
  refused h := by rw [inLine_refused h]
  released := rfl

end Lock

/-! ## Turns -/

/-- How far an append has come whose holder was given the lock. -/
inductive Stage where
  | entered
  /-- The value at the key is known. -/
  | found (held : Json)
  /-- The longer list is stored. -/
  | stored (reply : Except Error Nat)

/-- How many turns an append has ahead of it. -/
def Stage.ahead : Stage → Nat
  | .entered => 3
  | .found _ => 2
  | .stored _ => 1

/-- An append that has returned. -/
structure Returned (ι : Type) where
  /-- The holder. -/
  holder : ι
  /-- The value that it has appended. -/
  value : Json
  /-- What it was told. -/
  reply : Except Error Nat

/-- A store that is shared under a lock. -/
structure Sharing {ι : Type} (L : Lock ι) where
  /-- The store. -/
  store : Store
  /-- The lock. -/
  lock : L.State
  /-- The appends whose holders were given the lock, and how far they have come. -/
  doing : ι → Option (Json × Stage)
  /-- The values that the holders have yet to append. -/
  left : ι → List Json
  /-- The appends that have returned, in turn. -/
  log : List (Returned ι)

namespace Sharing

variable {ι : Type} [DecidableEq ι] {L : Lock ι}

omit [DecidableEq ι] in
/-- The holders are about to append. -/
def start (L : Lock ι) (s : Store) (calls : ι → List Json) : Sharing L :=
  ⟨s, L.fresh, fun _ => none, calls, []⟩

/-- A holder that was given the lock goes on with its append. -/
def advance (key : String) (s : Sharing L) (i : ι) (v : Json) : Stage → Sharing L
  | .entered =>
    let (held, store) := s.store.entry key (.array [])
    { s with store := store, doing := Function.update s.doing i (some (v, .found held)) }
  | .found held =>
    let (reply, store) := s.store.put key held v
    { s with store := store, doing := Function.update s.doing i (some (v, .stored reply)) }
  | .stored reply =>
    { s with
      lock := L.release s.lock i
      doing := Function.update s.doing i none
      log := s.log ++ [⟨i, v, reply⟩] }

/-- A holder that is given the lock begins an append, and has others left. -/
def enter (s : Sharing L) (i : ι) (v : Json) (others : List Json) : Sharing L :=
  { s with
    lock := (L.ask s.lock i).2
    doing := Function.update s.doing i (some (v, .entered))
    left := Function.update s.left i others }

/-- A holder has a turn. -/
def turn (key : String) (s : Sharing L) (i : ι) : Sharing L :=
  match s.doing i with
  | some (v, stage) => s.advance key i v stage
  | none =>
    match s.left i with
    | [] => s
    | v :: vs =>
      match (L.ask s.lock i).1 with
      | true => s.enter i v vs
      | false => { s with lock := (L.ask s.lock i).2 }

/-- What a turn of a holder comes to. -/
inductive Turned (key : String) (s : Sharing L) (i : ι) : Sharing L → Prop where
  | idle : s.doing i = none → s.left i = [] → Turned key s i s
  | refused {v : Json} {vs : List Json} : s.doing i = none → s.left i = v :: vs →
    (L.ask s.lock i).1 = false →
    Turned key s i { s with lock := (L.ask s.lock i).2 }
  | granted {v : Json} {vs : List Json} : s.doing i = none → s.left i = v :: vs →
    (L.ask s.lock i).1 = true →
    Turned key s i (s.enter i v vs)
  | advanced {v : Json} {stage : Stage} : s.doing i = some (v, stage) →
      Turned key s i (s.advance key i v stage)

theorem turned (key : String) (s : Sharing L) (i : ι) : Turned key s i (s.turn key i) := by
  rw [turn]
  cases hdoing : s.doing i with
  | some p => exact .advanced hdoing
  | none =>
    cases hleft : s.left i with
    | nil => exact .idle hdoing hleft
    | cons v vs =>
      cases hask : (L.ask s.lock i).1 with
      | false => exact .refused hdoing hleft hask
      | true => exact .granted hdoing hleft hask

/-- Holders have turns, one after the other. -/
def run (key : String) (s : Sharing L) (turns : List ι) : Sharing L := turns.foldl (turn key) s

/-- No holder has anything left to append, and none is about to. -/
def Finished (s : Sharing L) : Prop := ∀ i, s.doing i = none ∧ s.left i = []

/-- The values of a holder among appends that have returned. -/
def valuesOf (i : ι) (log : List (Returned ι)) : List Json :=
  (log.filter fun e => e.holder = i).map Returned.value

theorem valuesOf_append (i : ι) (log log' : List (Returned ι)) :
    valuesOf i (log ++ log') = valuesOf i log ++ valuesOf i log' := by
  rw [valuesOf, List.filter_append, List.map_append]
  rfl

theorem valuesOf_singleton (i : ι) (e : Returned ι) :
    valuesOf i [e] = if e.holder = i then [e.value] else [] := by
  rw [valuesOf, List.filter_singleton]
  by_cases h : e.holder = i <;> simp [h]

/-! ## The appends are made one after the other -/

/-- What a store is like when an append has come to some stage on top of what is settled. -/
inductive Stands (key : String) (settled : Store) : Option (Json × Stage) → Store → Prop where
  | free : Stands key settled none settled
  | entered {v : Json} : Stands key settled (some (v, .entered)) settled
  | found {v : Json} :
    Stands key settled (some (v, .found (settled.entry key (.array [])).1))
    (settled.entry key (.array [])).2
  | stored {v : Json} : Stands key settled (some (v, .stored (settled.push key v).1))
      (settled.push key v).2

/-- A holder is about to append exactly if it has the lock. -/
def Guarded (owner : Option ι) (doing : ι → Option (Json × Stage)) : Prop :=
  ∀ i, (doing i).isSome = true ↔ owner = some i

/-- The appends that have returned were made in turn, on the store that there was before all
turns. -/
structure Serial (owner : L.State → Option ι) (key : String) (s₀ : Store) (calls : ι → List Json)
    (s : Sharing L) :
    Prop where
  guarded : Guarded (owner s.lock) s.doing
  /-- Each append was told the length that it made. -/
  replies : s.log.map Returned.reply =
    (List.range' ((s₀.listAt key).length + 1) s.log.length).map .ok
  /-- Every holder has appended the first of its values, and has the others left. -/
  orders : ∀ i, valuesOf i s.log ++ (s.doing i).toList.map Prod.fst ++ s.left i = calls i
  /-- The owner of the lock may have brought one more append to some stage. -/
  settled : ∃ settled, s₀.Appended key (s.log.map Returned.value) settled ∧
    Stands key settled ((owner s.lock).bind s.doing) s.store

variable {owner : L.State → Option ι} {key : String} {s₀ : Store} {calls : ι → List Json}
  {s : Sharing L} {i j : ι} {v : Json} {vs : List Json} {stage : Stage}

/-- A holder that has the lock and begins, goes on, or returns, leaves the others as they are. -/
theorem Guarded.update {o o' : Option ι} {doing : ι → Option (Json × Stage)} (h : Guarded o doing)
    (ho : ∀ j ∈ o, j = i) (ho' : ∀ j ∈ o', j = i) {stage : Option (Json × Stage)}
    (hstage : stage.isSome = o'.isSome) :
    Guarded o' (Function.update doing i stage) := by
  intro j
  by_cases hij : j = i
  · subst hij
    rw [Function.update_self, hstage, Option.isSome_iff_exists]
    exact ⟨fun ⟨k, hk⟩ => ho' k hk ▸ hk, fun hj => ⟨j, hj⟩⟩
  · rw [Function.update_of_ne hij, h j]
    exact iff_of_false (fun hj => hij (ho j hj)) fun hj => hij (ho' j hj)

omit [DecidableEq ι] in
/-- If no holder is about to append, the lock is free. -/
theorem Guarded.free {o : Option ι} {doing : ι → Option (Json × Stage)} (h : Guarded o doing)
    (hnone : ∀ i, doing i = none) : o = none := by
  refine Option.eq_none_iff_forall_ne_some.mpr fun i hi => ?_
  have hdoing := (h i).mpr hi
  rw [hnone i] at hdoing
  cases hdoing

theorem serial_start (hexclusive : L.Exclusive owner) (key : String) (s : Store)
    (calls : ι → List Json) :
    Serial owner key s calls (start L s calls) where
  guarded i := by
    rw [start, hexclusive.fresh]
    exact iff_of_false Bool.false_ne_true nofun
  replies := rfl
  orders _ := rfl
  settled := by
    refine ⟨s, .refl s key, ?_⟩
    rw [start, hexclusive.fresh]
    exact .free

/-- A holder that is given the lock has it for the first of its values. -/
theorem Serial.enter (hexclusive : L.Exclusive owner) (h : Serial owner key s₀ calls s)
    (hdoing : s.doing i = none) (hleft : s.left i = v :: vs) (hask : (L.ask s.lock i).1 = true) :
    Serial owner key s₀ calls (s.enter i v vs) := by
  obtain ⟨hfree, howner⟩ := hexclusive.granted hask
  obtain ⟨settled, happended, hstands⟩ := h.settled
  rw [hfree] at hstands
  cases hstands with
  | free =>
    refine
      { guarded := ?_, replies := h.replies, orders := fun j => ?_,
        settled := ⟨_, happended, ?_⟩ }
    · dsimp only [Sharing.enter]
      exact h.guarded.update (by simp [hfree]) (by simp [howner, eq_comm]) (by rw [howner]; rfl)
    · dsimp only [Sharing.enter]
      have horders := h.orders j
      by_cases hij : j = i
      · subst hij
        rw [hdoing, hleft] at horders
        rw [Function.update_self, Function.update_self, ← horders]
        simp
      · rw [Function.update_of_ne hij, Function.update_of_ne hij]
        exact horders
    · dsimp only [Sharing.enter]
      rw [howner, Option.bind_some, Function.update_self]
      exact .entered

/-- The owner of the lock goes on with its append, on top of those that have returned, and returns
as the last. -/
theorem Serial.advance (hexclusive : L.Exclusive owner) (hs₀ : s₀.HoldsList key)
    (h : Serial owner key s₀ calls s) (hdoing : s.doing i = some (v, stage)) :
    Serial owner key s₀ calls (s.advance key i v stage) := by
  have howner : owner s.lock = some i := (h.guarded i).mp (by rw [hdoing]; rfl)
  have hguarded : ∀ stage',
      Guarded (owner s.lock) (Function.update s.doing i (some (v, stage'))) := fun stage' =>
    h.guarded.update (by simp [howner, eq_comm]) (by simp [howner, eq_comm]) (by rw [howner]; rfl)
  have horders : ∀ stage' j,
      valuesOf j s.log ++ (Function.update s.doing i (some (v, stage')) j).toList.map Prod.fst ++
      s.left j = calls j := by
    intro stage' j
    rw [← h.orders j]
    by_cases hij : j = i
    · subst hij
      rw [Function.update_self, hdoing]
      rfl
    · rw [Function.update_of_ne hij]
  obtain ⟨settled, happended, hstands⟩ := h.settled
  rw [howner, Option.bind_some, hdoing] at hstands
  generalize hstore : s.store = store at hstands
  cases hstands with
  | entered =>
    refine
      { guarded := hguarded _, replies := h.replies, orders := horders _,
        settled := ⟨_, happended, ?_⟩ }
    dsimp only [Sharing.advance]
    rw [howner, Option.bind_some, Function.update_self, hstore]
    exact .found
  | found =>
    refine
      { guarded := hguarded _, replies := h.replies, orders := horders _,
        settled := ⟨_, happended, ?_⟩ }
    dsimp only [Sharing.advance]
    rw [howner, Option.bind_some, Function.update_self, hstore, ← Store.push_eq_put]
    exact .stored
  | stored =>
    have hreleased := hexclusive.released howner
    have hfree : Guarded (owner (L.release s.lock i)) (Function.update s.doing i none) :=
      h.guarded.update (by simp [howner, eq_comm]) (by simp [hreleased]) (by rw [hreleased]; rfl)
    have hlength : (settled.listAt key).length + 1 = (s₀.listAt key).length + 1 + s.log.length := by
      rw [happended.listAt, List.length_append, List.length_map, Nat.add_right_comm]
    have hpush := Store.push_of_holdsList (v := v) (happended.holdsList hs₀)
    rw [hpush] at hstore ⊢
    refine
      { guarded := hfree, replies := ?_, orders := fun j => ?_,
        settled := ⟨settled.extend key v, ?_, ?_⟩ }
    · dsimp only [Sharing.advance]
      rw [List.map_append, h.replies, List.length_append, List.length_singleton,
        List.range'_1_concat, List.map_append, ← hlength]
      rfl
    · dsimp only [Sharing.advance]
      rw [valuesOf_append, valuesOf_singleton, ← h.orders j]
      by_cases hij : j = i
      · subst hij
        rw [if_pos rfl, Function.update_self, hdoing]
        simp
      · rw [if_neg (Ne.symm hij), Function.update_of_ne hij, List.append_nil]
    · dsimp only [Sharing.advance]
      rw [List.map_append]
      exact happended.extend v
    · dsimp only [Sharing.advance]
      rw [hreleased, Option.bind_none, hstore]
      exact .free

/-- Every turn leaves the appends one after the other. -/
theorem Serial.turn (hexclusive : L.Exclusive owner) (hs₀ : s₀.HoldsList key)
    (h : Serial owner key s₀ calls s) (i : ι) : Serial owner key s₀ calls (s.turn key i) := by
  have hturned := turned key s i
  generalize s.turn key i = s' at hturned
  cases hturned with
  | idle => exact h
  | refused _ _ hask =>
    have howner := hexclusive.refused hask
    obtain ⟨settled, happended, hstands⟩ := h.settled
    exact
      { guarded := howner ▸ h.guarded
        replies := h.replies
        orders := h.orders
        settled := ⟨settled, happended, howner ▸ hstands⟩ }
  | granted hdoing hleft hask => exact h.enter hexclusive hdoing hleft hask
  | advanced hdoing => exact h.advance hexclusive hs₀ hdoing

theorem Serial.run (hexclusive : L.Exclusive owner) (hs₀ : s₀.HoldsList key)
    (h : Serial owner key s₀ calls s)
    (turns : List ι) : Serial owner key s₀ calls (s.run key turns) := by
  induction turns generalizing s with
  | nil => exact h
  | cons i turns ih => exact ih (h.turn hexclusive hs₀ i)

/-- In the end the store has the values of the log, and every holder has appended all of its own. -/
theorem Serial.finished (h : Serial owner key s₀ calls s) (hfinished : s.Finished) :
    (∀ i, valuesOf i s.log = calls i) ∧ s₀.Appended key (s.log.map Returned.value) s.store := by
  have howner : owner s.lock = none := h.guarded.free fun i => (hfinished i).1
  obtain ⟨settled, happended, hstands⟩ := h.settled
  rw [howner, Option.bind_none] at hstands
  cases hstands with
  | free =>
    refine ⟨fun i => ?_, happended⟩
    have horders := h.orders i
    rw [(hfinished i).1, (hfinished i).2, Option.toList_none, List.map_nil, List.append_nil,
      List.append_nil] at horders
    exact horders

/-- Appends are counted holder by holder. -/
theorem length_eq_sum [Fintype ι] (log : List (Returned ι)) :
    log.length = ∑ i, (valuesOf i log).length := by
  induction log with
  | nil => simp [valuesOf]
  | cons e log ih =>
    have hsplit : ∀ i, (valuesOf i (e :: log)).length =
        (if e.holder = i then 1 else 0) + (valuesOf i log).length := by
      intro i
      rw [← List.singleton_append, valuesOf_append, valuesOf_singleton, List.length_append]
      split <;> rfl
    simp only [hsplit, Finset.sum_add_distrib, Finset.sum_ite_eq, Finset.mem_univ, if_true,
      List.length_cons, ih]
    exact Nat.add_comm _ _

/-! ## All appends are made -/

/-- How many turns a holder has ahead of it, those apart that it spends waiting. -/
def ahead (s : Sharing L) (i : ι) : Nat :=
  4 * (s.left i).length + ((s.doing i).map fun p => p.2.ahead).getD 0

/-- How many turns all holders have ahead of them. -/
def work [Fintype ι] (s : Sharing L) : Nat := ∑ i, s.ahead i

/-- A turn that brings an append of one holder on leaves less work. -/
theorem work_lt [Fintype ι] {s' : Sharing L} (hi : s'.ahead i < s.ahead i)
    (hothers : ∀ j ≠ i, s'.ahead j = s.ahead j) :
    s'.work < s.work := by
  refine Finset.sum_lt_sum (fun j _ => ?_) ⟨i, Finset.mem_univ i, hi⟩
  by_cases hij : j = i
  · exact hij ▸ hi.le
  · exact (hothers j hij).le

theorem work_advance [Fintype ι] (key : String) (h : s.doing i = some (v, stage)) :
    (s.advance key i v stage).work < s.work := by
  refine work_lt (i := i) ?_ fun j hij => ?_
  · rw [ahead, ahead, h]
    cases stage <;> simp [advance, Stage.ahead]
  · rw [ahead, ahead]
    cases stage <;> simp [advance, hij]

theorem work_enter [Fintype ι] (hdoing : s.doing i = none) (hleft : s.left i = v :: vs) :
    (s.enter i v vs).work < s.work := by
  refine work_lt (i := i) ?_ fun j hij => ?_
  · rw [ahead, ahead, hdoing, hleft]
    simp [enter, Stage.ahead]
    omega
  · rw [ahead, ahead]
    simp [enter, hij]

/-- Those who wait in line have something to append. -/
def Lined (line : L.State → List ι) (s : Sharing L) : Prop := ∀ i ∈ line s.lock, s.left i ≠ []

/-- A holder will not spend its next turn waiting: it has the lock, or it is given the lock when it
asks. -/
inductive Ready (owner : L.State → Option ι) (line : L.State → List ι) (s : Sharing L) (i : ι) :
    Prop where
  | inside : s.doing i ≠ none → Ready owner line s i
  | first : s.left i ≠ [] → owner s.lock = none → (∀ j ∈ (line s.lock).head?, j = i) →
      Ready owner line s i

variable {line : L.State → List ι}

theorem lined_start (hfair : L.Fair owner line) (s : Store) (calls : ι → List Json) :
    (start L s calls).Lined line := by
  intro i hi
  rw [start, hfair.fresh] at hi
  cases hi

theorem Lined.turn (hfair : L.Fair owner line) (h : s.Lined line) (key : String) (i : ι) :
    (s.turn key i).Lined line := by
  have hturned := turned key s i
  generalize s.turn key i = s' at hturned
  intro j hj
  cases hturned with
  | idle => exact h j hj
  | refused _ hleft hask =>
    dsimp only at hj ⊢
    rw [hfair.refused hask] at hj
    by_cases hij : j = i
    · rw [hij, hleft]
      exact List.cons_ne_nil _ _
    · refine h j ?_
      split at hj
      · exact hj
      · exact (List.mem_append.mp hj).resolve_right fun hj => hij (List.mem_singleton.mp hj)
  | granted _ _ hask =>
    dsimp only [enter] at hj ⊢
    rw [hfair.granted hask, List.mem_filter, decide_eq_true_eq] at hj
    rw [Function.update_of_ne hj.2]
    exact h j hj.1
  | @advanced v stage _ =>
    cases stage with
    | entered | found => exact h j hj
    | stored =>
      refine h j ?_
      rw [← hfair.released]
      exact hj

/-- A holder that is ready brings an append on in its turn. -/
theorem Ready.work_turn [Fintype ι] (hfair : L.Fair owner line) (h : s.Ready owner line i)
    (key : String) :
    (s.turn key i).work < s.work := by
  have hturned := turned key s i
  generalize s.turn key i = s' at hturned
  cases hturned with
  | idle hdoing hnone =>
    cases h with
    | inside hinside => exact absurd hdoing hinside
    | first hleft _ _ => exact absurd hnone hleft
  | refused hdoing _ hask =>
    cases h with
    | inside hinside => exact absurd hdoing hinside
    | first _ hfree hfirst => exact absurd (hfair.served hfree hfirst) (Bool.eq_false_iff.mp hask)
  | granted hdoing hleft _ => exact work_enter hdoing hleft
  | advanced hdoing => exact work_advance key hdoing

/-- A holder that is ready stays so until an append is brought on. -/
theorem Ready.stays [Fintype ι] (hexclusive : L.Exclusive owner) (hfair : L.Fair owner line)
    (h : s.Ready owner line i) (key : String) (j : ι) :
    (s.turn key j).Ready owner line i ∨ (s.turn key j).work < s.work := by
  have hturned := turned key s j
  generalize s.turn key j = s' at hturned
  cases hturned with
  | idle => exact .inl h
  | refused _ _ hask =>
    left
    cases h with
    | inside hinside => exact .inside hinside
    | first hleft hfree hfirst =>
      -- Someone is in line, or the lock would not have been refused.
      have hline : line s.lock ≠ [] := fun hnone =>
        absurd (hfair.served hfree (by simp [hnone])) (Bool.eq_false_iff.mp hask)
      refine .first hleft ((hexclusive.refused hask).trans hfree) ?_
      dsimp only
      rw [hfair.refused hask]
      split
      · exact hfirst
      · rwa [List.head?_append_of_ne_nil _ hline]
  | granted hdoing hleft _ => exact .inr (work_enter hdoing hleft)
  | advanced hdoing => exact .inr (work_advance key hdoing)

/-- Unless all appends are made, some holder is ready. -/
theorem exists_ready (h : Serial owner key s₀ calls s) (hlined : s.Lined line)
    (hnot : ¬s.Finished) :
    ∃ i, s.Ready owner line i := by
  by_cases hinside : ∃ i, s.doing i ≠ none
  · obtain ⟨i, hi⟩ := hinside
    exact ⟨i, .inside hi⟩
  · have hnone : ∀ i, s.doing i = none := by simpa using hinside
    have hfree := h.guarded.free hnone
    cases hline : line s.lock with
    | nil =>
      obtain ⟨i, hi⟩ : ∃ i, s.left i ≠ [] := by
        by_contra hleft
        have hleft : ∀ i, s.left i = [] := by simpa using hleft
        exact hnot fun i => ⟨hnone i, hleft i⟩
      exact ⟨i, .first hi hfree (by simp [hline])⟩
    | cons i is => exact ⟨i, .first (hlined i (by simp [hline])) hfree (by simp [hline])⟩

theorem Finished.turn (h : s.Finished) (key : String) (i : ι) : s.turn key i = s := by
  rw [Sharing.turn, (h i).1, (h i).2]

variable {turns : Nat → ι}

/-- What has come of a number of turns of a schedule. -/
def after (key : String) (s : Sharing L) (turns : Nat → ι) (n : Nat) : Sharing L :=
  s.run key ((List.range n).map turns)

theorem after_succ (key : String) (s : Sharing L) (turns : Nat → ι) (n : Nat) :
    s.after key turns (n + 1) = (s.after key turns n).turn key (turns n) := by
  rw [after, List.range_succ, List.map_append, run, List.foldl_append]
  rfl

theorem Lined.after (hfair : L.Fair owner line) (h : s.Lined line) (key : String) (turns : Nat → ι)
    (n : Nat) :
    (s.after key turns n).Lined line := by
  induction n with
  | zero => exact h
  | succ n ih =>
    rw [after_succ]
    exact ih.turn hfair key _

/-- There is never more work than there was. -/
theorem work_after_le [Fintype ι] {n m : Nat} (hle : n ≤ m) :
    (s.after key turns m).work ≤ (s.after key turns n).work := by
  induction m, hle using Nat.le_induction with
  | base => exact Nat.le_refl _
  | succ m _ ih =>
    rw [after_succ]
    refine Nat.le_trans ?_ ih
    have hturned := turned key (s.after key turns m) (turns m)
    generalize (s.after key turns m).turn key (turns m) = s' at hturned
    cases hturned with
    | idle | refused => exact Nat.le_refl _
    | granted hdoing hleft _ => exact (work_enter hdoing hleft).le
    | advanced hdoing => exact (work_advance key hdoing).le

/-- Until an append is brought on, a holder that is ready stays so. -/
theorem Ready.after [Fintype ι] (hexclusive : L.Exclusive owner) (hfair : L.Fair owner line)
    {n m : Nat} (h : (s.after key turns n).Ready owner line i) (hle : n ≤ m) :
    (s.after key turns m).Ready owner line i ∨
      (s.after key turns m).work < (s.after key turns n).work := by
  induction m, hle using Nat.le_induction with
  | base => exact .inl h
  | succ m hle ih =>
    rcases ih with hready | hwork
    · rw [after_succ]
      exact (hready.stays hexclusive hfair key (turns m)).imp_right
        (Nat.lt_of_lt_of_le · (work_after_le hle))
    · exact .inr (Nat.lt_of_le_of_lt (work_after_le (Nat.le_succ m)) hwork)

/-- If every holder has another turn at any time, some append is brought on as long as not all are
made. -/
theorem exists_work_lt [Fintype ι] (hexclusive : L.Exclusive owner) (hfair : L.Fair owner line)
    (hturns : ∀ i n, ∃ m ≥ n, turns m = i) {n : Nat}
    (h : Serial owner key s₀ calls (s.after key turns n))
    (hlined : (s.after key turns n).Lined line) (hnot : ¬(s.after key turns n).Finished) :
    ∃ m, (s.after key turns m).work < (s.after key turns n).work := by
  obtain ⟨i, hready⟩ := exists_ready h hlined hnot
  obtain ⟨m, hle, rfl⟩ := hturns i n
  rcases hready.after hexclusive hfair hle with hready | hwork
  · have hturn := hready.work_turn hfair key
    rw [← after_succ] at hturn
    exact ⟨m + 1, Nat.lt_of_lt_of_le hturn (work_after_le hle)⟩
  · exact ⟨m, hwork⟩

/-- If every holder has another turn at any time, all appends are made at some time, for good. -/
theorem exists_finished [Fintype ι] (hexclusive : L.Exclusive owner) (hfair : L.Fair owner line)
    (hs₀ : s₀.HoldsList key) (h : Serial owner key s₀ calls s) (hlined : s.Lined line)
    (hturns : ∀ i n, ∃ m ≥ n, turns m = i) : ∃ n, ∀ m ≥ n, (s.after key turns m).Finished := by
  obtain ⟨n, hn⟩ : ∃ n, (s.after key turns n).Finished := by
    by_contra hnever
    -- Then there would be less and less work, without an end.
    have hless : ∀ w n, (s.after key turns n).work = w → False := by
      intro w
      induction w using Nat.strong_induction_on with
      | _ w ih =>
        rintro n rfl
        obtain ⟨m, hm⟩ := exists_work_lt hexclusive hfair hturns (h.run hexclusive hs₀ _)
          (hlined.after hfair key turns n) fun hfinished => hnever ⟨n, hfinished⟩
        exact ih _ hm m rfl
    exact hless _ 0 rfl
  refine ⟨n, fun m hle => ?_⟩
  induction m, hle using Nat.le_induction with
  | base => exact hn
  | succ m _ ih =>
    rw [after_succ, ih.turn]
    exact ih

/-- Appends to a list through any number of holders are made one after the other, whatever turns the
holders have.  They are told the lengths that the list has had, each holder keeps the order of its
appends, and in the end the list has the values of all of them, merged, after those that it began
with.  That end comes if no holder is left without turns for good. -/
theorem appends_exact [Fintype ι] {s : Store} {key : String} {owner : L.State → Option ι}
    {line : L.State → List ι} (hexclusive : L.Exclusive owner) (hfair : L.Fair owner line)
    (hlist : s.HoldsList key) (calls : ι → List Json) :
    (∀ turns : List ι, ∃ g : Sharing L, g = (start L s calls).run key turns ∧
        g.log.map Returned.reply = (List.range' ((s.listAt key).length + 1) g.log.length).map .ok ∧
        (∀ i, valuesOf i g.log <+: calls i) ∧
        (g.Finished →
          (∀ i, valuesOf i g.log = calls i) ∧
          g.log.length = ∑ i, (calls i).length ∧
          (g.store.read key = if g.log = [] then s.read key else
            some (.array (s.listAt key ++ g.log.map Returned.value))) ∧
          (∀ key' ≠ key, g.store.read key' = s.read key') ∧
          g.store.version = s.version + ∑ i, (calls i).length)) ∧
      ∀ turns : Nat → ι, (∀ i n, ∃ m ≥ n, turns m = i) →
        ∃ n, ∀ m ≥ n, ((start L s calls).run key ((List.range m).map turns)).Finished := by
  have h₀ : Serial owner key s calls (start L s calls) := serial_start hexclusive key s calls
  have hserial := fun turns => h₀.run hexclusive hlist turns
  refine ⟨fun turns => ⟨_, rfl, (hserial turns).replies, fun i => ?_, fun hfinished => ?_⟩,
      fun turns hturns =>
    exists_finished hexclusive hfair hlist h₀ (lined_start hfair s calls) hturns⟩
  · rw [← (hserial turns).orders i, List.append_assoc]
    exact List.prefix_append _ _
  · obtain ⟨horders, happended⟩ := (hserial turns).finished hfinished
    have hlength : ((start L s calls).run key turns).log.length = ∑ i, (calls i).length := by
      rw [length_eq_sum]
      exact Finset.sum_congr rfl fun i _ => congrArg List.length (horders i)
    refine ⟨horders, hlength, ?_, happended.others, ?_⟩
    · rw [happended.list]
      simp only [List.map_eq_nil_iff]
    · rw [happended.version, List.length_map, hlength]

/-- One holder appends two posts and another one appends one. -/
def postCalls (i : Bool) : List Json := cond i [.nat 1, .nat 2] [.nat 3]

/-- The other holder asks for the lock while the first is about to begin the list, and the first
while the other has found it. -/
def postTurns : List Bool :=
  [true, false, true, false, true, true, false, false, true, false, false, true, true, true, true]

/-- The list is begun once, and the post of the other holder gets between those of the first. -/
theorem posts_appended :
    (Lock.inLine Bool).Exclusive Prod.fst ∧ (Lock.inLine Bool).Fair Prod.fst Prod.snd ∧
      Store.empty.HoldsList "tweets" ∧
      ∃ g : Sharing (Lock.inLine Bool), g = (start _ .empty postCalls).run "tweets" postTurns ∧
        g.Finished ∧
        g.log.map Returned.reply = [.ok 1, .ok 2, .ok 3] ∧
        g.store.read "tweets" = some (.array [.nat 1, .nat 3, .nat 2]) ∧ g.store.version = 3 ∧
        ∃ n, ∀ m ≥ n, ((start (Lock.inLine Bool) .empty postCalls).run "tweets"
          ((List.range m).map fun n => n % 2 == 0)).Finished := by
  have hlist : Store.empty.HoldsList "tweets" := fun _ h => nomatch h
  obtain ⟨hruns, hends⟩ := appends_exact Lock.inLine_exclusive Lock.inLine_fair hlist postCalls
  obtain ⟨g, rfl, hreplies, -, hend⟩ := hruns postTurns
  have hfinished : ((start (Lock.inLine Bool) .empty postCalls).run "tweets" postTurns).Finished :=
    fun i => by
    cases i <;> exact ⟨rfl, rfl⟩
  obtain ⟨-, -, hread, -, hversion⟩ := hend hfinished
  refine ⟨Lock.inLine_exclusive, Lock.inLine_fair, hlist, _, rfl, hfinished,
    hreplies, hread, hversion,
    hends (fun n => n % 2 == 0) fun i n => ?_⟩
  cases i with
  | true => exact ⟨2 * n, by omega, by simp⟩
  | false => exact ⟨2 * n + 1, by omega, by simp⟩

end Sharing

end RoundWorkflow
