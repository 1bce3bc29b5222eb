import RoundWorkflow.Proofs.ByteOrder
import RoundWorkflow.Proofs.StoreCalls

/-!
# What a store holds after any use of it

Whoever has a store may ask it anything and change it in any way, in any order.  An operation
(`Store.Operation`) is answered, with a refusal where it fails, and leaves a store behind; failing
or not, it is performed on the store that the operation before it has left.  The log of a sequence
has each operation with its reply.

From the log one can tell which changes were made (`Store.changes`): the writes and appends that
were not refused, and the updates.  A step that is no such change leaves the store as it was, and a
step that is one leaves the effect of the change (`Store.perform_store`).  So a store after a
sequence of operations is the effect of the changes in its log, in turn, and each of these works
where it is made (`Store.performAll_changes`).  What the store then holds is what a plain map would
hold after the same changes, whatever else was done in between: the main statement is
`Store.performAll_exact`.
-/

namespace RoundWorkflow

namespace Store

/-- What can be done with a store.  A value to be stored comes encoded, or with the problem of
encoding it. -/
inductive Operation where
  | read (key : String)
  /-- A value is read as a type, which says how it decodes. -/
  | readAs (key : String) (decode : Json → Except Json.Mismatch Json)
  | write (key : String) (value : Except String Json)
  | update (values : Dict Json)
  | append (key : String) (value : Except String Json)
  | contains (key : String)
  | keys
  | snapshot
  | version

/-- What comes of it. -/
inductive Reply where
  | found (value : Option Json)
  | done
  | length (n : Nat)
  | held (present : Bool)
  | keys (keys : List String)
  | snapshot (values : Json)
  | version (n : Nat)
  | refused (fault : Error)

/-- The operation only asks. -/
def Operation.asks : Operation → Bool
  | .write .. | .update _ | .append .. => false
  | _ => true

/-- Performs an operation. -/
def perform (s : Store) : Operation → Reply × Store
  | .read key => (.found (s.read key), s)
  | .readAs key decode =>
    match s.readBy key decode with
    | .ok value => (.found value, s)
    | .error fault => (.refused fault, s)
  | .write key value =>
    match encoded key value with
    | .ok v => (.done, s.write key v)
    | .error fault => (.refused fault, s)
  | .update values => (.done, s.update values)
  | .append key value =>
    match encoded key value with
    | .error fault => (.refused fault, s)
    | .ok v =>
      match s.push key v with
      | (.ok n, s') => (.length n, s')
      | (.error fault, s') => (.refused fault, s')
  | .contains key => (.held (s.contains key), s)
  | .keys => (.keys s.keys, s)
  | .snapshot => (.snapshot s.snapshot, s)
  | .version => (.version s.version, s)

/-- Performs operations one after the other, and logs each with its reply. -/
def performAll (s : Store) : List Operation → List (Operation × Reply) × Store
  | [] => ([], s)
  | o :: os =>
    let (reply, s) := s.perform o
    let (log, s) := s.performAll os
    ((o, reply) :: log, s)

/-- The change that was made, if one was. -/
def change? : Operation × Reply → Option StoreCall
  | (.write key (.ok v), .done) => some (.write key v)
  | (.update values, .done) => some (.update values)
  | (.append key (.ok v), .length _) => some (.append key v)
  | _ => none

/-- The changes that were made, in turn. -/
def changes (log : List (Operation × Reply)) : List StoreCall := log.filterMap change?

/-! ## One operation -/

variable {s s' : Store} {log : List (Operation × Reply)} {os : List Operation}

theorem perform_append_of_holdsList {key : String} {v : Json} (h : s.HoldsList key) :
    s.perform (.append key (.ok v)) = (.length ((s.listAt key).length + 1), s.extend key v) := by
  simp only [perform, encoded, Except.mapError, push_of_holdsList h]

theorem perform_append_of_not_holdsList {key : String} {v j : Json} (hread : s.read key = some j)
    (hj : ∀ items, j ≠ .array items) :
    s.perform (.append key (.ok v)) = (.refused (.store (.notAList key j.kindText)), s) := by
  simp only [perform, encoded, Except.mapError, push_of_not_holdsList hread hj]

/-- An operation leaves the effect of the change it has made, which works where it is made.  If it
has made none, it leaves the store as it was. -/
theorem perform_store (s : Store) (o : Operation) :
    match change? (o, (s.perform o).1) with
    | some c => c.Works s ∧ (s.perform o).2 = c.effect s
    | none => (s.perform o).2 = s := by
  cases o with
  | readAs key decode =>
    rw [perform]
    cases s.readBy key decode <;> rfl
  | write key value =>
    cases value with
    | ok v => exact ⟨trivial, rfl⟩
    | error problem => rfl
  | update values => exact ⟨trivial, rfl⟩
  | append key value =>
    cases value with
    | error problem => rfl
    | ok v =>
      rcases s.holdsList_or_not key with hlist | ⟨j, hread, hj⟩
      · rw [perform_append_of_holdsList hlist]
        exact ⟨hlist, (StoreCall.effect_append hlist).symm⟩
      · rw [perform_append_of_not_holdsList hread hj]
        rfl
  | read key => rfl
  | contains key => rfl
  | keys => rfl
  | snapshot => rfl
  | version => rfl

/-- What only asks, and what is refused, changes nothing. -/
theorem perform_of_asks_or_refused {o : Operation}
    (h : o.asks = true ∨ ∃ fault, (s.perform o).1 = .refused fault) : (s.perform o).2 = s := by
  have hnone : change? (o, (s.perform o).1) = none := by
    rcases h with hasks | ⟨fault, hrefused⟩
    · cases o with
      | write | update | append => cases hasks
      | _ => rfl
    · rw [hrefused]
      cases o with
      | write key value => cases value <;> rfl
      | append key value => cases value <;> rfl
      | _ => rfl
  have hstore := s.perform_store o
  rw [hnone] at hstore
  exact hstore

/-! ## Any number of them -/

theorem performAll_cons (s : Store) (o : Operation) (os : List Operation) :
    s.performAll (o :: os) =
      ((o, (s.perform o).1) :: ((s.perform o).2.performAll os).1,
        ((s.perform o).2.performAll os).2) := rfl

/-- The changes in the log all work, and the store after the operations is their effect. -/
theorem performAll_changes (s : Store) (os : List Operation) :
    StoreCall.AllWork s (changes (s.performAll os).1) ∧
      (s.performAll os).2 = StoreCall.effects (changes (s.performAll os).1) s := by
  induction os generalizing s with
  | nil => exact ⟨trivial, rfl⟩
  | cons o os ih =>
    have hstore := s.perform_store o
    obtain ⟨hwork, hafter⟩ := ih (s.perform o).2
    rw [performAll_cons, changes, List.filterMap_cons]
    cases hchange : change? (o, (s.perform o).1) with
    | none =>
      rw [hchange] at hstore
      dsimp only at hstore ⊢
      rw [hstore] at hwork hafter ⊢
      exact ⟨hwork, hafter⟩
    | some c =>
      rw [hchange] at hstore
      obtain ⟨hworks, heffect⟩ := hstore
      dsimp only
      rw [heffect] at hwork hafter ⊢
      exact ⟨⟨hworks, hwork⟩, hafter⟩

theorem length_performAll (s : Store) (os : List Operation) :
    (s.performAll os).1.length = os.length := by
  induction os generalizing s with
  | nil => rfl
  | cons o os ih => rw [performAll_cons, List.length_cons, List.length_cons, ih]

/-- A part of the log is the log of the operations in it, and what comes after it is performed on
the store that it has left. -/
theorem performAll_split {earlier later : List (Operation × Reply)} {o : Operation} {reply : Reply}
    (h : (s.performAll os).1 = earlier ++ (o, reply) :: later) :
    (s.performAll (earlier.map Prod.fst)).1 = earlier ∧
      reply = ((s.performAll (earlier.map Prod.fst)).2.perform o).1 := by
  induction earlier generalizing s os with
  | nil =>
    cases os with
    | nil => cases h
    | cons o' os =>
      rw [performAll_cons] at h
      cases h
      exact ⟨rfl, rfl⟩
  | cons entry earlier ih =>
    cases os with
    | nil => cases h
    | cons o' os =>
      rw [performAll_cons, List.cons_append] at h
      obtain ⟨hentry, hrest⟩ := List.cons.inj h
      obtain ⟨hlog, hreply⟩ := ih hrest
      subst hentry
      rw [List.map_cons, performAll_cons, hlog]
      exact ⟨rfl, hreply⟩

/-- The value a list has for a key.  Of several, the last one counts. -/
def lastListed (data : List (String × Json)) (key : String) : Option Json :=
  (data.reverse.find? fun e => e.1 = key).map Prod.snd

theorem read_ofDict_ofList (data : List (String × Json)) :
    (ofDict (.ofList data)).read = lastListed data :=
  funext fun key => Dict.get?_ofList data key

/-- A store that began with any values holds what a plain map does on which the changes of the log
are made, at the end and wherever it was read.  The value at a key is the last one that was put
there, or the one from the beginning, followed by everything that was appended to it since.  The
counter has counted the writes, the appends and the updates that were not empty; it is at most the
number of operations, so for fewer than `2 ^ 64` of them it has room in 64 bits.  What cannot be
appended to refuses, and neither this nor any other refusal leaves a trace, nor does a question or
an empty update.  The keys ascend in the order of their bytes, and they are the keys that have a
value. -/
theorem performAll_exact {data : List (String × Json)}
    (h : (ofDict (.ofList data)).performAll os = (log, s)) :
    s.read = (changes log).foldl StoreCall.on (lastListed data) ∧
      (∀ earlier key found later, log = earlier ++ (.read key, .found found) :: later →
        found = (changes earlier).foldl StoreCall.on (lastListed data) key) ∧
      (∀ key earlier c later v, changes log = earlier ++ c :: later → c.puts? key = some v →
        (∀ c' ∈ later, c'.puts? key = none) →
        StoreCall.Followed (some v) (later.filterMap (StoreCall.adds? key)) (s.read key)) ∧
      (∀ key, (∀ c ∈ changes log, c.puts? key = none) →
        StoreCall.Followed (lastListed data key) ((changes log).filterMap (StoreCall.adds? key))
        (s.read key)) ∧
      s.version =
        (changes log).countP StoreCall.isSingle + (changes log).countP StoreCall.isFilledUpdate ∧
      s.version ≤ os.length ∧
      (∀ key v j, s.read key = some j → (∀ items, j ≠ .array items) →
        s.perform (.append key (.ok v)) = (.refused (.store (.notAList key j.kindText)), s)) ∧
      (∀ o : Operation, o.asks = true ∨ (∃ fault, (s.perform o).1 = .refused fault) →
        (s.perform o).2 = s) ∧
      (∀ values : Dict Json, values.isEmpty = true → s.perform (.update values) = (.done, s)) ∧
      s.keys.Pairwise (fun a b => Text.bytes a < Text.bytes b) ∧
      (∀ key, key ∈ s.keys ↔ s.contains key = true) := by
  obtain ⟨hwork, hafter⟩ := performAll_changes (ofDict (.ofList data)) os
  rw [h] at hwork hafter
  dsimp only at hwork hafter
  have hversion : s.version =
      (changes log).countP StoreCall.isSingle + (changes log).countP StoreCall.isFilledUpdate := by
    rw [hafter, StoreCall.version_effects hwork]
    exact congrArg (· + _) (Nat.zero_add _)
  refine ⟨?_, fun earlier key found later hlog => ?_,
    fun key earlier c later v hchanges hput hlater => ?_,
    fun key hputs => ?_, ?_, ?_, fun key v j hread hj => perform_append_of_not_holdsList hread hj,
    fun o ho => perform_of_asks_or_refused ho, fun values hempty => ?_, ?_, fun key =>
      Dict.mem_keys_iff⟩
  · rw [hafter, StoreCall.read_effects, read_ofDict_ofList]
  · have hsplit := congrArg Prod.fst h
    rw [hlog] at hsplit
    obtain ⟨hearlier, hreply⟩ := performAll_split hsplit
    have hread := (performAll_changes (ofDict (.ofList data)) (earlier.map Prod.fst)).2
    rw [hearlier] at hread
    cases hreply
    rw [hread, StoreCall.read_effects, read_ofDict_ofList]
  · rw [hafter, hchanges]
    rw [hchanges] at hwork
    exact StoreCall.followed_of_puts hwork hput hlater
  · rw [hafter, ← read_ofDict_ofList]
    exact StoreCall.followed_of_not_puts hwork hputs
  · exact hversion
  · have hlength : log.length = os.length := by
      rw [← length_performAll (ofDict (.ofList data)) os, h]
    calc s.version
      _ = (changes log).countP StoreCall.isSingle +
          (changes log).countP StoreCall.isFilledUpdate := hversion
      _ ≤ (changes log).length := StoreCall.counted_le (changes log)
      _ ≤ log.length := List.length_filterMap_le change? log
      _ = os.length := hlength
  · rw [perform, update, if_pos hempty]
  · exact s.values.ascending.imp fun hlt => Text.lt_iff_bytes_lt.mp hlt

/-- A list that is begun, added to and started anew; a value that is no list; and two updates, one
of them empty. -/
def busy : List Operation :=
  [.append "posts" (.ok (.nat 1)), .append "posts" (.ok (.nat 2)),
    .append "keeper" (.ok (.nat 3)), .read "posts",
    .write "posts" (.ok (.array [])), .update (.ofList [("b", .null), ("a", .null)]), .update ∅,
    .write "keeper" (.error "no encoding"), .append "posts" (.ok (.nat 4)), .version]

/-- The value that is no list keeps the last value listed for it, and the list has what was appended
since it was started anew. -/
theorem busy_performed :
    ∃ log s,
      (ofDict (.ofList [("keeper", .null), ("keeper", .bool true)])).performAll busy = (log, s) ∧
      s.version = 5 ∧ s.read "posts" = some (.array [.nat 4]) ∧
      s.read "keeper" = some (.bool true) ∧
      s.perform (.append "keeper" (.ok .null)) =
        (.refused (.store (.notAList "keeper" "a boolean")), s) ∧
      s.keys.Pairwise (fun a b => Text.bytes a < Text.bytes b) := by
  obtain ⟨log, s, hrun⟩ :
      ∃ log s, (ofDict (.ofList [("keeper", .null), ("keeper", .bool true)])).performAll busy =
        (log, s) := ⟨_, _, rfl⟩
  have hchanges : changes log =
      [.append "posts" (.nat 1), .append "posts" (.nat 2)] ++ .write "posts" (.array []) ::
        [.update (.ofList [("b", .null), ("a", .null)]), .update ∅, .append "posts" (.nat 4)] := by
    have hlog : log = ((ofDict (.ofList [("keeper", .null), ("keeper", .bool true)])).performAll
        busy).1 := by rw [hrun]
    rw [hlog]
    rfl
  obtain ⟨-, -, hput, hnotPut, hversion, -, happend, -, -, hkeys, -⟩ := performAll_exact hrun
  obtain ⟨items, hread, hitems⟩ := hput "posts" _ _ _ _ hchanges rfl (by decide)
  have hkeeper : s.read "keeper" = some (.bool true) := by
    have hfirst := hnotPut "keeper" (by rw [hchanges]; decide)
    rw [hchanges] at hfirst
    exact hfirst
  refine ⟨log, s, hrun, ?_, ?_, ?_, ?_, hkeys⟩
  · rw [hversion, hchanges]
    rfl
  · rcases hitems with hitems | ⟨hitems, -⟩
    · cases hitems
      exact hread
    · cases hitems
  · exact hkeeper
  · exact happend "keeper" .null (.bool true) hkeeper nofun

end Store

end RoundWorkflow
