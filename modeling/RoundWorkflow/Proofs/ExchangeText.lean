import RoundWorkflow.Exchange
import RoundWorkflow.Proofs.KeyReading
import RoundWorkflow.Proofs.MomentText
import RoundWorkflow.Proofs.SpecificationText

/-!
# Records and their JSON text

What is exchanged as JSON comes back as it was sent (`Exchange.reads_back`).  There are two halves
to this.  The JSON form of a value is exact, so it is read back from its text, with all strings and
all numbers as they were.  And decoding undoes encoding.  Both halves go by the parts of a value,
and are proved together (`Json.Keeps`): those of a map by its entries, which are still in order, and
those of a record by its fields, which all are there and have different names, so no default is
needed.
-/

namespace RoundWorkflow

namespace Dict

variable {α : Type}

theorem insertEntry_concat {k : String} {v : α} {es : List (String × α)} (h : ∀ e ∈ es, e.1 < k) :
    insertEntry k v es = es ++ [(k, v)] := by
  induction es with
  | nil => rfl
  | cons e es ih =>
    obtain ⟨hlt, hrest⟩ := List.forall_mem_cons.mp h
    have hnot : ¬k < e.1 := fun hgt => String.lt_irrefl _ (String.lt_trans hlt hgt)
    rw [insertEntry, if_neg (String.ne_of_lt hlt).symm, if_neg hnot, ih hrest]
    rfl

/-- Entries that are in order already are the entries of their map. -/
theorem entries_ofList {es : List (String × α)} (h : (es.map Prod.fst).Pairwise (· < ·)) :
    (ofList es).entries = es := by
  induction es using List.reverseRecOn with
  | nil => rfl
  | append_singleton es e ih =>
    rw [List.map_append, List.pairwise_append] at h
    have hlast : ∀ f ∈ es, f.1 < e.1 := fun f hf => h.2.2 f.1 (List.mem_map_of_mem hf) e.1 (by simp)
    have hconcat : ofList (es ++ [e]) = (ofList es).insert e.1 e.2 := by
      rw [ofList, insertAll, List.foldl_append]
      rfl
    rw [hconcat]
    change insertEntry e.1 e.2 (ofList es).entries = es ++ [e]
    rw [ih h.1, insertEntry_concat hlast]

theorem ofList_entries (d : Dict α) : ofList d.entries = d := by
  have hentries := entries_ofList d.ascending
  cases hd : ofList d.entries
  cases d
  rw [hd] at hentries
  cases hentries
  rfl

end Dict

namespace Json

variable {α : Type} {encode : α → Json} {decode? : Json → Option α}

/-! ## Values -/

/-- The JSON form of a value is exact, and decoded as the value. -/
structure Keeps (encode : α → Json) (decode? : Json → Option α) (a : α) : Prop where
  exact : (encode a).Exact
  decoded : decode? (encode a) = some a

theorem keeps_string (s : String) : Keeps .string string? s := ⟨.string s, rfl⟩

theorem keeps_bool (b : Bool) : Keeps .bool bool? b := ⟨.bool b, rfl⟩

theorem keeps_natural {n limit : Nat} (h : n ≤ limit) (hlimit : limit < UInt64.size) :
    Keeps nat (natural? limit) n where
  exact := by
    have hlow : -(Nat.pow 2 63 : Int) ≤ n := by
      have : (0 : Int) ≤ Nat.pow 2 63 := Int.natCast_nonneg _
      omega
    exact .integer hlow (Int.ofNat_lt.mpr (Nat.lt_of_le_of_lt h hlimit))
  decoded := by simp [nat, natural?, h]

theorem keeps_uint64 (n : UInt64) : Keeps Exchange.ofUInt64 uint64? n := by
  have hn : n.toNat ≤ UInt64.size - 1 := Nat.le_sub_one_of_lt n.toNat_lt_size
  have hnat := keeps_natural hn (by decide)
  refine ⟨hnat.exact, ?_⟩
  rw [uint64?, Exchange.ofUInt64, hnat.decoded, Option.map_some, UInt64.ofNat_toNat]

theorem keeps_uint32 (n : UInt32) : Keeps Exchange.ofUInt32 uint32? n := by
  have hn : n.toNat ≤ UInt32.size - 1 := Nat.le_sub_one_of_lt n.toNat_lt_size
  have hnat := keeps_natural hn (by decide)
  refine ⟨hnat.exact, ?_⟩
  rw [uint32?, Exchange.ofUInt32, hnat.decoded, Option.map_some, UInt32.ofNat_toNat]

/-- Nothing is told from something as long as nothing else is written as null. -/
theorem keeps_option (h : ∀ a, Keeps encode decode? a) (hnull : ∀ a, encode a ≠ .null)
    (o : Option α) :
    Keeps (ofOption encode) (option? decode?) o := by
  cases o with
  | none => exact ⟨.null, rfl⟩
  | some a =>
    refine ⟨(h a).exact, ?_⟩
    rw [ofOption, option?, (h a).decoded]
    · rfl
    · exact hnull a

theorem keeps_dict (h : ∀ a, Keeps encode decode? a) (d : Dict α) :
    Keeps (ofDict encode) (dict? decode?) d where
  exact := by
    refine .object fun m hm => ?_
    obtain ⟨e, -, rfl⟩ := List.mem_map.mp hm
    exact (h e.2).exact
  decoded := by
    have hmembers (es : List (String × α)) : decodeMembers decode?
        (es.map fun e => (e.1, encode e.2)) = some es := by
      induction es with
      | nil => rfl
      | cons e es ih => simp [decodeMembers, (h e.2).decoded, ih]
    rw [ofDict, dict?, hmembers, Option.map_some, Dict.ofList_entries]

/-- All fields are there if all are written. -/
theorem fields?_object {members : List (String × Json)} {names : List String}
    (hnames : members.map Prod.fst = names)
    (hdistinct : repeats names = false) : fields? names (.object members) = some ⟨members⟩ := by
  have hknown : members.filter (fun m => names.contains m.1) = members := by
    refine List.filter_eq_self.mpr fun m hm => ?_
    simpa [← hnames] using ⟨m.2, hm⟩
  rw [fields?, hknown, hnames, hdistinct]
  rfl

/-- A record is kept if its fields are. -/
theorem keeps_object {members : α → List (String × Json)} {names : List String}
    {read : Fields → Option α} {a : α}
    (hnames : (members a).map Prod.fst = names) (hdistinct : repeats names = false)
    (hexact : ∀ m ∈ members a, m.2.Exact) (hread : read ⟨members a⟩ = some a) :
    Keeps (fun a => .object (members a)) (fun j => fields? names j >>= read) a where
  exact := .object hexact
  decoded := by
    rw [fields?_object hnames hdistinct]
    exact hread

end Json

namespace Exchange

open Json

/-! ## Names, keys and moments -/

theorem keeps_name {α : Type} [DecidableEq α] [Enumeration α]
    (h : ∀ a : α, Enumeration.ofName? (Enumeration.name a) = some a) (a : α) :
    Keeps encode decode? a :=
  ⟨.string _, h a⟩

theorem keeps_round (r : Round) : Keeps encode decode? r := keeps_name Round.ofName?_name r

theorem keeps_event (e : Event) : Keeps encode decode? e := keeps_name Event.ofName?_name e

theorem keeps_key (k : Key) : Keeps encode decode? k where
  exact := .string _
  decoded := by
    change (Key.parse k.text).toOption = some k
    rw [Key.parse_text]
    rfl

theorem keeps_moment {m : Moment} (h : m.isValid = true) : Keeps encode decode? m where
  exact := .string _
  decoded := by
    simp only [encode, decode?, string?, Option.bind_some]
    exact Moment.ofText?_text h

/-! ## Records -/

theorem keeps_edge (e : Edge) : Keeps encode decode? e := by
  refine keeps_object rfl (by decide) ?_ ?_
  · simp [(keeps_round _).exact, (keeps_event _).exact]
  · simp [Fields.required, Fields.get?, (keeps_round _).decoded, (keeps_event _).decoded]

theorem keeps_warning (w : Warning) : Keeps encode decode? w := by
  cases w with
  | unusedEvent e =>
    refine ⟨.object (by simp [(keeps_event _).exact]), ?_⟩
    simp only [encode, decode?]
    exact congrArg (Option.map Warning.unusedEvent) (keeps_event e).decoded
  | unroutedTimeout r e =>
    have hinner : (Json.object [("round", encode r), ("event", encode e)]).Exact :=
      .object (by simp [(keeps_round _).exact, (keeps_event _).exact])
    refine ⟨.object (by simpa using hinner), ?_⟩
    have hr := (keeps_round r).decoded
    have he := (keeps_event e).decoded
    simp only [encode, decode?] at hr he ⊢
    rw [fields?_object (by rfl) (by decide)]
    simp [Fields.required, Fields.get?, hr, he]

theorem keeps_timeoutConfig (c : TimeoutConfig) : Keeps encode decode? c := by
  refine keeps_object rfl (by decide) ?_ ?_
  · simp [(keeps_uint64 _).exact, (keeps_dict keeps_uint64 _).exact]
  · simp [Fields.withDefault, Fields.get?, (keeps_uint64 _).decoded,
      (keeps_dict keeps_uint64 _).decoded]

theorem keeps_retryPolicy (p : RetryPolicy) : Keeps encode decode? p := by
  have hcap (o : Option UInt32) := keeps_option keeps_uint32 nofun o
  refine keeps_object rfl (by decide) ?_ ?_
  · simp [(hcap _).exact]
  · simp [Fields.withDefault, Fields.get?, (hcap _).decoded]

theorem keeps_retryConfig (c : RetryConfig) : Keeps encode decode? c := by
  refine keeps_object rfl (by decide) ?_ ?_
  · simp [(keeps_retryPolicy _).exact, (keeps_dict keeps_retryPolicy _).exact]
  · simp [Fields.withDefault, Fields.get?, (keeps_retryPolicy _).decoded,
      (keeps_dict keeps_retryPolicy _).decoded]

theorem keeps_engineConfig (c : EngineConfig) : Keeps encode decode? c := by
  have hround (o : Option Round) := keeps_option keeps_round nofun o
  refine keeps_object rfl (by decide) ?_ ?_
  · simp [(hround _).exact, (keeps_uint64 _).exact]
  · simp [Fields.withDefault, Fields.get?, (hround _).decoded, (keeps_uint64 _).decoded]

theorem keeps_engineSection (c : EngineSection) : Keeps encode decode? c := by
  have hstring (o : Option String) := keeps_option keeps_string nofun o
  refine keeps_object rfl (by decide) ?_ ?_
  · simp [(hstring _).exact, (keeps_uint64 _).exact]
  · simp [Fields.withDefault, Fields.get?, (hstring _).decoded, (keeps_uint64 _).decoded]

theorem keeps_logging (c : Logging) : Keeps encode decode? c := by
  refine keeps_object rfl (by decide) ?_ ?_
  · simp [(keeps_string _).exact, (keeps_bool _).exact]
  · simp [Fields.withDefault, Fields.get?, (keeps_string _).decoded, (keeps_bool _).decoded]

theorem keeps_configuration (c : Configuration) : Keeps encode decode? c := by
  refine keeps_object rfl (by decide) ?_ ?_
  · simp [(keeps_engineSection _).exact, (keeps_timeoutConfig _).exact, (keeps_retryConfig _).exact,
      (keeps_logging _).exact]
  · simp [Fields.withDefault, Fields.get?, (keeps_engineSection _).decoded,
      (keeps_timeoutConfig _).decoded, (keeps_retryConfig _).decoded, (keeps_logging _).decoded]

theorem keeps_streak (s : Streak) : Keeps encode decode? s := by
  have hround (o : Option Round) := keeps_option keeps_round nofun o
  refine keeps_object rfl (by decide) ?_ ?_
  · simp [(hround _).exact, (keeps_uint32 _).exact, (keeps_bool _).exact]
  · simp [Fields.withDefault, Fields.required, Fields.get?, (hround _).decoded,
      (keeps_uint32 _).decoded, (keeps_bool _).decoded]

/-- A record of numbers that have 64 bits, with a moment that there is. -/
structure Tellable (s : StampedRecord) : Prop where
  step : s.record.step < UInt64.size
  period : s.record.period < UInt64.size
  moment : s.moment.isValid = true

theorem keeps_stampedRecord {s : StampedRecord} (h : Tellable s) : Keeps encode decode? s := by
  have hnat {n : Nat} (hn : n < UInt64.size) : Keeps nat (natural? 18446744073709551615) n :=
    keeps_natural (Nat.le_sub_one_of_lt hn) (by decide)
  refine keeps_object rfl (by decide) ?_ ?_
  · simp [(hnat h.step).exact, (hnat h.period).exact, (keeps_round _).exact, (keeps_event _).exact,
      (keeps_bool _).exact, (keeps_moment h.moment).exact]
  · simp [Fields.required, Fields.get?, (hnat h.step).decoded, (hnat h.period).decoded,
      (keeps_round _).decoded, (keeps_event _).decoded, (keeps_bool _).decoded,
      (keeps_moment h.moment).decoded]

theorem keeps_change {ρ : Type} [Exchange ρ] {c : Change ρ} (h : Keeps encode decode? c.record) :
    Keeps encode decode? c := by
  refine keeps_object rfl (by decide) ?_ ?_
  · simp [h.exact, (keeps_bool _).exact, (keeps_uint32 _).exact]
  · simp [Fields.required, Fields.get?, h.decoded, (keeps_bool _).decoded, (keeps_uint32 _).decoded]

/-! ## Texts -/

/-- A value comes back from its JSON text, in either layout. -/
structure ReadsBack {α : Type} [Exchange α] (a : α) : Prop where
  compact : (ofText? (encode a).compact).bind decode? = some a
  pretty : (ofText? (encode a).pretty).bind decode? = some a

theorem ReadsBack.of_keeps {α : Type} [Exchange α] {a : α} (h : Keeps encode decode? a) :
    ReadsBack a where
  compact := by rw [ofText?_compact h.exact, Option.bind_some, h.decoded]
  pretty := by rw [ofText?_pretty h.exact, Option.bind_some, h.decoded]

/-- Whatever strings and numbers are in it, and whatever is left open in it, a configuration comes
back from its JSON text.  So does all else that is exchanged, and of a record nothing is asked but
that it can be told. -/
theorem reads_back :
    (∀ c : Configuration, ReadsBack c) ∧ (∀ c : TimeoutConfig, ReadsBack c) ∧
      (∀ c : RetryConfig, ReadsBack c) ∧
      (∀ p : RetryPolicy, ReadsBack p) ∧ (∀ s : Streak, ReadsBack s) ∧
      (∀ c : EngineConfig, ReadsBack c) ∧
      (∀ e : Edge, ReadsBack e) ∧ (∀ k : Key, ReadsBack k) ∧ (∀ w : Warning, ReadsBack w) ∧
      (∀ s : StampedRecord, Tellable s → ReadsBack s) ∧
      ∀ c : Change StampedRecord, Tellable c.record → ReadsBack c :=
  ⟨fun c => .of_keeps (keeps_configuration c), fun c => .of_keeps (keeps_timeoutConfig c),
    fun c => .of_keeps (keeps_retryConfig c), fun p => .of_keeps (keeps_retryPolicy p),
    fun s => .of_keeps (keeps_streak s), fun c => .of_keeps (keeps_engineConfig c), fun e =>
      .of_keeps (keeps_edge e),
    fun k => .of_keeps (keeps_key k), fun w => .of_keeps (keeps_warning w),
    fun _ hs => .of_keeps (keeps_stampedRecord hs),
    fun _ hc => .of_keeps (keeps_change (keeps_stampedRecord hc))⟩

/-- The longest step count there is, in a year of five digits. -/
def farRecord : StampedRecord where
  record := ⟨18446744073709551615, .pullMemes, .done, .resetAndPause, 0, false⟩
  moment := ⟨12024, 2, 29, 23, 59, 60⟩

theorem farRecord_reads_back :
    Tellable farRecord ∧ ReadsBack farRecord ∧
      ReadsBack (⟨farRecord, true, 3⟩ : Change StampedRecord) := by
  have hfar : Tellable farRecord := ⟨by decide, by decide, by decide⟩
  obtain ⟨-, -, -, -, -, -, -, -, -, hrecord, hchange⟩ := reads_back
  exact ⟨hfar, hrecord farRecord hfar, hchange ⟨farRecord, true, 3⟩ hfar⟩

end Exchange

end RoundWorkflow
