import RoundWorkflow.Specification.Document
import RoundWorkflow.Proofs.KeySpelling
import RoundWorkflow.Proofs.TableLookup
import Mathlib.Data.List.Forall2

/-!
# The edges of a document

On its way from a document to a table an edge passes four places at which it could be
lost to another one with its key: the reader of the document, the reader of the map of
edges, the validation, and the index of the table.

The readers lose nothing.  A document has one map of edges (`readFields_edges`), and its
entries become the edges of the specification, one for one and in their order
(`readValue_edges`), though their keys may be spelled in many ways.  The validation wants
the keys to be distinct, and only then the index is made.  So a document that loads has
all its entries in the table (`Table.HasAll`), and a document with two entries for one key
does not load, however the two are spelled (`loads_every_entry`).
-/

namespace RoundWorkflow

variable {ν : Type}

namespace Dialect

/-- An entry of a map is for a key, which is read off it. -/
def HasKey (d : Dialect ν) (entry : ν × ν) (k : Key) : Prop :=
  ∃ text, d.text? entry.1 = some text ∧ Key.parse text = .ok k

/-- An entry of a map spells a key. -/
def Spells (d : Dialect ν) (entry : ν × ν) (k : Key) : Prop :=
  ∃ text, d.text? entry.1 = some text ∧ k.SpelledBy text

theorem spells_iff_hasKey {d : Dialect ν} {entry : ν × ν} {k : Key} :
    d.Spells entry k ↔ d.HasKey entry k := by
  simp only [Spells, HasKey, Key.parse_eq_ok_iff]

end Dialect

namespace Specification

variable {d : Dialect ν}

/-! ## The entries of a document -/

/-- The entries of a map; any other value has none. -/
def mapEntries (d : Dialect ν) (v : ν) : List (ν × ν) :=
  match d.view v with
  | .map entries => entries
  | _ => []

/-- The entries of every map of edges among the fields of a record. -/
def edgeEntries (d : Dialect ν) (fields : List (ν × ν)) : List (ν × ν) :=
  fields.flatMap fun f => if d.text? f.1 = some "transition_func" then mapEntries d f.2 else []

/-- The entries for edges in the record that a value is. -/
def listedEntries (d : Dialect ν) (v : ν) : List (ν × ν) :=
  match recordEntries d v with
  | .ok fields => edgeEntries d fields
  | .error _ => []

/-- The entries for edges in a JSON document. -/
def jsonEntries (text : String) : List (Json × Json) :=
  match Json.ofText? text with
  | some j => listedEntries .json j
  | none => []

/-- The entries for edges in the first document of a YAML text. -/
def yamlEntries (text : String) : List (Yaml.Node × Yaml.Node) :=
  match Yaml.Edition.early.documents text with
  | document :: _ => listedEntries .yaml document.root
  | [] => []

/-! ## Reading the map of edges -/

/-- An entry is read as an edge. -/
structure ReadsAs (d : Dialect ν) (entry : ν × ν) (e : Edge) : Prop where
  key : readKey d entry.1 = .ok e.key
  target : readMember Round d entry.2 = .ok e.target

theorem readKey_eq_ok_iff {entry : ν × ν} {k : Key} :
    readKey d entry.1 = .ok k ↔ d.HasKey entry k := by
  rw [readKey, Dialect.HasKey]
  cases d.text? entry.1 with
  | none => simp
  | some text => simp [mapError_eq_ok_iff]

theorem ReadsAs.hasKey_iff {entry : ν × ν} {e : Edge} (h : ReadsAs d entry e) {k : Key} :
    d.HasKey entry k ↔ e.key = k := by
  rw [← readKey_eq_ok_iff, h.key]
  exact ⟨Except.ok.inj, congrArg Except.ok⟩

/-- Every entry becomes an edge. -/
theorem readEntries_forall₂ {entries : List (ν × ν)} {edges : List Edge}
    (h : readEntries d entries = .ok edges) : List.Forall₂ (ReadsAs d) entries edges := by
  induction entries generalizing edges with
  | nil =>
    cases h
    exact .nil
  | cons entry entries ih =>
    obtain ⟨key, value⟩ := entry
    obtain ⟨k, hkey, h⟩ := bind_eq_ok_iff.mp h
    obtain ⟨r, htarget, h⟩ := bind_eq_ok_iff.mp h
    obtain ⟨rest, hrest, h⟩ := bind_eq_ok_iff.mp h
    cases h
    exact .cons ⟨hkey, htarget⟩ (ih hrest)

theorem readEdges_eq_ok {v : ν} {edges : List Edge} (h : readEdges d v = .ok edges) :
    readEntries d (mapEntries d v) = .ok edges := by
  rw [readEdges] at h
  rw [mapEntries]
  cases hview : d.view v with
  | map entries => rw [hview] at h; exact h
  | blank => rw [hview] at h; exact h
  | list items => rw [hview] at h; cases h
  | scalar => rw [hview] at h; cases h
  | broken fault => rw [hview] at h; cases h

/-! ## Reading the record -/

theorem readOnce_eq_ok_iff {α : Type} {name : String} {before after : Option α}
    {read : Except ReadingFault α} :
    readOnce name before read = .ok after ↔ before = none ∧ ∃ a, read = .ok a ∧ after = some a := by
  cases before with
  | some _ => simp [readOnce]
  | none => cases read <;> simp [readOnce, Except.map, eq_comm]

/-- The map of edges is read once. -/
theorem readField_edges {draft draft' : Draft} {v : ν}
    (h : draft.readField d "transition_func" v = .ok draft') :
    draft.edges = none ∧ ∃ edges, readEdges d v = .ok edges ∧ draft'.edges = some edges := by
  obtain ⟨after, honce, hdraft⟩ := bind_eq_ok_iff.mp h
  cases hdraft
  obtain ⟨hnone, edges, hedges, rfl⟩ := readOnce_eq_ok_iff.mp honce
  exact ⟨hnone, edges, hedges, rfl⟩

/-- No other field changes the edges. -/
theorem readField_other {draft draft' : Draft} {name : String} {v : ν}
    (hname : name ≠ "transition_func")
    (h : draft.readField d name v = .ok draft') : draft'.edges = draft.edges := by
  unfold Draft.readField at h
  split at h
  case h_6 => exact absurd rfl hname
  case h_7 =>
    split at h
    · cases h
    · cases h
      rfl
  all_goals
    obtain ⟨_, -, hdraft⟩ := bind_eq_ok_iff.mp h
    cases hdraft
    rfl

theorem edgeEntries_cons (key value : ν) (fields : List (ν × ν)) :
    edgeEntries d ((key, value) :: fields) =
      (if d.text? key = some "transition_func" then mapEntries d value else []) ++
        edgeEntries d fields :=
  List.flatMap_cons

/-- Of all fields of a record one is the map of edges. -/
theorem readFields_edges {fields : List (ν × ν)} {draft draft' : Draft} {edges : List Edge}
    (h : draft.readFields d fields = .ok draft') (hedges : draft'.edges = some edges) :
    (draft.edges = none ∧ readEntries d (edgeEntries d fields) = .ok edges) ∨
      (draft.edges = some edges ∧ edgeEntries d fields = []) := by
  induction fields generalizing draft with
  | nil =>
    cases h
    exact .inr ⟨hedges, rfl⟩
  | cons field fields ih =>
    obtain ⟨key, value⟩ := field
    rw [Draft.readFields] at h
    cases hname : d.text? key with
    | none => rw [hname] at h; cases h
    | some name =>
      rw [hname] at h
      dsimp only at h
      obtain ⟨draft₁, hfield, hrest⟩ := bind_eq_ok_iff.mp h
      rw [edgeEntries_cons, hname]
      by_cases htransitions : name = "transition_func"
      · -- The map of edges: none has been read before, and none is read after.
        subst htransitions
        obtain ⟨hnone, edges₁, hread, hsome⟩ := readField_edges hfield
        rw [if_pos rfl]
        rcases ih hrest with ⟨hnone₁, -⟩ | ⟨hsome₁, hempty⟩
        · cases hnone₁.symm.trans hsome
        · cases hsome₁.symm.trans hsome
          rw [hempty, List.append_nil]
          exact .inl ⟨hnone, readEdges_eq_ok hread⟩
      · rw [if_neg fun hsome => htransitions (Option.some.inj hsome), List.nil_append,
          ← readField_other htransitions hfield]
        exact ih hrest

/-- The entries for edges are read as the edges of the specification. -/
theorem readValue_edges {v : ν} {s : Specification} (h : readValue d v = .ok s) :
    readEntries d (listedEntries d v) = .ok s.edges := by
  obtain ⟨fields, hfields, h⟩ := bind_eq_ok_iff.mp h
  obtain ⟨draft, hdraft, h⟩ := bind_eq_ok_iff.mp h
  obtain ⟨_, -, h⟩ := bind_eq_ok_iff.mp h
  obtain ⟨alphabet, -, h⟩ := bind_eq_ok_iff.mp h
  obtain ⟨defaultStart, -, h⟩ := bind_eq_ok_iff.mp h
  obtain ⟨starts, -, h⟩ := bind_eq_ok_iff.mp h
  obtain ⟨states, -, h⟩ := bind_eq_ok_iff.mp h
  obtain ⟨edges, hedges, h⟩ := bind_eq_ok_iff.mp h
  cases h
  rw [listedEntries, hfields]
  have hsome : draft.edges = some edges := by
    cases hdraftEdges : draft.edges with
    | none => rw [hdraftEdges] at hedges; cases hedges
    | some edges' => rw [hdraftEdges] at hedges; cases hedges; rfl
  rcases readFields_edges hdraft hsome with ⟨-, hread⟩ | ⟨hsome', -⟩
  · exact hread
  · cases hsome'

end Specification

/-! ## Tables -/

/-- A table has all entries of a map of edges. -/
structure Table.HasAll (t : Table) (d : Dialect ν) (entries : List (ν × ν)) : Prop where
  /-- There are as many edges as entries. -/
  count : t.edgeCount = entries.length
  /-- No two entries have the same key. -/
  distinct : entries.Pairwise fun a b => ∀ k, d.HasKey a k → ¬d.HasKey b k
  /-- Every entry has a key and a target, and the table finds the target for the key. -/
  found : ∀ entry ∈ entries, ∃ k r, d.HasKey entry k ∧
    Specification.readMember Round d entry.2 = .ok r ∧
    t.next k.round k.event = .ok r
  /-- The table finds nothing else. -/
  only : ∀ r e r', t.next r e = .ok r' →
    ∃ entry ∈ entries, d.HasKey entry ⟨r, e⟩ ∧ Specification.readMember Round d entry.2 = .ok r'

/-- The table of a specification has all entries that were read as its edges. -/
theorem Table.hasAll_of_load {d : Dialect ν} {entries : List (ν × ν)} {s : Specification}
    {t : Table}
    (hread : Specification.readEntries d entries = .ok s.edges) (h : Table.load s = .ok t) :
    t.HasAll d entries := by
  have hedges := Specification.readEntries_forall₂ hread
  rw [← Table.specification_of_load h] at hedges
  obtain ⟨hlength, hget⟩ := List.forall₂_iff_get.mp hedges
  have hreads : ∀ (i : Nat) (hi : i < entries.length) (hi' : i < t.specification.edges.length),
      Specification.ReadsAs d entries[i] t.specification.edges[i] := hget
  refine
    { count := ?_
      distinct := ?_
      found := fun entry hentry => ?_
      only := fun r e r' hnext => ?_ }
  · rw [t.edgeCount_eq]
    exact hlength.symm
  · rw [List.pairwise_iff_getElem]
    intro i j hi hj hij k hk hk'
    have hi' : i < t.specification.edges.length := hlength ▸ hi
    have hj' : j < t.specification.edges.length := hlength ▸ hj
    rw [(hreads i hi hi').hasKey_iff] at hk
    rw [(hreads j hj hj').hasKey_iff] at hk'
    exact List.pairwise_iff_getElem.mp t.sensible.keys i j hi' hj' hij (hk.trans hk'.symm)
  · obtain ⟨i, hi, rfl⟩ := List.getElem_of_mem hentry
    have hreads := hreads i hi (hlength ▸ hi)
    exact ⟨_, _, hreads.hasKey_iff.mpr rfl, hreads.target,
      Table.next_eq_ok_iff.mpr (List.getElem_mem _)⟩
  · obtain ⟨i, hi, hedge⟩ := List.getElem_of_mem (Table.next_eq_ok_iff.mp hnext)
    have hreads := hreads i (hlength ▸ hi) hi
    rw [hedge] at hreads
    exact ⟨_, List.getElem_mem _, hreads.hasKey_iff.mpr rfl, hreads.target⟩

/-- What has all entries whenever it is a table is none if two of the entries have one key. -/
theorem Table.not_ok_of_repeated {d : Dialect ν} {entries : List (ν × ν)}
    {loaded : Except Error Table}
    (hall : ∀ t, loaded = .ok t → t.HasAll d entries) {a b : ν × ν} {k : Key}
    (hab : [a, b].Sublist entries)
    (ha : d.Spells a k) (hb : d.Spells b k) : ∃ fault, loaded = .error fault := by
  rw [Dialect.spells_iff_hasKey] at ha hb
  cases loaded with
  | error fault => exact ⟨fault, rfl⟩
  | ok t => exact absurd hb (List.pairwise_iff_forall_sublist.mp (hall t rfl).distinct hab k ha)

namespace Specification

theorem readJson_edges {text : String} {s : Specification} (h : readJson text = .ok s) :
    readEntries .json (jsonEntries text) = .ok s.edges := by
  rw [readJson] at h
  rw [jsonEntries]
  cases hjson : Json.ofText? text with
  | none => rw [hjson] at h; cases h
  | some j =>
    rw [hjson] at h
    exact readValue_edges (mapError_eq_ok_iff.mp h)

theorem readYaml_edges {text : String} {s : Specification} (h : readYaml text = .ok s) :
    readEntries .yaml (yamlEntries text) = .ok s.edges := by
  rw [readYaml] at h
  rw [yamlEntries]
  cases hdocuments : Yaml.Edition.early.documents text with
  | nil => rw [hdocuments] at h; cases h
  | cons document others =>
    rw [hdocuments] at h
    obtain ⟨s', hread, hrest⟩ := bind_eq_ok_iff.mp h
    have hs : s' = s := by
      split at hrest
      · cases hrest
      · split at hrest
        · exact Except.ok.inj hrest
        · cases hrest
    rw [← hs]
    exact readValue_edges (mapError_eq_ok_iff.mp hread)

end Specification

/-- A document that loads has all its entries for edges in the table, and one with two entries for
one key, spelled alike or not, does not load. -/
theorem Table.loads_every_entry (text : String) :
    (∀ t, (Specification.readJson text >>= Table.load) = .ok t →
      t.HasAll .json (Specification.jsonEntries text)) ∧
    (∀ t, (Specification.readYaml text >>= Table.load) = .ok t →
      t.HasAll .yaml (Specification.yamlEntries text)) ∧
    (∀ a b k, [a, b].Sublist (Specification.jsonEntries text) → Dialect.json.Spells a k →
      Dialect.json.Spells b k →
      ∃ fault, (Specification.readJson text >>= Table.load) = .error fault) ∧
    (∀ a b k, [a, b].Sublist (Specification.yamlEntries text) → Dialect.yaml.Spells a k →
      Dialect.yaml.Spells b k →
      ∃ fault, (Specification.readYaml text >>= Table.load) = .error fault) := by
  have hjson : ∀ t, (Specification.readJson text >>= Table.load) = .ok t →
      t.HasAll .json (Specification.jsonEntries text) := by
    intro t h
    obtain ⟨s, hread, hload⟩ := bind_eq_ok_iff.mp h
    exact Table.hasAll_of_load (Specification.readJson_edges hread) hload
  have hyaml : ∀ t, (Specification.readYaml text >>= Table.load) = .ok t →
      t.HasAll .yaml (Specification.yamlEntries text) := by
    intro t h
    obtain ⟨s, hread, hload⟩ := bind_eq_ok_iff.mp h
    exact Table.hasAll_of_load (Specification.readYaml_edges hread) hload
  exact ⟨hjson, hyaml, fun _ _ _ => Table.not_ok_of_repeated hjson,
    fun _ _ _ => Table.not_ok_of_repeated hyaml⟩

/-- Pieces of a text, one after the other. -/
def joined (pieces : List String) : String := .ofList (pieces.flatMap String.toList)

/-- A JSON document with two entries. -/
def resettingDocument : String :=
  joined
    ["\x7b\"alphabet_in\": [\"DONE\", \"WAIT\"], ", "\"default_start_state\": \"ResetRound\", ",
      "\"start_states\": [\"ResetRound\"], ", "\"states\": [\"ResetRound\"], ",
      "\"transition_func\": ",
      "\x7b\"(ResetRound, DONE)\": \"ResetRound\", ",
      "\"(ResetRound,wait)\": \"ResetRound\"\x7d\x7d"]

/-- A YAML document with two entries for one key, the second with a blank more and a small
letter. -/
def repeatingDocument : String :=
  joined
    ["alphabet_in: [DONE]\n", "default_start_state: ResetRound\n", "start_states: [ResetRound]\n",
      "states: [ResetRound]\n", "transition_func:\n", "  (ResetRound, DONE): ResetRound\n",
      "  ( ResetRound,DONe): ResetRound\n"]

/-- The first of the two documents loads, with both entries, and the second does not. -/
theorem Table.resettingDocument_loads :
    (∃ t, (Specification.readJson resettingDocument >>= Table.load) = .ok t ∧
      t.HasAll .json (Specification.jsonEntries resettingDocument) ∧ t.edgeCount = 2) ∧
    ∃ fault, (Specification.readYaml repeatingDocument >>= Table.load) = .error fault := by
  constructor
  · have hloads : (Specification.readJson resettingDocument >>= Table.load).isOk = true := by
      rw [Specification.readJson, Json.ofText?, resettingDocument, joined, String.toList_ofList]
      decide +kernel
    have hlength : (Specification.jsonEntries resettingDocument).length = 2 := by
      rw [Specification.jsonEntries, Json.ofText?, resettingDocument, joined, String.toList_ofList]
      decide +kernel
    cases hload : (Specification.readJson resettingDocument >>= Table.load) with
    | error fault => rw [hload] at hloads; cases hloads
    | ok t =>
      have hall := (Table.loads_every_entry resettingDocument).1 t hload
      exact ⟨t, rfl, hall, hall.count.trans hlength⟩
  · have htexts : (Specification.yamlEntries repeatingDocument).map
        (fun e => Dialect.yaml.text? e.1) =
        [some "(ResetRound, DONE)", some "( ResetRound,DONe)"] := by
      rw [Specification.yamlEntries, Yaml.Edition.documents, repeatingDocument, joined,
        String.toList_ofList]
      decide +kernel
    obtain ⟨a, _, hentries, ha, hrest⟩ := List.map_eq_cons_iff.mp htexts
    obtain ⟨b, _, rfl, hb, hnil⟩ := List.map_eq_cons_iff.mp hrest
    cases List.map_eq_nil_iff.mp hnil
    have hparse : Key.parse "(ResetRound, DONE)" = .ok ⟨.reset, .done⟩ := by rfl
    have hparse' : Key.parse "( ResetRound,DONe)" = .ok ⟨.reset, .done⟩ := by rfl
    refine (Table.loads_every_entry repeatingDocument).2.2.2 a b ⟨.reset, .done⟩ ?_ ?_ ?_
    · rw [hentries]
    · exact ⟨_, ha, Key.parse_eq_ok_iff.mp hparse⟩
    · exact ⟨_, hb, Key.parse_eq_ok_iff.mp hparse'⟩

end RoundWorkflow
