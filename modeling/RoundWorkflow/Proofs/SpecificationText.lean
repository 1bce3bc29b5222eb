import RoundWorkflow.CommandLine.Commands
import RoundWorkflow.Proofs.DocumentEdges
import RoundWorkflow.Proofs.JsonText

/-!
# A specification and its document

A specification is written as a JSON value, and every format that is read has values of
its own for JSON values (`Dialect.Embeds`).  Whatever the format, the value of a
specification is read as the specification (`readValue_embed`): a set is read back from
the names of its members, an edge from its key and its target, the edges in their order,
and no two fields have one name.  Nothing is asked of the specification, which need not
be sensible.

What is left for a format is that its text is read as that value.  For JSON this is the
reading of the text of an exact value, so a table that is exported as JSON is read as
itself (`json_reloads`).
-/

namespace RoundWorkflow

variable {ν : Type} {d : Dialect ν} {embed : Json → ν}

/-! ## Names and keys -/

theorem Event.ofName?_name (e : Event) :
    (Enumeration.ofName? (Enumeration.name e) : Option Event) = some e := by
  cases e <;> rfl

theorem Round.ofName?_name (r : Round) :
    (Enumeration.ofName? (Enumeration.name r) : Option Round) = some r :=
  Round.ofName?_eq_some_iff.mpr rfl

/-! ## Values of a format -/

/-- The values of a format that JSON values are written as. -/
structure Dialect.Embeds (d : Dialect ν) (embed : Json → ν) : Prop where
  list : ∀ items, d.view (embed (.array items)) = .list (items.map embed)
  map : ∀ members, d.view (embed (.object members)) = .map (members.map fun m =>
    (embed (.string m.1), embed m.2))
  text : ∀ s, d.text? (embed (.string s)) = some s
  name : ∀ s, d.spelling (embed (.string s)) = .name s

theorem Dialect.json_embeds : Dialect.json.Embeds id where
  list items := by rw [List.map_id]; rfl
  map _ := rfl
  text _ := rfl
  name _ := rfl

namespace Specification

section

variable {α : Type} [DecidableEq α] [Enumeration α]
  (hname : ∀ a : α, Enumeration.ofName? (Enumeration.name a) = some a)

include hname

theorem readMember_name (h : d.Embeds embed) (a : α) :
    readMember α d (embed (.string (Enumeration.name a))) = .ok a := by
  rw [readMember, h.name]
  simp only [hname]

theorem readMembers_names (h : d.Embeds embed) (as : List α) :
    readMembers α d (as.map fun a => embed (.string (Enumeration.name a))) = .ok as := by
  induction as with
  | nil => rfl
  | cons a as ih =>
    rw [List.map_cons, readMembers, readMember_name hname h, ih]
    rfl

theorem readSet_names (h : d.Embeds embed) (s : EnumSet α) :
    readSet α d (embed (namesJson s)) = .ok s := by
  have hmembers := readMembers_names hname h s.toList
  rw [readSet, namesJson, Json.ofList, h.list]
  simp only [List.map_map, Function.comp_def, hmembers, Except.map, EnumSet.ofList_toList]

end

/-! ## Reading a specification back -/

theorem readKey_text (h : d.Embeds embed) (k : Key) :
    readKey d (embed (.string k.text)) = .ok k := by
  rw [readKey, h.text]
  simp only [Key.parse_eq_ok_iff.mpr k.spelledBy_text, Except.mapError]

/-- Edges are read back in their order, whatever keys they have. -/
theorem readEntries_edges (h : d.Embeds embed) (edges : List Edge) :
    readEntries d (edges.map fun e => (embed (.string e.key.text), embed (.string e.target.name))) =
      .ok edges := by
  induction edges with
  | nil => rfl
  | cons e edges ih =>
    have htarget : readMember Round d (embed (.string e.target.name)) = .ok e.target :=
      readMember_name Round.ofName?_name h e.target
    rw [List.map_cons, readEntries, readKey_text h, htarget, ih]
    rfl

theorem readEdges_edges (h : d.Embeds embed) (edges : List Edge) :
    readEdges d (embed (.object (edges.map fun e => (e.key.text, .string e.target.name)))) =
      .ok edges := by
  rw [readEdges, h.map, List.map_map]
  exact readEntries_edges h edges

theorem readFields_cons (h : d.Embeds embed) {name : String} {v : ν} {draft draft' : Draft}
    (hfield : draft.readField d name v = .ok draft') (fields : List (ν × ν)) :
    draft.readFields d ((embed (.string name), v) :: fields) = draft'.readFields d fields := by
  rw [Draft.readFields, h.text]
  simp only [hfield]
  rfl

theorem readValue_embed (h : d.Embeds embed) (s : Specification) :
    readValue d (embed s.toJson) = .ok s := by
  have hrounds (t : EnumSet Round) := readSet_names Round.ofName?_name h t
  have hevents (t : EnumSet Event) := readSet_names Event.ofName?_name h t
  have hstart : readMember Round d (embed (.string s.defaultStart.name)) = .ok s.defaultStart :=
    readMember_name Round.ofName?_name h s.defaultStart
  have hedges := readEdges_edges h s.edges
  obtain ⟨alphabet, defaultStart, finals, starts, states, edges⟩ := s
  have h₁ : Draft.empty.readField d "alphabet_in" (embed (namesJson alphabet)) =
      .ok ⟨some alphabet, none, none, none, none, none⟩ := by
    simp only [Draft.readField, hevents]
    rfl
  have h₂ : Draft.readField d ⟨some alphabet, none, none, none, none, none⟩ "default_start_state"
      (embed (.string defaultStart.name)) = .ok ⟨some alphabet, some defaultStart, none,
        none, none, none⟩ := by
    simp only [Draft.readField, hstart]
    rfl
  have h₃ : Draft.readField d ⟨some alphabet, some defaultStart, none, none, none,
      none⟩ "final_states"
      (embed (namesJson finals)) = .ok ⟨some alphabet, some defaultStart, some finals,
        none, none, none⟩ := by
    simp only [Draft.readField, hrounds]
    rfl
  have h₄ : Draft.readField d ⟨some alphabet, some defaultStart, some finals, none, none,
      none⟩ "start_states"
      (embed (namesJson starts)) = .ok ⟨some alphabet, some defaultStart, some finals,
        some starts, none, none⟩ := by
    simp only [Draft.readField, hrounds]
    rfl
  have h₅ : Draft.readField d ⟨some alphabet, some defaultStart, some finals, some starts,
      none, none⟩ "states"
      (embed (namesJson states)) =
        .ok ⟨some alphabet, some defaultStart, some finals, some starts, some states, none⟩ := by
    simp only [Draft.readField, hrounds]
    rfl
  have h₆ : Draft.readField d ⟨some alphabet, some defaultStart, some finals, some starts,
      some states, none⟩
      "transition_func" (embed (.object (edges.map fun e => (e.key.text, .string e.target.name)))) =
        .ok ⟨some alphabet, some defaultStart, some finals, some starts,
          some states, some edges⟩ := by
    simp only [Draft.readField, hedges]
    rfl
  rw [readValue, recordEntries, checkLength, toJson, h.map]
  change (Draft.empty.readFields d _ >>= fun draft => (.ok () >>= fun _ => draft.finish)) = _
  rw [List.map_cons, readFields_cons h h₁, List.map_cons, readFields_cons h h₂, List.map_cons,
    readFields_cons h h₃, List.map_cons, readFields_cons h h₄, List.map_cons, readFields_cons h h₅,
    List.map_cons, readFields_cons h h₆]
  rfl

/-! ## JSON -/

theorem toJson_exact (s : Specification) : s.toJson.Exact := by
  have hnames {α : Type} [DecidableEq α] [Enumeration α] (t : EnumSet α) : (namesJson t).Exact :=
    .array (by simp [Json.Exact.string])
  have hedges : (Json.object (s.edges.map fun e => (e.key.text, .string e.target.name))).Exact :=
    .object (by simp [Json.Exact.string])
  exact .object (by simp [hnames, hedges, Json.Exact.string])

theorem readJson_jsonText (s : Specification) : readJson s.jsonText = .ok s := by
  rw [readJson, jsonText, Json.ofText?_pretty s.toJson_exact]
  exact mapError_eq_ok_iff.mpr (readValue_embed Dialect.json_embeds s)

end Specification

/-- A specification is read back from its JSON text, edges in their order, and a table that is
exported as JSON is loaded as itself. -/
theorem Specification.json_reloads :
    (∀ s : Specification, Specification.readJson s.jsonText = .ok s) ∧
      ∀ t : Table, (Specification.readJson (Command.exported t .json) >>= Table.load) = .ok t := by
  refine ⟨readJson_jsonText, fun t => ?_⟩
  rw [Command.exported, readJson_jsonText]
  exact t.load_specification

end RoundWorkflow
