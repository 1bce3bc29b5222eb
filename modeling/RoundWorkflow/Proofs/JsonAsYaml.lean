import RoundWorkflow.Proofs.Replaying
import RoundWorkflow.Proofs.SpecificationYaml
import RoundWorkflow.Proofs.Yaml.FlowBuild

/-!
# The JSON text of a specification, read as YAML

No name of a round or of an event needs an escape in quotes, and the text of a key has nothing but
names, a comma, a space and parentheses.  So the JSON text of a specification is a text in brackets
that a reader of YAML reads as well (`toJson_quotable`), and both readers find the specification in
it, its edges in their order, whatever their keys are (`readYaml_jsonText`).

Which of the two reads the file of a table depends on the ending of its name.  A table in JSON is
the same table under any name (`json_under_any_name`).
-/

namespace RoundWorkflow

open Yaml

/-! ## Names and keys -/

theorem Round.name_isQuotable (r : Round) : IsQuotable r.name := by
  have h : r.name.toList.all isQuotable = true := by
    cases r <;> exact Text.all_toList_ofList rfl
  exact List.all_eq_true.mp h

theorem Event.name_isQuotable (e : Event) : IsQuotable e.name := by
  have h : e.name.toList.all isQuotable = true := by
    cases e <;> exact Text.all_toList_ofList rfl
  exact List.all_eq_true.mp h

theorem Key.text_isQuotable (k : Key) : IsQuotable k.text := by
  have hmarks : ∀ c ∈ ['(', ',', ' ', ')'], isQuotable c = true := List.all_eq_true.mp rfl
  have hround := k.round.name_isQuotable
  have hevent := k.event.name_isQuotable
  unfold IsQuotable at hround hevent ⊢
  rw [k.text_toList]
  grind

theorem utf8ByteSize_add_two_le {k : String} (h : isSimpleKey k = true) :
    k.utf8ByteSize + 2 ≤ Scan.maxKeyLength := by
  have hshort : k.utf8ByteSize ≤ maxKeyLength := of_decide_eq_true (Bool.and_eq_true_iff.mp h).2
  exact Nat.le_trans (Nat.add_le_add_right hshort 2) (by decide)

theorem Dialect.yaml_embeds_quoted : Dialect.yaml.Embeds Node.ofQuoted where
  list items := congrArg View.list (Node.ofQuotedItems_eq_map items)
  map members := congrArg View.map (Node.ofQuotedMembers_eq_map members)
  text _ := rfl
  name _ := rfl

namespace Specification

/-! ## The value -/

theorem fieldNames_isQuotable : ∀ s ∈ fieldNames, IsQuotable s := by
  have h : ∀ s ∈ fieldNames, s.toList.all isQuotable = true := by decide +kernel
  exact fun s hs => List.all_eq_true.mp (h s hs)

theorem namesJson_quotable {α : Type} [DecidableEq α] [Enumeration α]
    (hname : ∀ a : α, IsQuotable (Enumeration.name a)) (t : EnumSet α) :
    Quotable (namesJson t) := by
  rw [namesJson_eq]
  refine .list fun j hj => ?_
  obtain ⟨name, hname', rfl⟩ := List.mem_map.mp hj
  obtain ⟨a, -, rfl⟩ := List.mem_map.mp hname'
  exact .string (hname a)

theorem edges_quotable (edges : List Edge) : Quotable (.object (edges.map edgeMember)) := by
  refine .map (fun m hm => ?_) fun m hm => ?_ <;> obtain ⟨e, -, rfl⟩ := List.mem_map.mp hm
  · exact ⟨e.key.text_isQuotable, utf8ByteSize_add_two_le e.key.text_isSimpleKey⟩
  · exact .string e.target.name_isQuotable

theorem toJson_quotable (s : Specification) : Quotable s.toJson := by
  have hrounds (t : EnumSet Round) := namesJson_quotable Round.name_isQuotable t
  have hevents (t : EnumSet Event) := namesJson_quotable Event.name_isQuotable t
  refine .map (fun m hm => ?_) ?_
  · have hfield := List.mem_map_of_mem (f := Prod.fst) hm
    exact ⟨fieldNames_isQuotable _ hfield, utf8ByteSize_add_two_le (fieldNames_plain _ hfield).2⟩
  · simp only [List.forall_mem_cons]
    exact ⟨hevents _, .string s.defaultStart.name_isQuotable, hrounds _, hrounds _, hrounds _,
      edges_quotable _, List.forall_mem_nil _⟩

theorem readYaml_jsonText (s : Specification) : readYaml s.jsonText = .ok s := by
  obtain ⟨document, hdocuments, hroot, hfault⟩ := Flow.documents_pretty s.toJson_quotable
  exact readYaml_of_documents hdocuments hfault
    (hroot ▸ readValue_embed Dialect.yaml_embeds_quoted s)

end Specification

/-! ## Files -/

namespace Command

open MonadExcept (ofExcept)

theorem run_ofExcept {α : Type} (x : Except Failure α) (d : Directory) :
    (ofExcept x : ExceptT Failure (StateM Directory) α).run d = (x, d) := by
  cases x <;> rfl

/-- What is loaded from a file of a directory: the ending of its name says which reader reads it. -/
theorem table_run (d : Directory) (path : String) :
    (table (some path) : ExceptT Failure (StateM Directory) Table).run d =
      (((d.read path).mapError .file) >>= fun text =>
        ((if isJsonFile path then Specification.readJson else Specification.readYaml) text >>=
          Table.load).mapError .workflow, d) := by
  have hread :
      (liftM (Files.read path : StateM Directory _) : ExceptT Failure (StateM Directory) _).run d =
      (.ok (d.read path), d) := rfl
  rw [table, run_bind_of_ok hread]
  cases d.read path with
  | error fault => rfl
  | ok text => exact run_ofExcept _ d

end Command

namespace Specification

/-- Both readers find a specification in its JSON text, its edges in their order and with the keys
that they have.  So a file with this text is loaded as the table of the specification, whatever its
name is. -/
theorem json_under_any_name (s : Specification) :
    readYaml s.jsonText = .ok s ∧ readJson s.jsonText = .ok s ∧
      ∀ (d : Directory) (path : String), d.read path = .ok s.jsonText →
        (Command.table (some path) : ExceptT Failure (StateM Directory) Table).run d =
          ((Table.load s).mapError .workflow, d) := by
  refine ⟨s.readYaml_jsonText, s.readJson_jsonText, fun d path hread => ?_⟩
  have hreader : (if Command.isJsonFile path then readJson else readYaml) s.jsonText = .ok s := by
    split
    · exact s.readJson_jsonText
    · exact s.readYaml_jsonText
  have hload : ((d.read path).mapError Failure.file >>= fun text =>
      ((if Command.isJsonFile path then readJson else readYaml) text >>=
        Table.load).mapError .workflow) = (Table.load s).mapError .workflow := by
    rw [hread]
    exact congrArg (fun r => (r >>= Table.load).mapError Failure.workflow) hreader
  rw [Command.table_run, hload]

/-- A file that is read as JSON, and a file that is read as YAML. -/
theorem waits_under_both_names :
    let d : Directory := .ofList
      [("table.conf", Engine.waits.specification.jsonText),
        ("table.json", Engine.waits.specification.jsonText)]
    Command.isJsonFile "table.json" = true ∧ Command.isJsonFile "table.conf" = false ∧
      (Command.table (some "table.json") : ExceptT Failure (StateM Directory) Table).run d =
        (.ok Engine.waits, d) ∧
      (Command.table (some "table.conf") : ExceptT Failure (StateM Directory) Table).run d =
        (.ok Engine.waits, d) := by
  intro d
  obtain ⟨-, -, hload⟩ := json_under_any_name Engine.waits.specification
  rw [Engine.waits.load_specification] at hload
  exact ⟨by decide +kernel, by decide +kernel, hload d "table.json" rfl, hload d "table.conf" rfl⟩

end Specification

end RoundWorkflow
