import RoundWorkflow.Proofs.SpecificationText
import RoundWorkflow.Proofs.Yaml.BlockBuild

/-!
# The YAML text of a specification

The names of rounds and events are words, and so is the text of a key, for it begins with
a parenthesis (`Key.text_isWord`).  So no string of a specification needs quotes, and its
text has the simple shape of `yamlLines`: a line for each field and, below it, a line for
each member of a set and for each edge, in their order.  A set without members is an empty
list in brackets, and where there are no edges the map is empty and in brackets as well.

The text is one document.  Its value has a scalar for every string, a list for every set
and a map for the edges, also for those that are empty, and no scalar of it stands for
anything but its text.  So the specification is read back whatever it is
(`yaml_reloads`): it need not be sensible, and edges may have the same key.
-/

namespace RoundWorkflow

open Yaml

/-! ## Words -/

theorem Round.name_isWord (r : Round) : IsWord r.name := by
  cases r <;> exact isWord_ofList rfl

theorem Event.name_isWord (e : Event) : IsWord e.name := by
  cases e <;> exact isWord_ofList rfl

theorem Round.utf8ByteSize_name (r : Round) : r.name.utf8ByteSize ≤ 60 := by
  cases r <;> decide +kernel

theorem Event.utf8ByteSize_name (e : Event) : e.name.utf8ByteSize ≤ 60 := by
  cases e <;> decide +kernel

namespace Key

theorem text_toList (k : Key) :
    k.text.toList = '(' ::
      (k.round.name.toList ++ ',' :: ' ' :: (k.event.name.toList ++ [')'])) := by
  simp [text]

theorem text_ne (k : Key) {s : String} (hs : s.toList.head? ≠ some '(') : k.text ≠ s := by
  rintro rfl
  rw [k.text_toList] at hs
  exact hs rfl

/-- The text of a key begins with a parenthesis, and so it is no word for anything. -/
theorem text_isWord (k : Key) : IsWord k.text where
  opening := by
    rw [k.text_toList]
    rfl
  inner := by
    have hmarks : ∀ c ∈ ['(', ',', ' ', ')'], isInner c = true := List.all_eq_true.mp rfl
    have hround := k.round.name_isWord.inner
    have hevent := k.event.name_isWord.inner
    rw [k.text_toList]
    grind
  last := by
    have hlast : k.text.toList.getLast? = some ')' := by
      rw [k.text_toList, List.getLast?_eq_some_iff]
      exact ⟨'(' :: (k.round.name.toList ++ ',' :: ' ' :: k.event.name.toList), by simp⟩
    rw [hlast]
    decide
  notNull := by
    have hword : ∀ s ∈ ["~", "null", "Null", "NULL"], k.text ≠ s := by
      have hhead : ∀ s ∈ ["~", "null", "Null", "NULL"], s.toList.head? ≠ some '(' := by decide
      exact fun s hs => k.text_ne (hhead s hs)
    simpa [isNullWord, and_assoc] using hword
  notTruth := by
    unfold truth?
    split
    case h_1 h | h_2 h | h_3 h | h_4 h | h_5 h | h_6 h => exact absurd h (k.text_ne (by simp))
    case h_7 => rfl

/-- The text of a key is short enough to stand before its value. -/
theorem text_isSimpleKey (k : Key) : isSimpleKey k.text = true := by
  refine k.text_isWord.isSimpleKey ?_
  have hround := k.round.utf8ByteSize_name
  have hevent := k.event.utf8ByteSize_name
  have hopen : "(".utf8ByteSize = 1 := by decide
  have hcomma : ", ".utf8ByteSize = 2 := by decide
  have hclose : ")".utf8ByteSize = 1 := by decide
  rw [text, String.utf8ByteSize_append, String.utf8ByteSize_append, String.utf8ByteSize_append,
    String.utf8ByteSize_append, hopen, hcomma, hclose, maxKeyLength]
  omega

end Key

namespace Specification

/-! ## The value -/

theorem fieldNames_plain : ∀ s ∈ fieldNames, writing s = .plain ∧ isSimpleKey s = true := by
  decide +kernel

/-- The member of an edge. -/
def edgeMember (e : Edge) : String × Json := (e.key.text, .string e.target.name)

theorem edgeMember_plain (edges : List Edge) :
    ∀ m ∈ edges.map edgeMember, writing m.1 = .plain ∧ isSimpleKey m.1 = true := by
  intro m hm
  obtain ⟨e, -, rfl⟩ := List.mem_map.mp hm
  exact ⟨e.key.text_isWord.writing_eq, e.key.text_isSimpleKey⟩

theorem edges_plain (edges : List Edge) : Plain (.object (edges.map edgeMember)) := by
  refine .map (edgeMember_plain edges) fun m hm => ?_
  obtain ⟨e, -, rfl⟩ := List.mem_map.mp hm
  exact .string e.target.name_isWord.writing_eq

section

variable {α : Type} [DecidableEq α] [Enumeration α]

theorem namesJson_eq (t : EnumSet α) :
    namesJson t = .array ((t.toList.map Enumeration.name).map .string) := by
  rw [namesJson, Json.ofList, List.map_map]
  rfl

variable (hword : ∀ a : α, IsWord (Enumeration.name a))

include hword

theorem names_plain (as : List α) : ∀ s ∈ as.map Enumeration.name, writing s = .plain := by
  intro s hs
  obtain ⟨a, -, rfl⟩ := List.mem_map.mp hs
  exact (hword a).writing_eq

theorem namesJson_plain (t : EnumSet α) : Plain (namesJson t) := by
  rw [namesJson_eq]
  exact .list (names_plain hword t.toList)

end

theorem toJson_plain (s : Specification) : Plain s.toJson := by
  have hrounds (t : EnumSet Round) := namesJson_plain Round.name_isWord t
  have hevents (t : EnumSet Event) := namesJson_plain Event.name_isWord t
  refine .map (fun m hm => fieldNames_plain m.1 (List.mem_map_of_mem hm)) ?_
  simp only [List.forall_mem_cons]
  exact ⟨hevents _, .string s.defaultStart.name_isWord.writing_eq, hrounds _, hrounds _, hrounds _,
    edges_plain _, nofun⟩

end Specification

theorem Dialect.yaml_embeds : Dialect.yaml.Embeds Node.ofJson where
  list items := congrArg View.list (Node.ofItems_eq_map items)
  map members := congrArg View.map (Node.ofMembers_eq_map members)
  text _ := rfl
  name _ := rfl

namespace Specification

/-! ## The lines -/

/-- The lines of the field of a set with its members. -/
def setLines (field : String) (members : List String) : List String :=
  if members.isEmpty then [field ++ ": []"] else (field ++ ":") :: members.map ("- " ++ ·)

/-- The line of an edge. -/
def edgeLine (e : Edge) : String := "  " ++ e.key.text ++ ": " ++ e.target.name

/-- The lines of the field of the edges. -/
def edgeLines (edges : List Edge) : List String :=
  if edges.isEmpty then ["transition_func: \x7b\x7d"] else "transition_func:" :: edges.map edgeLine

/-- The lines of the YAML text of a specification. -/
def yamlLines (s : Specification) : List String :=
  setLines "alphabet_in" (s.alphabet.toList.map Event.name) ++
    ["default_start_state: " ++ s.defaultStart.name] ++
    setLines "final_states" (s.finals.toList.map Round.name) ++
    setLines "start_states" (s.starts.toList.map Round.name) ++
    setLines "states" (s.states.toList.map Round.name) ++
    edgeLines s.edges

/-- The characters of lines. -/
def lineChars (lines : List String) : List Char := lines.flatMap fun l => l.toList ++ ['\n']

theorem ofList_lineChars (lines : List String) :
    String.ofList (lineChars lines) = String.join (lines.map (· ++ "\n")) := by
  rw [← String.toList_inj, String.toList_ofList, String.toList_join, List.flatMap_map]
  simp [lineChars]

theorem itemLines_names {names : List String} (h : ∀ s ∈ names, writing s = .plain) :
    itemLines 0 (names.map .string) = lineChars (names.map ("- " ++ ·)) := by
  rw [itemLines_eq h, lineChars, List.flatMap_map]
  simp [indentation]

theorem memberLines_edges (edges : List Edge) :
    memberLines 2 (edges.map edgeMember) = lineChars (edges.map edgeLine) := by
  have hvalue (e : Edge) := valueChars_string e.target.name_isWord.writing_eq 2
  rw [memberLines_eq (edgeMember_plain edges), lineChars, List.flatMap_map, List.flatMap_map]
  simp [edgeMember, edgeLine, hvalue, indentation]

theorem valueChars_names {names : List String} (h : ∀ s ∈ names, writing s = .plain)
    (field : String) :
    field.toList ++ ':' :: valueChars true 0 (.array (names.map .string)) =
      lineChars (setLines field names) := by
  cases names with
  | nil =>
    have hempty : valueChars true 0 (.array []) = " []\n".toList := by decide
    rw [List.map_nil, hempty]
    simp [setLines, lineChars]
  | cons s names =>
    rw [List.map_cons, valueChars_list, ← List.map_cons, itemLines_names h]
    simp [setLines, lineChars]

theorem valueChars_set {α : Type} [DecidableEq α] [Enumeration α]
    (hword : ∀ a : α, IsWord (Enumeration.name a))
    (t : EnumSet α) (field : String) : field.toList ++ ':' :: valueChars true 0 (namesJson t) =
      lineChars (setLines field (t.toList.map Enumeration.name)) := by
  rw [namesJson_eq, valueChars_names (names_plain hword t.toList)]

theorem valueChars_edges (edges : List Edge) :
    "transition_func".toList ++ ':' :: valueChars true 0 (.object (edges.map edgeMember)) =
      lineChars (edgeLines edges) := by
  cases edges with
  | nil => rfl
  | cons e edges =>
    rw [List.map_cons, valueChars_map, ← List.map_cons, memberLines_edges]
    simp [edgeLines, lineChars]

/-- The YAML text of a specification, line by line. -/
theorem yamlText_eq (s : Specification) :
    s.yamlText = String.join (s.yamlLines.map (· ++ "\n")) := by
  have hstart : "default_start_state".toList ++
      ':' :: valueChars true 0 (.string s.defaultStart.name) =
      lineChars ["default_start_state: " ++ s.defaultStart.name] := by
    rw [valueChars_string s.defaultStart.name_isWord.writing_eq]
    simp [lineChars]
  have hedges : "transition_func".toList ++
      ':' :: valueChars true 0 (.object (s.edges.map fun e => (e.key.text, _))) = _ :=
        valueChars_edges s.edges
  rw [yamlText, Yaml.text, toJson, blockChars_map,
    memberLines_eq fun m hm => fieldNames_plain m.1 (List.mem_map_of_mem hm), ← ofList_lineChars]
  simp only [List.flatMap_cons, List.flatMap_nil, indentation, List.replicate_zero, List.nil_append,
    valueChars_set Event.name_isWord, valueChars_set Round.name_isWord, hstart, hedges]
  simp only [yamlLines, lineChars, List.flatMap_append, List.append_assoc, List.append_nil]
  rfl

example :
    yamlLines ⟨.ofList [.absent], .reset, .empty, .empty, .ofList [.reset],
      [⟨.reset, .absent, .pullMemes⟩]⟩ =
    ["alphabet_in:", "- NONE", "default_start_state: ResetRound", "final_states: []",
      "start_states: []", "states:",
      "- ResetRound", "transition_func:", "  (ResetRound, NONE): PullMemesRound"] := by
        decide +kernel

/-- A text of one document without a fault is read as its value is. -/
theorem readYaml_of_documents {text : String} {document : Yaml.Document} {s : Specification}
    (hdocuments : Edition.early.documents text = [document]) (hfault : document.fault = none)
    (hvalue : readValue .yaml document.root = .ok s) : readYaml text = .ok s := by
  rw [readYaml, hdocuments]
  simp only [hvalue, hfault]
  rfl

theorem readYaml_yamlText (s : Specification) : readYaml s.yamlText = .ok s := by
  obtain ⟨document, hdocuments, hroot, hfault⟩ := documents_text s.toJson_plain
  exact readYaml_of_documents hdocuments hfault (hroot ▸ readValue_embed Dialect.yaml_embeds s)

/-- A specification is written in lines, empty sets in brackets and keys as they are.  The text is
read as one document whose lists and maps are those of the specification and whose scalars stand for
their text, and so as the specification, its edges in their order. -/
theorem yaml_reloads (s : Specification) :
    s.yamlText = String.join (s.yamlLines.map (· ++ "\n")) ∧
      (∃ document, Edition.early.documents s.yamlText = [document] ∧
        document.root = .ofJson s.toJson ∧
        document.root.Textual ∧ document.fault = none) ∧
      readYaml s.yamlText = .ok s := by
  obtain ⟨document, hdocuments, hroot, hfault⟩ := documents_text s.toJson_plain
  exact ⟨s.yamlText_eq, ⟨document, hdocuments, hroot, hroot ▸ s.toJson_plain.textual, hfault⟩,
    s.readYaml_yamlText⟩

end Specification

end RoundWorkflow
