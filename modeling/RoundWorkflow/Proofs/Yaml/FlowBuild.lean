import RoundWorkflow.Proofs.Yaml.BlockBuild
import RoundWorkflow.Proofs.Yaml.FlowText

/-!
# What is read of a value in brackets

The machine that puts tokens together takes the tokens of a value in brackets, and the node that it
builds is the value again (`Node.ofQuoted`).  A value may come at the beginning of a document, as an
item of a list and after the colon of a member (`Flow.IsDue`).  Wherever it comes, its tokens leave
the machine where the node of the value would (`Phase.filled`), and so a collection that closes
hands its node to what is around it.
-/

namespace RoundWorkflow.Yaml

/-! ## Nodes -/

mutual

/-- The node that the text of a value in brackets is read as. -/
def Node.ofQuoted : Json → Node
  | .string s => .scalar .quoted s none
  | .array items => .sequence (ofQuotedItems items)
  | .object members => .mapping (ofQuotedMembers members)
  | j => .scalar .plain (String.ofList (scalarText 0 j)) none

/-- The nodes of the items of a list. -/
def Node.ofQuotedItems : List Json → List Node
  | [] => []
  | j :: rest => ofQuoted j :: ofQuotedItems rest

/-- The nodes of the members of a map. -/
def Node.ofQuotedMembers : List (String × Json) → List (Node × Node)
  | [] => []
  | (k, j) :: rest => (.scalar .quoted k none, ofQuoted j) :: ofQuotedMembers rest

end

theorem Node.ofQuotedItems_eq_map (items : List Json) :
    ofQuotedItems items = items.map ofQuoted := by
  induction items with
  | nil => rfl
  | cons j items ih => rw [ofQuotedItems, ih, List.map_cons]

theorem Node.ofQuotedMembers_eq_map (members : List (String × Json)) :
    ofQuotedMembers members = members.map fun m => (.scalar .quoted m.1 none, ofQuoted m.2) := by
  induction members with
  | nil => rfl
  | cons m members ih => rw [ofQuotedMembers, ih, List.map_cons]

/-- The phase after a node at a phase where one is due. -/
def Phase.filled (v : Node) : Phase → Phase
  | .inside f outer => .inside (f.attach v) outer
  | _ => .complete v

/-- The collections that are open. -/
def Phase.frames : Phase → List Frame
  | .inside f outer => f :: outer
  | _ => []

namespace Flow

open Build

/-! ## Steps -/

variable {p : Phase} {entries : List (Node × Node)} {key : Node} {outer : List Frame}
  {shape : Shape} {stage : Stage} {s : String}

/-- Where a value in brackets may come. -/
inductive IsDue : Phase → Prop where
  | root : IsDue (.between true)
  | item (entries : List (Node × Node)) (outer : List Frame) :
    IsDue (.inside ⟨.flowList, entries, .element, none⟩ outer)
  | value (entries : List (Node × Node)) (key : Node) (outer : List Frame) :
    IsDue (.inside ⟨.flowMap, entries, .value key, none⟩ outer)

theorem takes_scalar (h : IsDue p) :
    Takes (Stands p) [.scalar .quoted s] (Stands (p.filled (.scalar .quoted s none))) := by
  cases h with
  | root => exact Settled.takes ⟨fun _ _ => rfl, fun _ _ => rfl⟩ fun _ _ _ _ => ⟨_, _, rfl⟩
  | item _ outer | value _ _ outer =>
    exact Settled.takes ⟨fun _ _ => rfl, fun _ _ => rfl⟩ fun _ _ _ _ => by
      cases outer <;> exact ⟨_, _, rfl⟩

/-- The marks of a collection in brackets. -/
def AreMarks (shape : Shape) (l r : Token.Kind) : Prop :=
  shape = .flowList ∧ l = .openList ∧ r = .closeList ∨ shape = .flowMap ∧
    l = .openMap ∧ r = .closeMap

variable {l r : Token.Kind}

theorem takes_open (h : IsDue p) (hmarks : AreMarks shape l r) :
    Takes (Stands p) [l] (Stands (.inside ⟨shape, [], .element, none⟩ p.frames)) := by
  rcases hmarks with ⟨rfl, rfl, -⟩ | ⟨rfl, rfl, -⟩ <;> cases h <;>
    exact Settled.takes ⟨fun _ _ => rfl, fun _ _ => rfl⟩ fun _ _ _ _ => ⟨_, _, rfl⟩

/-- A collection that closes is a node where it was due. -/
theorem close_of_isDue (h : IsDue p) (origin contentOrigin : Option (Nat × Nat)) :
    (first (.inside ⟨shape, entries, stage, none⟩ p.frames) origin contentOrigin).close
      ⟨shape, entries, stage, none⟩
      p.frames = first (p.filled (shape.node entries)) origin contentOrigin := by
  cases h with
  | root => rfl
  | item _ outer | value _ _ outer => cases outer <;> rfl

theorem takes_close (h : IsDue p) (hmarks : AreMarks shape l r)
    (hstage : stage = .element ∨ stage = .after) :
    Takes (Stands (.inside ⟨shape, entries, stage, none⟩ p.frames)) [r]
      (Stands (p.filled (shape.node entries))) := by
  have hsettled : Settled (.inside ⟨shape, entries, stage, none⟩ p.frames) r := by
    rcases hmarks with ⟨rfl, -, rfl⟩ | ⟨rfl, -, rfl⟩ <;> rcases hstage with rfl | rfl <;>
      exact ⟨fun _ _ => rfl, fun _ _ => rfl⟩
  refine hsettled.takes fun _ _ _ _ => ?_
  rcases hmarks with ⟨rfl, -, rfl⟩ | ⟨rfl, -, rfl⟩ <;> rcases hstage with rfl | rfl <;>
    exact ⟨_, _, congrArg Except.ok (close_of_isDue h _ _)⟩

theorem takes_comma (hmarks : AreMarks shape l r) :
    Takes (Stands (.inside ⟨shape, entries, .after, none⟩ outer)) [.comma]
      (Stands (.inside ⟨shape, entries, .element, none⟩ outer)) := by
  rcases hmarks with ⟨rfl, -⟩ | ⟨rfl, -⟩ <;>
    exact Settled.takes ⟨fun _ _ => rfl, fun _ _ => rfl⟩ fun _ _ _ _ => ⟨_, _, rfl⟩

theorem takes_key :
    Takes (Stands (.inside ⟨.flowMap, entries, .element, none⟩ outer)) [.key,
      .scalar .quoted s, .value]
    (Stands (.inside ⟨.flowMap, entries, .value (.scalar .quoted s none), none⟩ outer)) := by
  have hkey : Takes (Stands (.inside ⟨.flowMap, entries, .element, none⟩ outer)) [.key]
      (Stands (.inside ⟨.flowMap, entries, .key, none⟩ outer)) :=
    Settled.takes ⟨fun _ _ => rfl, fun _ _ => rfl⟩ fun _ _ _ _ => ⟨_, _, rfl⟩
  have hscalar : Takes (Stands (.inside ⟨.flowMap, entries, .key, none⟩ outer)) [.scalar .quoted s]
      (Stands (.inside ⟨.flowMap, entries, .colon (.scalar .quoted s none), none⟩ outer)) :=
    Settled.takes ⟨fun _ _ => rfl, fun _ _ => rfl⟩ fun _ _ _ _ => by
      cases outer <;> exact ⟨_, _, rfl⟩
  exact hkey.cons
    (hscalar.cons (Settled.takes ⟨fun _ _ => rfl, fun _ _ => rfl⟩ fun _ _ _ _ => ⟨_, _, rfl⟩))

/-! ## Values -/

/-- Wherever a value may come, its tokens leave the machine where its node would. -/
def Completes (j : Json) : Prop :=
  ∀ p, IsDue p → Takes (Stands p) (flowKinds j) (Stands (p.filled (.ofQuoted j)))

theorem takes_items {j : Json} {items : List Json} (h : ∀ i ∈ j :: items, Completes i) :
    Takes (Stands (.inside ⟨.flowList, entries, .element, none⟩ outer)) (flowItemKinds (j :: items))
      (Stands (.inside ⟨.flowList,
        ((Node.ofQuotedItems (j :: items)).map fun v => (.blank, v)).reverse ++ entries,
        .after, none⟩ outer)) := by
  induction items generalizing j entries with
  | nil => exact h j List.mem_cons_self _ (.item entries outer)
  | cons i items ih =>
    have hj := h j List.mem_cons_self _ (.item entries outer)
    have hrest := fun k hk => h k (List.mem_cons_of_mem _ hk)
    have hall := hj.append ((takes_comma (.inl ⟨rfl, rfl, rfl⟩)).cons (ih hrest))
    simpa [flowItemKinds, Node.ofQuotedItems] using hall

theorem takes_members {m : String × Json} {members : List (String × Json)}
    (h : ∀ n ∈ m :: members, Completes n.2) :
    Takes (Stands (.inside ⟨.flowMap, entries, .element, none⟩ outer))
      (flowMemberKinds (m :: members))
      (Stands (.inside ⟨.flowMap, (Node.ofQuotedMembers (m :: members)).reverse ++ entries, .after,
        none⟩ outer)) := by
  induction members generalizing m entries with
  | nil =>
    exact takes_key.append
      (h m List.mem_cons_self _ (.value entries (.scalar .quoted m.1 none) outer))
  | cons n members ih =>
    have hm :=
      takes_key.append (h m List.mem_cons_self _ (.value entries (.scalar .quoted m.1 none) outer))
    have hrest := fun k hk => h k (List.mem_cons_of_mem _ hk)
    have hall := hm.append ((takes_comma (.inr ⟨rfl, rfl, rfl⟩)).cons (ih hrest))
    simpa [flowMemberKinds, Node.ofQuotedMembers] using hall

theorem node_items (items : List Node) :
    Shape.flowList.node ((items.map fun v => (.blank, v)).reverse ++ []) = .sequence items := by
  simp [Shape.node, Shape.isList, Function.comp_def]

theorem node_members (members : List (Node × Node)) :
    Shape.flowMap.node (members.reverse ++ []) = .mapping members := by
  simp [Shape.node, Shape.isList]

theorem completes_of_quotable {j : Json} (h : Quotable j) : Completes j := by
  induction h with
  | string => exact fun _ hp => takes_scalar hp
  | @list items _ ih =>
    intro p hp
    have hmarks : AreMarks .flowList .openList .closeList := .inl ⟨rfl, rfl, rfl⟩
    cases items with
    | nil => exact (takes_open hp hmarks).cons (takes_close hp hmarks (.inl rfl))
    | cons j items =>
      have hitems : Takes (Stands (.inside ⟨.flowList, [], .element, none⟩ p.frames)) _ _ :=
        takes_items ih
      have hclose := hitems.append (takes_close hp hmarks (.inr rfl))
      rw [node_items] at hclose
      exact (takes_open hp hmarks).cons hclose
  | @map members _ _ ih =>
    intro p hp
    have hmarks : AreMarks .flowMap .openMap .closeMap := .inr ⟨rfl, rfl, rfl⟩
    cases members with
    | nil => exact (takes_open hp hmarks).cons (takes_close hp hmarks (.inl rfl))
    | cons m members =>
      have hmembers : Takes (Stands (.inside ⟨.flowMap, [], .element, none⟩ p.frames)) _ _ :=
        takes_members ih
      have hclose := hmembers.append (takes_close hp hmarks (.inr rfl))
      rw [node_members] at hclose
      exact (takes_open hp hmarks).cons hclose

/-! ## The whole text -/

/-- The JSON text of a value is one document, and what is read of it is the value. -/
theorem documents_pretty {j : Json} (h : Quotable j) :
    ∃ document, Edition.early.documents j.pretty = [document] ∧ document.root = .ofQuoted j ∧
      document.fault = none := by
  obtain ⟨tokens, htokens, hkinds⟩ := tokens_pretty h
  obtain ⟨front, back, rfl, hfront, hback⟩ := List.map_eq_append_iff.mp hkinds
  obtain ⟨⟨_, line, column⟩, rfl, rfl⟩ := List.map_eq_singleton_iff.mp hback
  obtain ⟨b, ⟨origin, contentOrigin, rfl⟩, hrun⟩ :=
    completes_of_quotable h (.between true) .root (.fresh true []) front ⟨_, _, rfl⟩ hfront
  rw [Edition.documents, htokens]
  exact ⟨_, hrun _, rfl, rfl⟩

end Flow

end RoundWorkflow.Yaml
