import RoundWorkflow.Yaml.Reader
import RoundWorkflow.Proofs.Yaml.BlockText

/-!
# What is read of a value in block style

The machine that puts tokens together takes the tokens of a value that can all stand
without quotes, and the node that it builds is the value again (`Node.ofJson`): every
string is a scalar with its text, every list a list and every map a map, with the
members in their order.

The tokens of one value complete the member they belong to, whatever collections are
open (`Plain.completes`).  By then a list that stands in the column of its key is still
open, for only the next token shows that it is over; so what is said is where the
machine stands once it is settled for that token (`Build.Awaits`).
-/

namespace RoundWorkflow.Yaml

/-! ## Nodes -/

mutual

/-- The node that the text of a value in block style is read as. -/
def Node.ofJson : Json → Node
  | .string s => .scalar .plain s none
  | .array items => .sequence (ofItems items)
  | .object members => .mapping (ofMembers members)
  | j => .scalar .plain (String.ofList (scalarText 0 j)) none

/-- The nodes of the items of a list. -/
def Node.ofItems : List Json → List Node
  | [] => []
  | j :: rest => ofJson j :: ofItems rest

/-- The nodes of the members of a map. -/
def Node.ofMembers : List (String × Json) → List (Node × Node)
  | [] => []
  | (k, j) :: rest => (.scalar .plain k none, ofJson j) :: ofMembers rest

end

theorem Node.ofItems_eq_map (items : List Json) : ofItems items = items.map ofJson := by
  induction items with
  | nil => rfl
  | cons j items ih => rw [ofItems, ih, List.map_cons]

theorem Node.ofMembers_eq_map (members : List (String × Json)) :
    ofMembers members = members.map fun m => (.scalar .plain m.1 none, ofJson m.2) := by
  induction members with
  | nil => rfl
  | cons m members ih => rw [ofMembers, ih, List.map_cons]

/-- A value of which every scalar stands for its text: none is a word for nothing or for a truth
value, and none is a number. -/
inductive Node.Textual : Node → Prop where
  | scalar {s : String} (h : meaning s = .text s) : Textual (.scalar .plain s none)
  | sequence {items : List Node} (h : ∀ n ∈ items, Textual n) : Textual (.sequence items)
  | mapping {entries : List (Node × Node)} (hkey : ∀ e ∈ entries, Textual e.1)
    (h : ∀ e ∈ entries, Textual e.2) :
    Textual (.mapping entries)

theorem textual_of_writing {s : String} (h : writing s = .plain) :
    (Node.scalar .plain s none).Textual := by
  have hmeaning := (isPlain_of_writing h).meaning
  rw [String.ofList_toList] at hmeaning
  exact .scalar hmeaning

theorem Plain.textual {j : Json} (h : Plain j) : (Node.ofJson j).Textual := by
  induction h with
  | string h => exact textual_of_writing h
  | @list names h =>
    rw [Node.ofJson, Node.ofItems_eq_map]
    refine .sequence ?_
    simp only [List.mem_map, forall_exists_index, and_imp, forall_apply_eq_imp_iff₂]
    exact fun s hs => textual_of_writing (h s hs)
  | @map members hkey _ ih =>
    rw [Node.ofJson, Node.ofMembers_eq_map]
    refine .mapping ?_ ?_
    · simp only [List.mem_map, forall_exists_index, and_imp, forall_apply_eq_imp_iff₂]
      exact fun m hm => textual_of_writing (hkey m hm).1
    · simp only [List.mem_map, forall_exists_index, and_imp, forall_apply_eq_imp_iff₂]
      exact ih

namespace Build

/-! ## Taking tokens -/

/-- The machine in the first document of a text without anchors, tags and directives. -/
def first (phase : Phase) (origin contentOrigin : Option (Nat × Nat)) : Build :=
  ⟨phase, none, [], [], [], false, origin, contentOrigin, []⟩

/-- The machine is at a phase of the first document. -/
def Stands (phase : Phase) (b : Build) : Prop :=
  ∃ origin contentOrigin, b = first phase origin contentOrigin

/-- The machine is at a phase once it is settled for the next key or for the end of the map. -/
def Awaits (phase : Phase) (b : Build) : Prop :=
  ∀ t, t = .key ∨ t = .blockEnd → (b.settle .early t).Stands phase

/-- From a state with one property the machine takes tokens of these kinds, and then its state has
another. -/
def Takes (P : Build → Prop) (kinds : List Token.Kind) (Q : Build → Prop) : Prop :=
  ∀ b tokens, P b → tokens.map Token.kind = kinds →
    ∃ b', Q b' ∧ ∀ rest, run .early none b (tokens ++ rest) = run .early none b' rest

variable {P Q R : Build → Prop} {kinds kinds' : List Token.Kind} {kind : Token.Kind} {p q : Phase}

theorem takes_nil : Takes P [] P := by
  intro b tokens hP htokens
  rw [List.map_eq_nil_iff.mp htokens]
  exact ⟨b, hP, fun _ => rfl⟩

theorem Takes.append (h : Takes P kinds Q) (h' : Takes Q kinds' R) :
    Takes P (kinds ++ kinds') R := by
  intro b tokens hP htokens
  obtain ⟨front, back, rfl, hfront, hback⟩ := List.map_eq_append_iff.mp htokens
  obtain ⟨b', hQ, hrun⟩ := h b front hP hfront
  obtain ⟨b'', hR, hrun'⟩ := h' b' back hQ hback
  refine ⟨b'', hR, fun rest => ?_⟩
  rw [List.append_assoc, hrun, hrun']

theorem Takes.cons (h : Takes P [kind] Q) (h' : Takes Q kinds R) : Takes P (kind :: kinds) R :=
  h.append h'

theorem Takes.mono (h : Takes P kinds Q) (hQ : ∀ b, Q b → R b) : Takes P kinds R := by
  intro b tokens hP htokens
  obtain ⟨b', hb', hrun⟩ := h b tokens hP htokens
  exact ⟨b', hQ b' hb', hrun⟩

theorem takes_one
    (h : ∀ b line column, P b → ∃ b', b.step .early ⟨kind, line, column⟩ = .ok b' ∧ Q b') :
    Takes P [kind] Q := by
  intro b tokens hP htokens
  obtain ⟨⟨_, line, column⟩, rfl, rfl⟩ := List.map_eq_singleton_iff.mp htokens
  obtain ⟨b', hstep, hQ⟩ := h b line column hP
  rw [step] at hstep
  refine ⟨b', hQ, fun rest => ?_⟩
  rw [List.singleton_append, run]
  simp only [hstep]

/-- Nothing is blank before a token of a kind, and no list ends there. -/
structure Settled (p : Phase) (kind : Token.Kind) : Prop where
  fill : ∀ o o', (first p o o').fill kind = first p o o'
  leave : ∀ o o', (first p o o').leavePlainLists kind = first p o o'

theorem fillKey_early (b : Build) (t : Token.Kind) : b.fillKey .early t = b := by
  rw [fillKey]
  split <;> rfl

theorem Settled.settle (h : Settled p kind) (o o' : Option (Nat × Nat)) :
    (first p o o').settle .early kind = first p o o' := by
  simp only [Build.settle, h.fill, h.leave, fillKey_early]

/-- A step from a phase. -/
theorem Settled.takes (h : Settled p kind)
    (htake : ∀ o o' line column, ∃ u u', (first p o o').take .early ⟨kind, line,
      column⟩ = .ok (first q u u')) :
    Takes (Stands p) [kind] (Stands q) := by
  refine takes_one fun b line column hb => ?_
  obtain ⟨o, o', rfl⟩ := hb
  obtain ⟨u, u', htake⟩ := htake o o' line column
  exact ⟨_, (congrArg (take .early · _) (h.settle o o')).trans htake, u, u', rfl⟩

/-- A step from a phase for which the machine has to be settled. -/
theorem takes_awaits (hkind : kind = .key ∨ kind = .blockEnd)
    (h : ∀ o o' line column, ∃ u u', (first p o o').take .early ⟨kind, line,
      column⟩ = .ok (first q u u')) :
    Takes (Awaits p) [kind] (Stands q) := by
  refine takes_one fun b line column hb => ?_
  obtain ⟨o, o', hsettle⟩ := hb kind hkind
  obtain ⟨u, u', htake⟩ := h o o' line column
  exact ⟨_, (congrArg (take .early · _) hsettle).trans htake, u, u', rfl⟩

/-! ## Steps -/

variable {entries : List (Node × Node)} {key : Node} {outer : List Frame} {s : String}

/-- Where a member of a map may begin, or the map may end. -/
def inMap (entries : List (Node × Node)) (outer : List Frame) : Phase :=
  .inside ⟨.blockMap, entries, .element, none⟩ outer

/-- A map in which the value of a key is due. -/
def pending (entries : List (Node × Node)) (key : Node) : Frame :=
  ⟨.blockMap, entries, .value key, none⟩

/-- Where the value of a key is due. -/
def atValue (entries : List (Node × Node)) (key : Node) (outer : List Frame) : Phase :=
  .inside (pending entries key) outer

theorem settled_inMap (h : kind = .key ∨ kind = .blockEnd) :
    Settled (inMap entries outer) kind := by
  rcases h with rfl | rfl <;> exact ⟨fun _ _ => rfl, fun _ _ => rfl⟩

theorem awaits_inMap {b : Build} (h : b.Stands (inMap entries outer)) :
    b.Awaits (inMap entries outer) := by
  obtain ⟨o, o', rfl⟩ := h
  exact fun t ht => ⟨o, o', (settled_inMap ht).settle o o'⟩

/-- A key. -/
theorem takes_key : Takes (Awaits (inMap entries outer)) [.key, .scalar .plain s, .value]
    (Stands (atValue entries (.scalar .plain s none) outer)) := by
  have hkey : Takes (Awaits (inMap entries outer)) [.key]
    (Stands (.inside ⟨.blockMap, entries, .key, none⟩ outer)) :=
    takes_awaits (.inl rfl) fun _ _ _ _ => ⟨_, _, rfl⟩
  have hscalar : Takes (Stands (.inside ⟨.blockMap, entries, .key, none⟩ outer)) [.scalar .plain s]
      (Stands (.inside ⟨.blockMap, entries, .colon (.scalar .plain s none), none⟩ outer)) :=
    Settled.takes ⟨fun _ _ => rfl, fun _ _ => rfl⟩ fun _ _ _ _ => by
      cases outer <;> exact ⟨_, _, rfl⟩
  exact hkey.cons
    (hscalar.cons (Settled.takes ⟨fun _ _ => rfl, fun _ _ => rfl⟩ fun _ _ _ _ => ⟨_, _, rfl⟩))

theorem takes_scalar : Takes (Stands (atValue entries key outer)) [.scalar .plain s]
    (Stands (inMap ((key, .scalar .plain s none) :: entries) outer)) :=
  Settled.takes ⟨fun _ _ => rfl, fun _ _ => rfl⟩ fun _ _ _ _ => by cases outer <;> exact ⟨_, _, rfl⟩

/-- An empty collection in brackets. -/
theorem takes_brackets {shape : Shape} {l r : Token.Kind}
    (h : shape = .flowList ∧ l = .openList ∧ r = .closeList ∨ shape = .flowMap ∧ l = .openMap ∧
      r = .closeMap) :
    Takes (Stands (atValue entries key outer)) [l, r]
      (Stands (inMap ((key, shape.node []) :: entries) outer)) := by
  have hopen : Takes (Stands (atValue entries key outer)) [l]
      (Stands (.inside ⟨shape, [], .element, none⟩ (pending entries key :: outer))) := by
    rcases h with ⟨rfl, rfl, -⟩ | ⟨rfl, rfl, -⟩ <;>
      exact Settled.takes ⟨fun _ _ => rfl, fun _ _ => rfl⟩ fun _ _ _ _ => ⟨_, _, rfl⟩
  have hclose : Takes (Stands (.inside ⟨shape, [], .element, none⟩ (pending entries key :: outer)))
      [r]
      (Stands (inMap ((key, shape.node []) :: entries) outer)) := by
    rcases h with ⟨rfl, -, rfl⟩ | ⟨rfl, -, rfl⟩ <;> cases outer <;>
      exact Settled.takes ⟨fun _ _ => rfl, fun _ _ => rfl⟩ fun _ _ _ _ => ⟨_, _, rfl⟩
  exact hopen.cons hclose

/-! ## Lists -/

variable {items : List (Node × Node)}

/-- Where an item of a list in the column of its key may begin, or the list may end. -/
def inList (items entries : List (Node × Node)) (key : Node) (outer : List Frame) : Phase :=
  .inside ⟨.plainList, items, .element, none⟩ (pending entries key :: outer)

/-- Where an item of such a list is due. -/
def atItem (items entries : List (Node × Node)) (key : Node) (outer : List Frame) : Phase :=
  .inside ⟨.plainList, items, .key, none⟩ (pending entries key :: outer)

/-- A list in the column of its key is over before the next key and at the end of the map. -/
theorem awaits_inList {b : Build} (h : b.Stands (inList items entries key outer)) :
    b.Awaits (inMap ((key, Shape.plainList.node items) :: entries) outer) := by
  obtain ⟨o, o', rfl⟩ := h
  intro t ht
  have hfill : (first (inList items entries key outer) o o').fill t =
      first (inList items entries key outer) o o' := by
    rcases ht with rfl | rfl <;> rfl
  have hleave : (first (inList items entries key outer) o o').leavePlainLists t =
      first (inMap ((key, Shape.plainList.node items) :: entries) outer) o o' := by
    rcases ht with rfl | rfl <;> cases outer <;> rfl
  refine ⟨o, o', ?_⟩
  simp only [settle, hfill, hleave, (settled_inMap ht).fill, fillKey_early]

theorem takes_item (h : Takes (Stands p) [.dash] (Stands (atItem items entries key outer))) :
    Takes (Stands p) [.dash, .scalar .plain s]
      (Stands (inList ((.blank, .scalar .plain s none) :: items) entries key outer)) :=
  h.cons (Settled.takes ⟨fun _ _ => rfl, fun _ _ => rfl⟩ fun _ _ _ _ => ⟨_, _, rfl⟩)

theorem takes_items (names : List String) :
    Takes (Stands (inList items entries key outer)) (itemKinds (names.map .string))
      (Stands (inList ((names.map fun s => (.blank, .scalar .plain s none)).reverse ++ items)
        entries key outer)) := by
  induction names generalizing items with
  | nil => exact takes_nil
  | cons s names ih =>
    have hdash : Takes (Stands (inList items entries key outer)) [.dash]
      (Stands (atItem items entries key outer)) :=
      Settled.takes ⟨fun _ _ => rfl, fun _ _ => rfl⟩ fun _ _ _ _ => ⟨_, _, rfl⟩
    have hrest := (takes_item (s := s) hdash).append ih
    simpa [itemKinds, blockKinds] using hrest

theorem ofJson_names (names : List String) : Node.ofJson (.array (names.map .string)) =
    Shape.plainList.node (names.map fun s => (.blank, .scalar .plain s none)).reverse := by
  rw [Node.ofJson, Node.ofItems_eq_map]
  simp [Shape.node, Shape.isList, Function.comp_def, Node.ofJson]

theorem takes_list (s : String) (names : List String) :
    Takes (Stands (atValue entries key outer)) (itemKinds ((s :: names).map .string))
      (Awaits (inMap ((key, .ofJson (.array ((s :: names).map .string))) :: entries) outer)) := by
  have hdash : Takes (Stands (atValue entries key outer)) [.dash]
    (Stands (atItem [] entries key outer)) :=
    Settled.takes ⟨fun _ _ => rfl, fun _ _ => rfl⟩ fun _ _ _ _ => ⟨_, _, rfl⟩
  have hitems := (takes_item (s := s) hdash).append (takes_items names)
  rw [ofJson_names]
  refine Takes.mono ?_ fun b => awaits_inList
  simpa [itemKinds, blockKinds] using hitems

/-! ## Maps -/

/-- In any map, the tokens of a value complete the member whose key is read. -/
def Completes (j : Json) : Prop :=
  ∀ entries key outer, Takes (Stands (atValue entries key outer)) (blockKinds j)
    (Awaits (inMap ((key, .ofJson j) :: entries) outer))

theorem takes_members {members : List (String × Json)} (h : ∀ m ∈ members, Completes m.2) :
    Takes (Awaits (inMap entries outer)) (memberKinds members)
      (Awaits (inMap ((Node.ofMembers members).reverse ++ entries) outer)) := by
  induction members generalizing entries with
  | nil => exact takes_nil
  | cons m members ih =>
    obtain ⟨k, j⟩ := m
    have hmember := takes_key.append (h _ List.mem_cons_self entries (.scalar .plain k none) outer)
    have hmembers := hmember.append (ih fun m hm => h m (List.mem_cons_of_mem _ hm))
    simpa [memberKinds, Node.ofMembers] using hmembers

/-- The tokens of a map lead from its beginning to where its end leads. -/
theorem takes_map {members : List (String × Json)} (h : ∀ m ∈ members, Completes m.2)
    (hbegin : Takes P [.blockMap] (Stands (inMap [] outer)))
    (hend : Takes (Awaits (inMap (Node.ofMembers members).reverse outer)) [.blockEnd] Q) :
    Takes P (.blockMap :: (memberKinds members ++ [.blockEnd])) Q := by
  have hmembers : Takes (Awaits (inMap [] outer)) _ _ := takes_members h
  rw [List.append_nil] at hmembers
  exact (hbegin.mono fun _ => awaits_inMap).cons (hmembers.append hend)

end Build

open Build

theorem Plain.completes {j : Json} (h : Plain j) : Completes j := by
  induction h with
  | string => exact fun _ _ _ => takes_scalar.mono fun _ => awaits_inMap
  | @list names =>
    intro entries key outer
    cases names with
    | nil => exact (takes_brackets (.inl ⟨rfl, rfl, rfl⟩)).mono fun _ => awaits_inMap
    | cons s names => exact takes_list s names
  | @map members _ _ ih =>
    intro entries key outer
    cases members with
    | nil => exact (takes_brackets (.inr ⟨rfl, rfl, rfl⟩)).mono fun _ => awaits_inMap
    | cons m members =>
      have hbegin : Takes (Stands (atValue entries key outer)) [.blockMap]
          (Stands (inMap [] (pending entries key :: outer))) :=
        Settled.takes ⟨fun _ _ => rfl, fun _ _ => rfl⟩ fun _ _ _ _ => ⟨_, _, rfl⟩
      have hend : Takes (Awaits (inMap (Node.ofMembers (m :: members)).reverse
            (pending entries key :: outer))) [.blockEnd]
          (Stands
            (inMap ((key, Shape.blockMap.node (Node.ofMembers (m :: members)).reverse) :: entries)
              outer)) :=
        takes_awaits (.inr rfl) fun _ _ _ _ => by cases outer <;> exact ⟨_, _, rfl⟩
      have hmap := (takes_map ih hbegin hend).mono fun _ => awaits_inMap
      rw [Shape.node, if_neg nofun, List.reverse_reverse] at hmap
      exact hmap

/-! ## The whole text -/

/-- The text of a map is one document, and what is read of it is the map. -/
theorem documents_text {m : String × Json} {members : List (String × Json)}
    (h : Plain (.object (m :: members))) :
    ∃ document, Edition.early.documents (text (.object (m :: members))) = [document] ∧
      document.root = .ofJson (.object (m :: members)) ∧ document.fault = none := by
  obtain ⟨tokens, htokens, hkinds⟩ := tokens_text h
  have hmembers : ∀ m' ∈ m :: members, Completes m'.2 := by
    cases h with
    | map _ h => exact fun m' hm' => (h m' hm').completes
  have hbegin : Takes (Stands (.between true)) [.blockMap] (Stands (inMap [] [])) :=
    Settled.takes ⟨fun _ _ => rfl, fun _ _ => rfl⟩ fun _ _ _ _ => ⟨_, _, rfl⟩
  have hend : Takes (Awaits (inMap (Node.ofMembers (m :: members)).reverse [])) [.blockEnd]
      (Stands (.complete (Shape.blockMap.node (Node.ofMembers (m :: members)).reverse))) :=
    takes_awaits (.inr rfl) fun _ _ _ _ => ⟨_, _, rfl⟩
  obtain ⟨front, back, rfl, hfront, hback⟩ := List.map_eq_append_iff.mp hkinds
  obtain ⟨⟨_, line, column⟩, rfl, rfl⟩ := List.map_eq_singleton_iff.mp hback
  obtain ⟨b, ⟨o, o', rfl⟩, hrun⟩ :=
    takes_map hmembers hbegin hend (.fresh true []) front ⟨_, _, rfl⟩ hfront
  rw [Edition.documents, htokens]
  refine ⟨_, hrun _, ?_, rfl⟩
  change Shape.blockMap.node _ = _
  rw [Shape.node, if_neg nofun, List.reverse_reverse]
  rfl

end RoundWorkflow.Yaml
