import RoundWorkflow.Edge

/-!
# Indexes of edges

A table looks its edges up by their keys.  Keys come in the order in which their rounds are
declared, and keys of one round in the order in which their events are.  An `EdgeIndex` keeps edges
in ascending order of their keys.  It has room for one edge of a key: an edge takes the place of
an earlier one with its key.  Edges are looked up one by one, or all with keys between two keys.
-/

namespace RoundWorkflow

/-! ## The order of keys -/

/-- By round and then by event, each in the order of its declaration. -/
instance : LT Key where
  lt k l := k.round.ctorIdx < l.round.ctorIdx ∨ k.round = l.round ∧
    k.event.ctorIdx < l.event.ctorIdx

instance (k l : Key) : Decidable (k < l) :=
  inferInstanceAs (Decidable
    (k.round.ctorIdx < l.round.ctorIdx ∨ k.round = l.round ∧ k.event.ctorIdx < l.event.ctorIdx))

/-- The list of all rounds follows their declaration. -/
theorem Round.getElem?_all (r : Round) : Round.all[r.ctorIdx]? = some r := by cases r <;> rfl

/-- The alphabet follows the declaration of the events. -/
theorem Event.getElem?_all (e : Event) : Event.all[e.ctorIdx]? = some e := by cases e <;> rfl

theorem Round.ascending_all : Round.all.Pairwise fun r r' => r.ctorIdx < r'.ctorIdx := by decide

theorem Event.ascending_all : Event.all.Pairwise fun e e' => e.ctorIdx < e'.ctorIdx := by decide

theorem Round.eq_of_ctorIdx_eq {r r' : Round} (h : r.ctorIdx = r'.ctorIdx) : r = r' :=
  Option.some.inj (r.getElem?_all ▸ h ▸ r'.getElem?_all)

theorem Event.eq_of_ctorIdx_eq {e e' : Event} (h : e.ctorIdx = e'.ctorIdx) : e = e' :=
  Option.some.inj (e.getElem?_all ▸ h ▸ e'.getElem?_all)

namespace Key

variable {k l m : Key}

theorem lt_def : k < l ↔
    k.round.ctorIdx < l.round.ctorIdx ∨ k.round = l.round ∧
    k.event.ctorIdx < l.event.ctorIdx := Iff.rfl

theorem lt_irrefl (k : Key) : ¬k < k := by
  rintro (h | ⟨-, h⟩) <;> exact Nat.lt_irrefl _ h

theorem ne_of_lt (h : k < l) : k ≠ l := fun he => lt_irrefl l (he ▸ h)

theorem lt_trans (h : k < l) (h' : l < m) : k < m := by
  rcases h with h | ⟨hr, h⟩ <;> rcases h' with h' | ⟨hr', h'⟩
  · exact .inl (Nat.lt_trans h h')
  · exact .inl (hr' ▸ h)
  · exact .inl (hr ▸ h')
  · exact .inr ⟨hr.trans hr', Nat.lt_trans h h'⟩

/-- Any two keys are in order one way or the other, or equal. -/
theorem lt_trichotomy (k l : Key) : k < l ∨ k = l ∨ l < k := by
  obtain ⟨r, e⟩ := k
  obtain ⟨r', e'⟩ := l
  rcases Nat.lt_trichotomy r.ctorIdx r'.ctorIdx with hr | hr | hr
  · exact .inl (.inl hr)
  · cases Round.eq_of_ctorIdx_eq hr
    rcases Nat.lt_trichotomy e.ctorIdx e'.ctorIdx with he | he | he
    · exact .inl (.inr ⟨rfl, he⟩)
    · cases Event.eq_of_ctorIdx_eq he
      exact .inr (.inl rfl)
    · exact .inr (.inr (.inr ⟨rfl, he⟩))
  · exact .inr (.inr (.inl hr))

end Key

/-! ## Indexes -/

/-- Edges by their keys. -/
structure EdgeIndex where
  /-- The edges, in ascending order of their keys. -/
  edges : List Edge
  /-- The keys ascend, so no key occurs twice. -/
  ascending : edges.Pairwise fun e f => e.key < f.key

namespace EdgeIndex

/-- The edges with one more, or with one replaced. -/
def insertEdge (e : Edge) : List Edge → List Edge
  | [] => [e]
  | f :: rest =>
    if e.key = f.key then e :: rest
    else if e.key < f.key then e :: f :: rest
    else f :: insertEdge e rest

theorem mem_of_mem_insertEdge {e f : Edge} {edges : List Edge} (h : f ∈ insertEdge e edges) :
    f = e ∨ f ∈ edges := by
  induction edges with
  | nil => exact .inl (List.mem_singleton.mp h)
  | cons g rest ih =>
    rw [insertEdge] at h
    split at h
    · exact (List.mem_cons.mp h).imp_right (List.mem_cons_of_mem g)
    · split at h
      · exact List.mem_cons.mp h
      · rcases List.mem_cons.mp h with rfl | h
        · exact .inr List.mem_cons_self
        · exact (ih h).imp_right (List.mem_cons_of_mem g)

theorem ascending_insertEdge {e : Edge} {edges : List Edge}
    (h : edges.Pairwise fun e f => e.key < f.key) :
    (insertEdge e edges).Pairwise fun e f => e.key < f.key := by
  induction edges with
  | nil => exact List.pairwise_singleton _ e
  | cons g rest ih =>
    obtain ⟨hg, hrest⟩ := List.pairwise_cons.mp h
    rw [insertEdge]
    split
    · rename_i hkey
      exact List.pairwise_cons.mpr ⟨fun f hf => hkey ▸ hg f hf, hrest⟩
    · rename_i hne
      split
      · rename_i hlt
        refine List.pairwise_cons.mpr ⟨fun f hf => ?_, h⟩
        rcases List.mem_cons.mp hf with rfl | hf
        · exact hlt
        · exact Key.lt_trans hlt (hg f hf)
      · rename_i hnot
        have hgt : g.key < e.key :=
          ((Key.lt_trichotomy e.key g.key).resolve_left hnot).resolve_left hne
        refine List.pairwise_cons.mpr ⟨fun f hf => ?_, ih hrest⟩
        rcases mem_of_mem_insertEdge hf with rfl | hf
        · exact hgt
        · exact hg f hf

/-- The index without edges. -/
def empty : EdgeIndex := ⟨[], .nil⟩

/-- The index with an edge, in place of the one that may have had its key. -/
def insert (i : EdgeIndex) (e : Edge) : EdgeIndex :=
  ⟨insertEdge e i.edges, ascending_insertEdge i.ascending⟩

/-- The index of a list of edges; a later one replaces an earlier one with its key. -/
def ofList (edges : List Edge) : EdgeIndex := edges.foldl insert empty

/-- The target of the edge with a key. -/
def get? (i : EdgeIndex) (k : Key) : Option Round :=
  (i.edges.find? fun e => e.key = k).map Edge.target

/-- The edges whose keys are neither before the first nor after the last of two keys, in order. -/
def between (i : EdgeIndex) (first last : Key) : List Edge :=
  i.edges.filter fun e => ¬e.key < first && ¬last < e.key

/-- The number of edges. -/
def size (i : EdgeIndex) : Nat := i.edges.length

end EdgeIndex

end RoundWorkflow
