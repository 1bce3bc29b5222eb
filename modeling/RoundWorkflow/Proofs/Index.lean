import RoundWorkflow.Table.Index
import RoundWorkflow.Dict
import Mathlib.Data.List.Induction

/-!
# What an index holds

An index is a matter of which edges there are: two indexes with the same edges are equal
(`EdgeIndex.eq_of_perm`), and what is found for a key is the target of the edge that has it
(`EdgeIndex.get?_eq_some_iff`).  Of edges with distinct keys it loses none
(`EdgeIndex.perm_ofList`).  The keys between the first and the last event of a round are the keys
of that round (`EdgeIndex.mem_between_iff`), because no event comes before the first of the
alphabet or after the last.
-/

namespace RoundWorkflow

theorem Event.first_ctorIdx_le (e : Event) : Event.first.ctorIdx ≤ e.ctorIdx := by
  cases e <;> decide

theorem Event.ctorIdx_le_last (e : Event) : e.ctorIdx ≤ Event.last.ctorIdx := by cases e <;> decide

/-- The keys of a round are those between its keys with the first and with the last event. -/
theorem Key.between_iff {k : Key} {r : Round} :
    ¬k < ⟨r, .first⟩ ∧ ¬⟨r, .last⟩ < k ↔ k.round = r := by
  have hfirst := k.event.first_ctorIdx_le
  have hlast := k.event.ctorIdx_le_last
  rw [Key.lt_def, Key.lt_def]
  constructor
  · rintro ⟨hlow, hhigh⟩
    refine Round.eq_of_ctorIdx_eq ?_
    dsimp only at hlow hhigh
    omega
  · rintro rfl
    dsimp only
    omega

namespace EdgeIndex

variable {i j : EdgeIndex} {e : Edge} {r : Round}

/-! ## Looking up -/

theorem key_ne (i : EdgeIndex) : i.edges.Pairwise fun e f => e.key ≠ f.key :=
  i.ascending.imp Key.ne_of_lt

/-- What is found is the target of the edge with the key. -/
theorem get?_eq_some_iff {k : Key} : i.get? k = some r ↔ ⟨k.round, k.event, r⟩ ∈ i.edges := by
  rw [get?, Option.map_eq_some_iff]
  constructor
  · rintro ⟨edge, hfind, rfl⟩
    obtain ⟨hedge, rfl⟩ := (find?_key_eq_some_iff i.key_ne).mp hfind
    exact hedge
  · exact fun hedge => ⟨_, (find?_key_eq_some_iff i.key_ne).mpr ⟨hedge, rfl⟩, rfl⟩

/-- The edges between the keys of a round with the first and the last event are those that leave the
round. -/
theorem between_eq_filter (i : EdgeIndex) (r : Round) :
    i.between ⟨r, .first⟩ ⟨r, .last⟩ = i.edges.filter fun e => e.source = r := by
  refine List.filter_congr fun e _ => ?_
  rw [← Bool.decide_and]
  exact decide_eq_decide.mpr Key.between_iff

/-! ## Which edges there are -/

/-- An index is determined by its edges, in whatever order they are given. -/
theorem eq_of_perm (h : i.edges.Perm j.edges) : i = j := by
  have hedges : i.edges = j.edges := by
    refine h.eq_of_pairwise (fun e f _ _ hef hfe => ?_) i.ascending j.ascending
    exact absurd (Key.lt_trans hef hfe) (Key.lt_irrefl _)
  cases i
  cases j
  cases hedges
  rfl

/-- An edge with a new key joins the others. -/
theorem perm_insertEdge {edges : List Edge} (h : ∀ f ∈ edges, f.key ≠ e.key) :
    (insertEdge e edges).Perm (e :: edges) := by
  induction edges with
  | nil => exact .refl _
  | cons g rest ih =>
    obtain ⟨hg, hrest⟩ := List.forall_mem_cons.mp h
    rw [insertEdge, if_neg (Ne.symm hg)]
    split
    · exact .refl _
    · exact ((ih hrest).cons g).trans (.swap e g rest)

theorem ofList_concat (edges : List Edge) (e : Edge) :
    ofList (edges ++ [e]) = (ofList edges).insert e := by
  rw [ofList, List.foldl_append]
  rfl

/-- Edges with distinct keys are all kept. -/
theorem perm_ofList {edges : List Edge} (h : edges.Pairwise fun e f => e.key ≠ f.key) :
    (ofList edges).edges.Perm edges := by
  induction edges using List.reverseRecOn with
  | nil => exact .refl _
  | append_singleton edges e ih =>
    obtain ⟨hedges, -, hlast⟩ := List.pairwise_append.mp h
    have hperm := ih hedges
    rw [ofList_concat]
    refine (perm_insertEdge fun f hf => ?_).trans
      ((hperm.cons e).trans (List.perm_append_singleton e edges).symm)
    exact hlast f (hperm.mem_iff.mp hf) e List.mem_cons_self

end EdgeIndex

end RoundWorkflow
