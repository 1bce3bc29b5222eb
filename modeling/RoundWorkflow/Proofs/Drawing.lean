import RoundWorkflow.Table.Graphviz
import RoundWorkflow.Proofs.SpecificationText
import RoundWorkflow.Proofs.TransitionLog

/-!
# What a drawing tells of its table

A drawing consists of lines, and a line has its names in quotes.  No line has an end of line in it,
and no name a quote.  So a drawing is taken apart by splitting it at its ends of lines
(`Table.splitOn_dot`), and each line by splitting it at its quotes (`Drawn.splitOn_line`).

What a line was drawn for can be read off its parts: a line of a node has one name, and a line of an
edge has three.  Hence drawings that are equal were drawn for the same nodes and edges
(`Table.drawn_eq_of_dot_eq`).  The nodes are the states.  The edges are those of the index, which
the table looks up, so the drawing determines where every event leads.  Of a start, the shape does
not tell whether it is final.  It is all that the drawing does not tell of its rounds.
-/

namespace RoundWorkflow

/-! ## Lines and their parts -/

/-- Lines that are ended one by one are got back by splitting at the ends. -/
theorem splitOn_ended {α : Type} [DecidableEq α] {x : α} {ls : List (List α)}
    (h : ∀ l ∈ ls, x ∉ l) :
    (ls.flatMap fun l => l ++ [x]).splitOn x = ls ++ [[]] := by
  have hended : (ls.flatMap fun l => l ++ [x]) = [x].intercalate (ls ++ [[]]) := by
    clear h
    induction ls with
    | nil => rfl
    | cons l ls ih =>
      rw [List.flatMap_cons, ih]
      cases ls <;> simp [List.intercalate]
  rw [hended]
  refine List.splitOn_intercalate x ?_ (by simp)
  simpa [or_imp, forall_and] using h

/-- What a drawing has a line for. -/
inductive Drawn where
  | node (r : Round) (shape : String)
  | edge (e : Edge)
  deriving DecidableEq

namespace Drawn

/-- The line, without its end. -/
def line : Drawn → String
  | node r shape => "    \"" ++ r.name ++ "\" [shape=" ++ shape ++ "];"
  | edge e =>
    "    \"" ++ e.source.name ++ "\" -> \"" ++ e.target.name ++ "\" [label=\"" ++
      e.event.name ++ "\"];"

/-- What stands between the quotes of the line. -/
def parts : Drawn → List (List Char)
  | node r shape => ["    ".toList, r.name.toList, " [shape=".toList ++ shape.toList ++ "];".toList]
  | edge e =>
    ["    ".toList, e.source.name.toList, " -> ".toList, e.target.name.toList, " [label=".toList,
      e.event.name.toList,
      "];".toList]

/-- No quote is drawn in quotes, and no end of line is drawn. -/
def Plain : Drawn → Prop
  | node _ shape => '\n' ∉ shape.toList ∧ '"' ∉ shape.toList
  | edge _ => True

end Drawn

theorem plain_of_all {cs : List Char} (h : cs.all (fun c => c != '\n' && c != '"') = true) :
    '\n' ∉ cs ∧ '"' ∉ cs := by
  refine ⟨fun hc => ?_, fun hc => ?_⟩ <;> exact absurd (List.all_eq_true.mp h _ hc) (by decide)

theorem Round.plain_name (r : Round) : '\n' ∉ r.name.toList ∧ '"' ∉ r.name.toList :=
  plain_of_all (by cases r <;> exact Text.all_toList_ofList rfl)

theorem Event.plain_name (e : Event) : '\n' ∉ e.name.toList ∧ '"' ∉ e.name.toList :=
  plain_of_all (by cases e <;> exact Text.all_toList_ofList rfl)

theorem Round.name_injective : Function.Injective Round.name := by
  intro r r' h
  have := Round.ofName?_name r
  rw [show Enumeration.name r = Enumeration.name r' from h, Round.ofName?_name] at this
  exact (Option.some.inj this).symm

theorem Event.name_injective : Function.Injective Event.name := by
  intro e e' h
  have := Event.ofName?_name e
  rw [show Enumeration.name e = Enumeration.name e' from h, Event.ofName?_name] at this
  exact (Option.some.inj this).symm

namespace Drawn

variable {d : Drawn}

theorem newline_not_mem_line (h : d.Plain) : '\n' ∉ d.line.toList := by
  cases d with
  | node r shape => simp [line, r.plain_name, h.1]
  | edge e => simp [line, e.source.plain_name, e.target.plain_name, e.event.plain_name]

theorem splitOn_line (h : d.Plain) : d.line.toList.splitOn '"' = d.parts := by
  have hline : d.line.toList = ['"'].intercalate d.parts := by
    cases d <;> simp [line, parts, List.intercalate]
  rw [hline]
  refine List.splitOn_intercalate '"' ?_ (by cases d <;> simp [parts])
  cases d with
  | node r shape => simp [parts, r.plain_name, h.2]
  | edge e => simp [parts, e.source.plain_name, e.target.plain_name, e.event.plain_name]

theorem parts_injective : Function.Injective parts := by
  intro d d' h
  cases d with
  | node r shape =>
    cases d' with
    | node r' shape' =>
      simp only [parts, List.cons.injEq, List.append_cancel_left_eq, List.append_cancel_right_eq,
        String.toList_inj, true_and, and_true] at h
      rw [Round.name_injective h.1, h.2]
    | edge e => simp [parts] at h
  | edge e =>
    cases d' with
    | node r shape => simp [parts] at h
    | edge e' =>
      obtain ⟨source, event, target⟩ := e
      obtain ⟨source', event', target'⟩ := e'
      simp only [parts, List.cons.injEq, String.toList_inj, true_and, and_true] at h
      obtain ⟨hsource, htarget, hevent⟩ := h
      rw [Round.name_injective hsource, Round.name_injective htarget, Event.name_injective hevent]

end Drawn

/-! ## Drawings -/

namespace Table

variable {t t' : Table} {r : Round}

/-- What a table is drawn from: its states, then its edges. -/
def drawn (t : Table) : List Drawn :=
  t.states.map (fun r => .node r (t.shape r)) ++ t.orderedEdges.map .edge

/-- The lines of a drawing. -/
def lines (t : Table) : List String :=
  ["digraph lockstep \x7b", "    rankdir=LR;"] ++ t.drawn.map Drawn.line ++ ["\x7d"]

theorem plain_of_mem_drawn {d : Drawn} (h : d ∈ t.drawn) : d.Plain := by
  rcases List.mem_append.mp h with h | h
  · obtain ⟨r, -, rfl⟩ := List.mem_map.mp h
    simp only [Drawn.Plain, shape]
    split
    · decide
    · split <;> decide
  · obtain ⟨e, -, rfl⟩ := List.mem_map.mp h
    trivial

theorem toList_nodeLine (t : Table) (r : Round) :
    (t.nodeLine r).toList = (Drawn.node r (t.shape r)).line.toList ++ ['\n'] := by
  simp [nodeLine, Drawn.line]

theorem toList_edgeLine (e : Edge) :
    (edgeLine e).toList = (Drawn.edge e).line.toList ++ ['\n'] := by
  simp [edgeLine, Drawn.line]

theorem toList_dot (t : Table) :
    t.dot.toList = (t.lines.map String.toList).flatMap fun l => l ++ ['\n'] := by
  unfold dot
  simp only [String.toList_append, String.toList_join, List.flatMap_map,
    toList_nodeLine, toList_edgeLine]
  simp only [lines, drawn, List.map_append, List.flatMap_append, List.map_map, List.flatMap_map,
    Function.comp_apply]
  rfl

/-- The drawing is taken apart at its ends of lines. -/
theorem splitOn_dot (t : Table) :
    t.dot.toList.splitOn '\n' = t.lines.map String.toList ++ [[]] := by
  rw [toList_dot]
  refine splitOn_ended ?_
  have hdrawn : ∀ d ∈ t.drawn, '\n' ∉ d.line.toList :=
    fun d hd => Drawn.newline_not_mem_line (plain_of_mem_drawn hd)
  rw [List.forall_mem_map, lines, List.forall_mem_append, List.forall_mem_append,
    List.forall_mem_map]
  exact ⟨⟨by decide, hdrawn⟩, by decide⟩

theorem drawn_eq_of_dot_eq (h : t.dot = t'.dot) : t.drawn = t'.drawn := by
  have hlines : t.drawn.map (fun d => d.line.toList) = t'.drawn.map fun d => d.line.toList := by
    have hsplit := t.splitOn_dot
    rw [h, splitOn_dot] at hsplit
    simpa [lines, Function.comp_def] using hsplit.symm
  have hparts {t : Table} : (t.drawn.map fun d => d.line.toList).map (List.splitOn '"') =
      t.drawn.map Drawn.parts := by
    rw [List.map_map]
    exact List.map_congr_left fun d hd => Drawn.splitOn_line (plain_of_mem_drawn hd)
  refine List.map_injective_iff.mpr Drawn.parts_injective ?_
  rw [← hparts, hlines, hparts]

theorem node_mem_drawn {shape : String} :
    .node r shape ∈ t.drawn ↔ r ∈ t.states ∧ t.shape r = shape := by
  simp [drawn]

theorem edge_mem_drawn {e : Edge} : .edge e ∈ t.drawn ↔ e ∈ t.specification.edges := by
  simp [drawn, orderedEdges, t.perm_index.mem_iff]

/-- A shape tells the starts, and which of the others are final. -/
theorem flags_of_shape_eq (h : t.shape r = t'.shape r) :
    t.isStart r = t'.isStart r ∧ (t.isStart r = false → t.isFinal r = t'.isFinal r) := by
  cases hs : t.isStart r <;> cases hf : t.isFinal r <;> cases hs' : t'.isStart r <;>
    cases hf' : t'.isFinal r <;>
    simp [shape, hs, hf, hs', hf'] at h ⊢

/-- A drawing is the header, a line for every state in the order of the declaration, a line for
every edge in the order of the keys, and the footer.  It determines the states, where every event
leads, and the starts, and of every other round whether it is final. -/
theorem dot_determines (t : Table) :
    (∃ edges : List Edge, edges.Perm t.specification.edges ∧
      (edges.Pairwise fun e f => e.key < f.key) ∧
      (∀ r, r ∈ t.states ↔ r ∈ t.specification.states) ∧
      (t.states.Pairwise fun r r' => r.ctorIdx < r'.ctorIdx) ∧
      t.dot.toList.splitOn '\n' = (["digraph lockstep \x7b", "    rankdir=LR;"] ++
        t.states.map (fun r => (Drawn.node r (t.shape r)).line) ++
          edges.map (fun e => (Drawn.edge e).line) ++
        ["\x7d", ""]).map String.toList) ∧
    ∀ t' : Table, t.dot = t'.dot →
      t.states = t'.states ∧ (∀ r e, t.next r e = t'.next r e) ∧ (∀ r, t.isStart r = t'.isStart r) ∧
        ∀ r, t.isStart r = false → t.isFinal r = t'.isFinal r := by
  constructor
  · refine ⟨t.orderedEdges, t.perm_index, t.index.ascending, fun r => .rfl, ?_, ?_⟩
    · have hascending : (Enumeration.all : List Round).Pairwise fun r r' =>
          r.ctorIdx < r'.ctorIdx := Round.ascending_all
      rw [states, t.specification.states.canonical]
      exact hascending.filter _
    · rw [splitOn_dot]
      simp [lines, drawn, Function.comp_def]
  · intro t' h
    have hdrawn := drawn_eq_of_dot_eq h
    have hnode (r : Round) (shape : String) :
        r ∈ t.states ∧ t.shape r = shape ↔ r ∈ t'.states ∧ t'.shape r = shape := by
      rw [← node_mem_drawn, hdrawn, node_mem_drawn]
    have hstates (r : Round) : r ∈ t.states ↔ r ∈ t'.states :=
      ⟨fun hr => ((hnode r _).mp ⟨hr, rfl⟩).1, fun hr => ((hnode r _).mpr ⟨hr, rfl⟩).1⟩
    have hedge (e : Edge) : e ∈ t.specification.edges ↔ e ∈ t'.specification.edges := by
      rw [← edge_mem_drawn, hdrawn, edge_mem_drawn]
    have hflags (r : Round) : t.isStart r = t'.isStart r ∧
        (t.isStart r = false → t.isFinal r = t'.isFinal r) := by
      by_cases hr : r ∈ t.states
      · exact flags_of_shape_eq ((hnode r _).mp ⟨hr, rfl⟩).2.symm
      · -- Starts and finals are states.
        have hnone {t : Table} (hr : r ∉ t.states) : t.isStart r = false ∧ t.isFinal r = false :=
          ⟨decide_eq_false (mt (t.sensible.starts r) hr),
            decide_eq_false (mt (t.sensible.finals r) hr)⟩
        have hr' := hnone (mt (hstates r).mpr hr)
        rw [(hnone hr).1, (hnone hr).2, hr'.1, hr'.2]
        exact ⟨rfl, fun _ => rfl⟩
    refine ⟨congrArg EnumSet.toList (EnumSet.ext hstates), ?_, fun r => (hflags r).1,
      fun r => (hflags r).2⟩
    intro r e
    cases hnext : t'.next r e with
    | ok r' => exact next_eq_ok_iff.mpr ((hedge _).mpr (next_eq_ok_iff.mp hnext))
    | error fault =>
      obtain ⟨hnone, hfault⟩ := next_eq_error_iff.mp hnext
      exact next_eq_error_iff.mpr ⟨fun r' => mt (hedge _).mp (hnone r'), hfault⟩

/-- The waits, where the pulling of items is also final. -/
def restingWaits : Table where
  specification := { Engine.waits.specification with finals := .ofList [.pullMemes] }
  warnings := Engine.waits.warnings
  valid := by cbv

/-- Whether a start is final makes no difference to the drawing. -/
theorem restingWaits_drawn :
    restingWaits.isFinal .pullMemes ≠ Engine.waits.isFinal .pullMemes ∧
      restingWaits.dot = Engine.waits.dot ∧
      restingWaits.states = Engine.waits.states ∧
      (∀ r e, restingWaits.next r e = Engine.waits.next r e) ∧
      (∀ r, restingWaits.isStart r = Engine.waits.isStart r) ∧
      restingWaits.isFinal .resetAndPause = Engine.waits.isFinal .resetAndPause := by
  have hdot : restingWaits.dot = Engine.waits.dot := rfl
  obtain ⟨hstates, hnext, hstart, hfinal⟩ := restingWaits.dot_determines.2 Engine.waits hdot
  exact ⟨by decide, hdot, hstates, hnext, hstart, hfinal _ (by decide)⟩

end Table

end RoundWorkflow
