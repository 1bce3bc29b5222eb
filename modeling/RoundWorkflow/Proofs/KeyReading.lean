import RoundWorkflow.Proofs.KeySpelling

/-!
# How keys are read, and how texts that are none are refused

Three things are asked of a text that is to be a key, one after the other.  When the blanks around
it are gone it stands in parentheses, and there is a comma between them.  What stands before the
first comma is the name of a round, with blanks around it.  What stands after it is the symbol of
an event, with blanks around it.  Only one parenthesis is taken off at each end, and only the first
comma counts, so whatever else there is belongs to one of the sides (`Key.HasSides`).

The first of the three that fails is reported, and what could not be read is quoted: the text as it
is, or a side without its blanks.  The main statement is `Key.parse_exact`.  It says when a text is
read as which key and when it is refused with which error.  The text of a key is read as the key,
so all spellings of a key have one among them that is the text of the key.
-/

namespace RoundWorkflow

open Text (trimmed sameUpToCase)

/-! ## Names -/

theorem Round.parse_eq_error_iff {s : String} {fault : Error} :
    Round.parse s = .error fault ↔ (∀ r : Round, trimmed s ≠ r.name) ∧
      fault = .unknownRound (trimmed s) := by
  simp only [← Round.ofName?_eq_some_iff, Ne, Round.parse]
  cases (Enumeration.ofName? (trimmed s) : Option Round) <;> simp [eq_comm]

theorem Event.symbol_iff_sameUpToCase {s : String} {e : Event} :
    e.Symbol s.toList ↔ sameUpToCase s e.name = true := by
  rw [Event.Symbol, sameUpToCase, decide_eq_true_eq]

theorem Event.parse_eq_error_iff {s : String} {fault : Error} :
    Event.parse s = .error fault ↔
      (∀ e : Event, sameUpToCase (trimmed s) e.name = false) ∧
      fault = .unknownEvent (trimmed s) := by
  simp only [Bool.eq_false_iff, Ne, ← Event.symbol_iff_sameUpToCase,
    ← Event.ofSymbol?_eq_some_iff, Event.parse]
  cases Event.ofSymbol? (trimmed s) <;> simp [eq_comm]

namespace Key

/-! ## The shape of a key -/

/-- Without the blanks around it, the text is another text in parentheses. -/
def Encloses (s inner : String) : Prop := trimmed s = "(" ++ inner ++ ")"

/-- The text is two texts in parentheses, with the first comma between them. -/
def HasSides (s before after : String) : Prop :=
  Encloses s (before ++ "," ++ after) ∧ ',' ∉ before.toList

theorem encloses_iff {s inner : String} :
    Encloses s inner ↔ Text.trim s.toList = '(' :: inner.toList ++ [')'] := by
  rw [Encloses, ← String.toList_inj, trimmed, String.toList_ofList]
  simp

/-- There is only one text between the parentheses. -/
theorem Encloses.unique {s inner inner' : String} (h : Encloses s inner) (h' : Encloses s inner') :
    inner = inner' := by
  have hsame := (encloses_iff.mp h).symm.trans (encloses_iff.mp h')
  exact String.toList_inj.mp (List.append_cancel_right (List.cons.inj hsame).2)

theorem parts?_eq_some_iff_hasSides {s before after : String} :
    parts? s = some (before, after) ↔ HasSides s before after := by
  rw [parts?_eq_some_iff, HasSides, encloses_iff]
  simp

/-- A text has sides unless it has no parentheses around it, or no comma between them. -/
theorem parts?_eq_none_iff {s : String} :
    parts? s = none ↔ (∀ inner, ¬Encloses s inner) ∨ ∃ inner, Encloses s inner ∧
      ',' ∉ inner.toList := by
  have hparts : parts? s = none ↔ ∀ before after, ¬HasSides s before after := by
    simp [Option.eq_none_iff_forall_ne_some, ← parts?_eq_some_iff_hasSides]
  rw [hparts]
  constructor
  · intro hsides
    by_cases henclosed : ∃ inner, Encloses s inner
    · obtain ⟨inner, hinner⟩ := henclosed
      refine .inr ⟨inner, hinner, fun hcomma => ?_⟩
      -- A comma within would leave two sides.
      obtain ⟨before, after, hsplit, hbefore⟩ := List.eq_append_cons_of_mem hcomma
      have hjoined : inner = .ofList before ++ "," ++ .ofList after := by
        rw [← String.toList_inj, hsplit]
        simp
      exact hsides (.ofList before) (.ofList after) ⟨hjoined ▸ hinner,
        by rwa [String.toList_ofList]⟩
    · exact .inl (not_exists.mp henclosed)
  · rintro (hopen | ⟨inner, hinner, hcomma⟩) before after ⟨hsides, -⟩
    · exact hopen _ hsides
    · cases hinner.unique hsides
      simp at hcomma

/-! ## Reading -/

/-- The error of a text is that of its shape, or of its first side, or of its second. -/
theorem parse_eq_error_iff_parts {s : String} {fault : Error} :
    parse s = .error fault ↔
      (parts? s = none ∧ fault = .malformedKey s) ∨
        ∃ before after, parts? s = some (before, after) ∧
          (Round.parse before = .error fault ∨
            ∃ r, Round.parse before = .ok r ∧ Event.parse after = .error fault) := by
  rw [parse]
  cases parts? s with
  | none => simp [eq_comm]
  | some sides =>
    obtain ⟨before, after⟩ := sides
    cases hround : Round.parse before with
    | error roundFault => simp [hround, bind, Except.bind]
    | ok r =>
      cases hevent : Event.parse after with
      | error eventFault => simp [hround, hevent, bind, Except.bind]
      | ok e => simp [hround, hevent, bind, Except.bind, pure, Except.pure]

/-- The text of a key is read as the key. -/
theorem parse_text (k : Key) : parse k.text = .ok k := parse_eq_ok_iff.mpr k.spelledBy_text

theorem text_injective : Function.Injective text := by
  intro k k' htext
  have hsame : Except.ok (ε := Error) k = .ok k' := by rw [← parse_text, ← parse_text, htext]
  exact Except.ok.inj hsame

/-- A text is read as a key just if it has the round of the key and its event for sides.  Otherwise
it is refused, for its shape, for what stands before the comma or for what stands after it,
whichever comes first.  What was read is written as one text, which is read as the same. -/
theorem parse_exact (s : String) :
    (∀ k : Key, parse s = .ok k ↔
      ∃ before after, HasSides s before after ∧ trimmed before = k.round.name ∧
        sameUpToCase (trimmed after) k.event.name = true) ∧
    (∀ fault, parse s = .error fault ↔
      (((∀ inner, ¬Encloses s inner) ∨ ∃ inner, Encloses s inner ∧ ',' ∉ inner.toList) ∧
        fault = .malformedKey s) ∨
      ∃ before after, HasSides s before after ∧
        (((∀ r : Round, trimmed before ≠ r.name) ∧ fault = .unknownRound (trimmed before)) ∨
          (∃ r : Round, trimmed before = r.name) ∧
            (∀ e : Event, sameUpToCase (trimmed after) e.name = false) ∧
            fault = .unknownEvent (trimmed after))) ∧
    (∀ k, parse s = .ok k →
      parse k.text = .ok k ∧ ∀ s' k', parse s' = .ok k' →
      (k'.text = k.text ↔ parse s' = parse s)) := by
  refine ⟨fun k => ?_, fun fault => ?_, fun k hread => ⟨k.parse_text, fun s' k' hread' => ?_⟩⟩
  · simp only [parse_eq_ok_iff_parts, parts?_eq_some_iff_hasSides, Round.parse_eq_ok_iff_trimmed,
      Event.parse_eq_ok_iff_symbol, Event.symbol_iff_sameUpToCase]
  · simp only [parse_eq_error_iff_parts, parts?_eq_none_iff, parts?_eq_some_iff_hasSides,
      Round.parse_eq_error_iff, Round.parse_eq_ok_iff_trimmed, Event.parse_eq_error_iff,
      exists_and_right]
  · rw [hread, hread', Except.ok.injEq, text_injective.eq_iff]

/-- A key with blanks about its names, whose event is in small letters; one with a parenthesis too
many, and one with a comma too many; and one parenthesis alone. -/
theorem parse_spellings :
    parse "\t( FinalizationRound,done\n) " = .ok ⟨.finalization, .done⟩ ∧
      parse "((FinalizationRound, DONE))" = .error (.unknownRound "(FinalizationRound") ∧
      parse "(FinalizationRound, DONE, WAIT)" = .error (.unknownEvent "DONE, WAIT") ∧
      parse " ( " = .error (.malformedKey " ( ") := by
  refine ⟨((parse_exact _).1 _).mpr ⟨" FinalizationRound", "done\n", ⟨rfl, by decide⟩, rfl, rfl⟩,
    ((parse_exact _).2.1 _).mpr
      (.inr ⟨"(FinalizationRound", " DONE)", ⟨rfl, by decide⟩, .inl ⟨?_, rfl⟩⟩),
    ((parse_exact _).2.1 _).mpr
      (.inr ⟨"FinalizationRound", " DONE, WAIT", ⟨rfl, by decide⟩,
        .inr ⟨⟨.finalization, rfl⟩, ?_, rfl⟩⟩),
    ((parse_exact _).2.1 _).mpr (.inl ⟨.inl fun inner henclosed => ?_, rfl⟩)⟩
  · intro r
    cases r <;> decide
  · intro e
    cases e <;> rfl
  · have htrim : Text.trim " ( ".toList = ['('] := rfl
    have hlength := congrArg List.length (htrim.symm.trans (encloses_iff.mp henclosed))
    simp at hlength

end Key

end RoundWorkflow
