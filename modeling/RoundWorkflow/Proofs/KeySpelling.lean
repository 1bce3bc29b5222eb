import RoundWorkflow.Symbol
import Mathlib.Data.List.DropRight

/-!
# How names and keys may be spelled

A reader of names trims first, so a name may have blanks around it, and nothing else:
what is left of a text is a name exactly if the text is the name, padded (`trim_eq_iff`).
A round has one name.  An event has its symbol in any case of the letters.

A key is a round and an event with a comma between them, each padded, in parentheses
that are padded too.  No name of a round has a comma in it, so the first comma is the
one between the two.  `Key.SpelledBy` lists the spellings of a key, and
`Key.parse_eq_ok_iff` says that these are the texts that are read as the key.  So two
texts are the same key just if they are spellings of it, however they differ.
-/

namespace RoundWorkflow

/-! ## Reading that can fail -/

/-- Steps in turn succeed if the first does and then the rest does. -/
theorem bind_eq_ok_iff {ε α β : Type} {x : Except ε α} {f : α → Except ε β} {b : β} :
    (x >>= f) = .ok b ↔ ∃ a, x = .ok a ∧ f a = .ok b := by
  constructor
  · intro h
    cases x with
    | error fault => cases h
    | ok a => exact ⟨a, rfl, h⟩
  · rintro ⟨a, rfl, h⟩
    exact h

theorem mapError_eq_ok_iff {ε ε' α : Type} {x : Except ε α} {f : ε → ε'} {a : α} :
    x.mapError f = .ok a ↔ x = .ok a := by
  cases x <;> simp [Except.mapError]

namespace Text

/-! ## Blanks around a text -/

/-- Characters with any number of blanks on either side. -/
def Padded (inner cs : List Char) : Prop :=
  ∃ before after, (∀ c ∈ before, isBlank c = true) ∧ (∀ c ∈ after, isBlank c = true) ∧
    cs = before ++ inner ++ after

/-- Characters that neither begin nor end with a blank. -/
structure Bare (cs : List Char) : Prop where
  head : ∀ c ∈ cs.head?, isBlank c = false
  last : ∀ c ∈ cs.getLast?, isBlank c = false

theorem bare_of_forall {cs : List Char} (h : ∀ c ∈ cs, isBlank c = false) : Bare cs where
  head c hc := h c (List.mem_of_mem_head? hc)
  last c hc := h c (List.mem_of_getLast? hc)

theorem padded_trim (cs : List Char) : Padded (trim cs) cs := by
  refine ⟨cs.takeWhile isBlank, (cs.dropWhile isBlank).rtakeWhile isBlank,
    fun c hc => List.mem_takeWhile_imp hc,
    fun c hc => List.mem_rtakeWhile_imp hc, ?_⟩
  change cs = cs.takeWhile isBlank ++ (cs.dropWhile isBlank).rdropWhile isBlank ++ _
  rw [List.append_assoc, List.rdropWhile_append_rtakeWhile, List.takeWhile_append_dropWhile]

theorem bare_trim (cs : List Char) : Bare (trim cs) where
  head c hc := by
    have hprefix : trim cs <+: cs.dropWhile isBlank := List.rdropWhile_prefix isBlank _
    have hhead : (cs.dropWhile isBlank).head? = some c := by
      obtain ⟨rest, hrest⟩ := hprefix
      rw [← hrest, List.head?_append, Option.mem_def.mp hc]
      rfl
    have hnot := List.head?_dropWhile_not isBlank cs
    rw [hhead] at hnot
    exact hnot
  last c hc := by
    obtain ⟨hne, hlast⟩ := List.mem_getLast?_eq_getLast hc
    have hnot := List.rdropWhile_last_not isBlank (cs.dropWhile isBlank) hne
    rw [hlast]
    exact Bool.eq_false_iff.mpr hnot

theorem dropWhile_blanks {before rest : List Char} (hbefore : ∀ c ∈ before, isBlank c = true)
    (hrest : ∀ c ∈ rest.head?, isBlank c = false) : (before ++ rest).dropWhile isBlank = rest := by
  rw [List.dropWhile_append_of_pos hbefore]
  cases rest with
  | nil => rfl
  | cons c rest => exact List.dropWhile_cons_of_neg (Bool.eq_false_iff.mp (hrest c rfl))

theorem trim_of_padded {inner cs : List Char} (hbare : Bare inner) (h : Padded inner cs) :
    trim cs = inner := by
  obtain ⟨before, after, hbefore, hafter, rfl⟩ := h
  cases inner with
  | nil =>
    have hblank : (before ++ [] ++ after).dropWhile isBlank = [] := by
      rw [List.append_nil, List.dropWhile_append_of_pos hbefore, List.dropWhile_eq_nil_iff]
      exact hafter
    rw [trim, hblank]
    rfl
  | cons first rest =>
    have hleft : (before ++ (first :: rest ++ after)).dropWhile isBlank = first ::
        rest ++ after := by
      refine dropWhile_blanks hbefore fun c hc => ?_
      cases hc
      exact hbare.head first rfl
    have hright : (after.reverse ++ (first :: rest).reverse).dropWhile isBlank =
        (first :: rest).reverse := by
      refine dropWhile_blanks (fun c hc => hafter c (List.mem_reverse.mp hc)) fun c hc => ?_
      rw [List.head?_reverse] at hc
      exact hbare.last c hc
    rw [trim, List.append_assoc, hleft, trimRight, List.reverse_append, hright,
      List.reverse_reverse]

/-- Trimming leaves a text just if it was the text, padded. -/
theorem trim_eq_iff {cs inner : List Char} : trim cs = inner ↔ Bare inner ∧ Padded inner cs := by
  constructor
  · rintro rfl
    exact ⟨bare_trim cs, padded_trim cs⟩
  · rintro ⟨hbare, hpadded⟩
    exact trim_of_padded hbare hpadded

/-- No blank is a capital letter. -/
theorem isBlank_toLower {c : Char} (h : isBlank c = true) : isBlank c.toLower = true := by
  have hcapital : ¬(c.val ≥ 'A'.val ∧ c.val ≤ 'Z'.val) := by
    rintro ⟨hlow, hhigh⟩
    have hlow' : 65 ≤ c.toNat := UInt32.le_iff_toNat_le.mp hlow
    have hhigh' : c.toNat ≤ 90 := UInt32.le_iff_toNat_le.mp hhigh
    simp only [isBlank, blankRanges, List.any_cons, List.any_nil, Bool.or_eq_true, Bool.and_eq_true,
      decide_eq_true_eq, Bool.false_eq_true, or_false] at h
    omega
  have hsame : c.toLower = c := dif_neg hcapital
  rw [hsame]
  exact h

/-- The case of the letters does not decide whether a text has blanks at its ends. -/
theorem bare_of_foldCase {cs name : List Char} (h : foldCase cs = foldCase name)
    (hname : ∀ c ∈ foldCase name, isBlank c = false) : Bare cs := by
  refine bare_of_forall fun c hc => ?_
  rw [Bool.eq_false_iff]
  intro hblank
  have hmem : c.toLower ∈ foldCase name := h ▸ List.mem_map_of_mem hc
  cases (hname _ hmem).symm.trans (isBlank_toLower hblank)

/-- Trimming leaves a name, up to the case of letters, just if the text was a spelling of the name,
padded. -/
theorem foldCase_trim_eq_iff {cs name : List Char}
    (hname : ∀ c ∈ foldCase name, isBlank c = false) :
    foldCase (trim cs) = foldCase name ↔ ∃ spelling, foldCase spelling = foldCase name ∧
      Padded spelling cs := by
  constructor
  · intro h
    exact ⟨_, h, padded_trim cs⟩
  · rintro ⟨spelling, hspelling, hpadded⟩
    rw [trim_of_padded (bare_of_foldCase hspelling hname) hpadded]
    exact hspelling

/-- The characters of a literal are checked as a list. -/
theorem all_toList_ofList {p : Char → Bool} {cs : List Char} (h : cs.all p = true) :
    (String.ofList cs).toList.all p = true := by
  rwa [String.toList_ofList]

end Text

open Text (Padded Bare foldCase)

/-! ## Names -/

theorem Round.name_plain (r : Round) : ∀ c ∈ r.name.toList, Text.isBlank c = false ∧ c ≠ ',' := by
  have h : r.name.toList.all (fun c => !Text.isBlank c && c != ',') = true := by
    cases r <;> exact Text.all_toList_ofList rfl
  simpa only [List.all_eq_true, Bool.and_eq_true, Bool.not_eq_true', bne_iff_ne] using h

/-- No text that is read as a round has a comma in it. -/
theorem Round.comma_not_mem {r : Round} {cs : List Char} (h : Padded r.name.toList cs) :
    ',' ∉ cs := by
  obtain ⟨before, after, hbefore, hafter, rfl⟩ := h
  have hcomma : Text.isBlank ',' = false := by decide
  rw [List.mem_append, List.mem_append]
  rintro ((hmem | hmem) | hmem)
  · cases hcomma.symm.trans (hbefore _ hmem)
  · exact (r.name_plain _ hmem).2 rfl
  · cases hcomma.symm.trans (hafter _ hmem)

theorem Round.ofName?_eq_some_iff {s : String} {r : Round} :
    (Enumeration.ofName? s : Option Round) = some r ↔ s = r.name := by
  constructor
  · intro h
    rw [Enumeration.ofName?] at h
    have hname := List.find?_some h
    exact (of_decide_eq_true hname).symm
  · rintro rfl
    cases r <;> rfl

theorem Round.parse_eq_ok_iff_trimmed {s : String} {r : Round} :
    Round.parse s = .ok r ↔ Text.trimmed s = r.name := by
  rw [← Round.ofName?_eq_some_iff, Round.parse]
  cases (Enumeration.ofName? (Text.trimmed s) : Option Round) <;> simp

/-- The texts that are read as a round. -/
theorem Round.parse_eq_ok_iff {s : String} {r : Round} :
    Round.parse s = .ok r ↔ Padded r.name.toList s.toList := by
  have hbare : Bare r.name.toList := Text.bare_of_forall fun c hc => (r.name_plain c hc).1
  rw [Round.parse_eq_ok_iff_trimmed, Text.trimmed, ← String.toList_inj,
    String.toList_ofList, Text.trim_eq_iff]
  exact and_iff_right hbare

/-- Characters that are the symbol of an event, up to the case of letters. -/
def Event.Symbol (e : Event) (cs : List Char) : Prop := foldCase cs = foldCase e.name.toList

theorem Event.foldCase_name_plain (e : Event) :
    ∀ c ∈ foldCase e.name.toList, Text.isBlank c = false := by
  have h : e.name.toList.all (fun c => !Text.isBlank c.toLower) = true := by
    cases e <;> exact Text.all_toList_ofList rfl
  simpa only [foldCase, List.forall_mem_map, List.all_eq_true, Bool.not_eq_true'] using h

/-- The symbols of two events differ by more than the case of letters. -/
theorem Event.pairwise_foldCase_name :
    Event.all.Pairwise fun e f => foldCase e.name.toList ≠ foldCase f.name.toList := by
      decide +kernel

theorem Event.ofSymbol?_eq_some_iff {s : String} {e : Event} :
    Event.ofSymbol? s = some e ↔ e.Symbol s.toList := by
  have hread : Event.ofSymbol? s = some e ↔ foldCase e.name.toList = foldCase s.toList :=
    (find?_key_eq_some_iff Event.pairwise_foldCase_name).trans
      (and_iff_right (Enumeration.mem_all e))
  rw [hread, eq_comm, Event.Symbol]

theorem Event.parse_eq_ok_iff_symbol {s : String} {e : Event} :
    Event.parse s = .ok e ↔ e.Symbol (Text.trimmed s).toList := by
  rw [← Event.ofSymbol?_eq_some_iff, Event.parse]
  cases Event.ofSymbol? (Text.trimmed s) <;> simp

/-- The texts that are read as an event. -/
theorem Event.parse_eq_ok_iff {s : String} {e : Event} :
    Event.parse s = .ok e ↔ ∃ symbol, e.Symbol symbol ∧ Padded symbol s.toList := by
  rw [Event.parse_eq_ok_iff_symbol, Text.trimmed, String.toList_ofList]
  exact Text.foldCase_trim_eq_iff e.foldCase_name_plain

/-! ## Keys -/

/-- A text spells a key: a round and an event, each padded, with a comma between them, in
parentheses that are padded too. -/
def Key.SpelledBy (k : Key) (s : String) : Prop :=
  ∃ round event symbol, Padded k.round.name.toList round ∧ k.event.Symbol symbol ∧
    Padded symbol event ∧
    Padded ('(' :: (round ++ ',' :: event) ++ [')']) s.toList

theorem Key.inside?_eq_some_iff {cs inner : List Char} :
    Key.inside? cs = some inner ↔ cs = '(' :: inner ++ [')'] := by
  constructor
  · intro h
    unfold Key.inside? at h
    split at h
    · rename_i rest
      split at h
      · rename_i reversed hreverse
        cases h
        rw [List.reverse_eq_iff] at hreverse
        rw [hreverse, List.reverse_cons]
        rfl
      · cases h
    · cases h
  · rintro rfl
    unfold Key.inside?
    simp only [List.cons_append, List.reverse_append, List.reverse_singleton, List.nil_append,
      List.reverse_reverse]

theorem Key.splitComma?_eq_some_iff {cs before after : List Char} :
    Key.splitComma? cs = some (before, after) ↔ cs = before ++ ',' :: after ∧ ',' ∉ before := by
  constructor
  · intro h
    rw [Key.splitComma?] at h
    split at h
    · rename_i c after' hdrop
      cases h
      -- What stops the search is a comma.
      have hcomma := List.head?_dropWhile_not (fun c => decide (c ≠ ',')) cs
      rw [hdrop] at hcomma
      have hc : c = ',' := Decidable.of_not_not (of_decide_eq_false hcomma)
      subst hc
      constructor
      · rw [← hdrop, List.takeWhile_append_dropWhile]
      · intro hmem
        have hne := List.mem_takeWhile_imp hmem
        exact of_decide_eq_true hne rfl
    · cases h
  · rintro ⟨rfl, hcomma⟩
    have hbefore : ∀ c ∈ before, decide (c ≠ ',') = true :=
      fun c hc => decide_eq_true fun hc' => hcomma (hc' ▸ hc)
    rw [Key.splitComma?, List.dropWhile_append_of_pos hbefore, List.takeWhile_append_of_pos hbefore]
    simp

theorem Key.parts?_eq_some_iff {s round event : String} :
    Key.parts? s = some (round, event) ↔
      Text.trim s.toList = '(' :: (round.toList ++ ',' :: event.toList) ++ [')'] ∧
      ',' ∉ round.toList := by
  rw [Key.parts?, Option.map_eq_some_iff]
  constructor
  · rintro ⟨⟨before, after⟩, hsplit, hparts⟩
    obtain ⟨inner, hinside, hsplit⟩ := Option.bind_eq_some_iff.mp hsplit
    obtain ⟨rfl, hcomma⟩ := Key.splitComma?_eq_some_iff.mp hsplit
    cases hparts
    rw [String.toList_ofList, String.toList_ofList]
    exact ⟨Key.inside?_eq_some_iff.mp hinside, hcomma⟩
  · rintro ⟨hinside, hcomma⟩
    refine ⟨(round.toList, event.toList), ?_, ?_⟩
    · exact Option.bind_eq_some_iff.mpr
        ⟨_, Key.inside?_eq_some_iff.mpr hinside, Key.splitComma?_eq_some_iff.mpr ⟨rfl, hcomma⟩⟩
    · rw [String.ofList_toList, String.ofList_toList]

/-- A key is read from its two sides. -/
theorem Key.parse_eq_ok_iff_parts {s : String} {k : Key} :
    Key.parse s = .ok k ↔
      ∃ round event, Key.parts? s = some (round, event) ∧ Round.parse round = .ok k.round ∧
        Event.parse event = .ok k.event := by
  rw [Key.parse]
  cases Key.parts? s with
  | none => simp
  | some sides =>
    obtain ⟨round, event⟩ := sides
    dsimp only
    rw [bind_eq_ok_iff]
    constructor
    · rintro ⟨r, hround, h⟩
      obtain ⟨e, hevent, h⟩ := bind_eq_ok_iff.mp h
      cases h
      exact ⟨round, event, rfl, hround, hevent⟩
    · rintro ⟨_, _, hsides, hround, hevent⟩
      cases hsides
      exact ⟨k.round, hround, bind_eq_ok_iff.mpr ⟨k.event, hevent, rfl⟩⟩

/-- The texts that are read as a key. -/
theorem Key.parse_eq_ok_iff {s : String} {k : Key} : Key.parse s = .ok k ↔ k.SpelledBy s := by
  rw [Key.parse_eq_ok_iff_parts]
  constructor
  · rintro ⟨round, event, hparts, hround, hevent⟩
    obtain ⟨hinside, -⟩ := Key.parts?_eq_some_iff.mp hparts
    obtain ⟨symbol, hsymbol, hpadded⟩ := Event.parse_eq_ok_iff.mp hevent
    refine ⟨round.toList, event.toList, symbol, Round.parse_eq_ok_iff.mp hround,
      hsymbol, hpadded, ?_⟩
    rw [← hinside]
    exact Text.padded_trim s.toList
  · rintro ⟨round, event, symbol, hround, hsymbol, hevent, hpadded⟩
    refine ⟨.ofList round, .ofList event, ?_, ?_, ?_⟩
    · rw [Key.parts?_eq_some_iff, String.toList_ofList, String.toList_ofList]
      constructor
      · refine Text.trim_of_padded ⟨fun c hc => ?_, fun c hc => ?_⟩ hpadded
        · cases hc
          decide
        · rw [List.getLast?_concat] at hc
          cases hc
          decide
      · exact Round.comma_not_mem hround
    · rw [Round.parse_eq_ok_iff, String.toList_ofList]
      exact hround
    · rw [Event.parse_eq_ok_iff, String.toList_ofList]
      exact ⟨symbol, hsymbol, hevent⟩

/-- The text of a key spells it. -/
theorem Key.spelledBy_text (k : Key) : k.SpelledBy k.text := by
  have hplain {cs : List Char} : Text.Padded cs cs := ⟨[], [], nofun, nofun, by simp⟩
  have hevent : Text.Padded k.event.name.toList (' ' :: k.event.name.toList) :=
    ⟨[' '], [], List.all_eq_true.mp rfl, nofun, by simp⟩
  refine ⟨k.round.name.toList, ' ' :: k.event.name.toList, k.event.name.toList,
    hplain, rfl, hevent, ?_⟩
  have htext : k.text.toList = '(' :: (k.round.name.toList ++ ',' :: ' ' :: k.event.name.toList) ++
      [')'] := by
    simp [Key.text]
  rw [htext]
  exact hplain

end RoundWorkflow
