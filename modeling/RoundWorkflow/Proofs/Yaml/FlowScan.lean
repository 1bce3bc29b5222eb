import RoundWorkflow.Proofs.Yaml.BlockScan

/-!
# The scan of a text in brackets

Inside of brackets columns do not matter and lines only separate tokens.  So between two tokens of a
text in brackets the state of a scan says no more than how many brackets are open, what tokens there
are, whether a key may begin, and what is still to be read (`Flow.Spot`).  Candidates for keys come
and go.  None of them is ever required, for nothing in brackets is in the column of a map, and so
the scan cannot fail by giving one up (`Flow.Loose`).

From one spot to another the scan passes over blanks and a token (`Flow.Passes`).  A string in
quotes is a key if a colon comes directly after it, on the same line and not too far from its
beginning (`Flow.passes_key`).
-/

namespace RoundWorkflow.Yaml

/-! ## Strings in quotes -/

/-- Whether a character stands for itself between double quotes. -/
def isQuotable (c : Char) : Bool := isWritable c && !endsLine c && c ≠ '"' && c ≠ '\\'

theorem isQuotable_iff {c : Char} :
    isQuotable c = true ↔ isWritable c = true ∧ endsLine c = false ∧ c ≠ '"' ∧ c ≠ '\\' := by
  simp [isQuotable, and_assoc]

theorem Position.after_column {p : Position} {c : Char} (h : endsLine c = false) :
    (p.after .early c).column = p.column + 1 := by
  have hbreak : Edition.early.isBreak c = false := h
  simp [Position.after, hbreak]

/-- A gap of spaces on one line. -/
def QuotedGap.OnLine (gap : QuotedGap) (spaces : List Char) (p : Position) : Prop :=
  gap = .none ∧ spaces = [] ∨ gap = .spaces spaces ∧ 0 < p.column

namespace QuotedGap.OnLine

variable {gap : QuotedGap} {spaces : List Char} {p : Position}

theorem text_eq (h : gap.OnLine spaces p) : gap.text = spaces.reverse := by
  rcases h with ⟨rfl, rfl⟩ | ⟨rfl, -⟩ <;> rfl

theorem isRefused_eq (h : gap.OnLine spaces p) (quote : Char) (indent : Int) (cs : List Char) :
    gap.isRefused .early quote indent p cs = false := by
  rcases h with ⟨rfl, -⟩ | ⟨rfl, hcolumn⟩
  · simp [isRefused]
  · have hne : p.column ≠ 0 := Nat.ne_of_gt hcolumn
    simp [isRefused, hne]

theorem withSpace (h : gap.OnLine spaces p) {c : Char} (hline : endsLine c = false) :
    (gap.withSpace c).OnLine (c :: spaces) (p.after .early c) := by
  have hcolumn : 0 < (p.after .early c).column := by
    rw [Position.after_column hline]
    exact Nat.succ_pos _
  rcases h with ⟨rfl, rfl⟩ | ⟨rfl, -⟩ <;> exact .inr ⟨rfl, hcolumn⟩

end QuotedGap.OnLine

/-- A string of characters that stand for themselves is read up to the quote after it. -/
theorem readQuoted_append {w rest : List Char} (hw : ∀ c ∈ w, isQuotable c = true)
    {text spaces : List Char}
    {gap : QuotedGap} {p : Position} {indent : Int} (hgap : gap.OnLine spaces p) :
    readQuoted .early '"' indent text gap .text p (w ++ '"' :: rest) =
      .ok ⟨text.reverse ++ spaces.reverse ++ w, false, ⟨(p.past w).after .early '"', rest⟩⟩ := by
  induction w generalizing text spaces gap p with
  | nil =>
    have hspace : isSpace '"' = false := by decide
    have hbreak : Edition.early.isBreak '"' = false := by decide
    rw [List.nil_append, readQuoted]
    simp [hspace, hbreak, hgap.isRefused_eq, hgap.text_eq, Position.past]
  | cons c w ih =>
    obtain ⟨-, hline, hquote, hescape⟩ := isQuotable_iff.mp (hw c List.mem_cons_self)
    have hrest := fun d hd => hw d (List.mem_cons_of_mem _ hd)
    have hbreak : Edition.early.isBreak c = false := hline
    rw [List.cons_append, readQuoted]
    by_cases hspace : isSpace c = true
    · simp [hspace, ih hrest (hgap.withSpace hline), Position.past_cons]
    · have hnone : QuotedGap.OnLine .none [] (p.after .early c) := .inl ⟨rfl, rfl⟩
      simp [hspace, hbreak, hgap.isRefused_eq, hgap.text_eq, hquote, hescape, ih hrest hnone,
        Position.past_cons]

namespace Flow

open Scan

/-! ## States -/

/-- No candidate is required. -/
def Loose (candidates : List (Option Candidate)) : Prop :=
  ∀ d ∈ candidates, ∀ c ∈ d, c.isRequired = false

/-- A state outside of all collections in block style.  There is a candidate for the innermost
bracket, and one for each of those around it. -/
def state (cursor : Cursor) (tokens : List Token) (keyAllowed : Bool) (candidate : Option Candidate)
    (outer : List (Option Candidate)) (atLineStart : Bool) (adjacent : Option Nat) : Scan where
  cursor := cursor
  tokens := tokens
  count := tokens.length
  keyAllowed := keyAllowed
  candidates := candidate :: outer
  indent := -1
  indents := []
  atLineStart := atLineStart
  adjacent := adjacent
  inBraces := false
  hasBareMap := false

variable {cursor : Cursor} {tokens : List Token} {keyAllowed atLineStart : Bool}
  {adjacent : Option Nat}
  {candidate : Option Candidate} {outer : List (Option Candidate)} {c : Candidate}

theorem loose_none : Loose (none :: outer) ↔ Loose outer := by simp [Loose]

theorem loose_some : Loose (some c :: outer) ↔ c.isRequired = false ∧ Loose outer := by simp [Loose]

theorem Loose.tail (h : Loose (candidate :: outer)) : Loose outer :=
  fun d hd => h d (List.mem_cons_of_mem _ hd)

theorem Loose.freshCandidates (h : Loose outer) (inFlow : Bool) (p : Position) :
    ∃ fresh, Loose fresh ∧ fresh.length = outer.length ∧
      freshCandidates .early inFlow p outer = (fresh, false) := by
  induction outer with
  | nil => exact ⟨[], h, rfl, rfl⟩
  | cons d outer ih =>
    cases d with
    | none =>
      obtain ⟨fresh, hloose, hlength, hfresh⟩ := ih (loose_none.mp h)
      refine ⟨none :: fresh, loose_none.mpr hloose, congrArg (· + 1) hlength, ?_⟩
      rw [Scan.freshCandidates, hfresh]
    | some c =>
      obtain ⟨hc, hrest⟩ := loose_some.mp h
      obtain ⟨fresh, hloose, hlength, hfresh⟩ := ih hrest
      rw [Scan.freshCandidates, hfresh, hc]
      by_cases hstale : isStale .early inFlow p c = true
      · exact ⟨none :: fresh, loose_none.mpr hloose, congrArg (· + 1) hlength, if_pos hstale⟩
      · exact ⟨some c :: fresh, loose_some.mpr ⟨hc, hloose⟩,
          congrArg (· + 1) hlength, if_neg hstale⟩

theorem giveUpStale_of_freshCandidates {d : Option Candidate} {fresh : List (Option Candidate)}
    (h : freshCandidates .early (1 < (candidate :: outer).length) cursor.position
      (candidate :: outer) =
      (d :: fresh, false)) (tokens : List Token) (keyAllowed atLineStart : Bool)
        (adjacent : Option Nat) :
    (state cursor tokens keyAllowed candidate outer atLineStart adjacent).giveUpStale .early =
      .ok (state cursor tokens keyAllowed d fresh atLineStart adjacent) := by
  exact congrArg (fun r : List (Option Candidate) × Bool =>
    if r.2 = true then
      Except.error (state cursor tokens keyAllowed candidate outer atLineStart adjacent).fault
    else Except.ok { state cursor tokens keyAllowed candidate outer atLineStart adjacent
      with candidates := r.1 }) h

theorem forget_state (h : Loose (candidate :: outer)) :
    (state cursor tokens keyAllowed candidate outer atLineStart adjacent).forget =
      .ok (state cursor tokens keyAllowed none outer atLineStart adjacent) := by
  cases candidate with
  | none => rfl
  | some c => exact if_neg (Bool.eq_false_iff.mp (loose_some.mp h).1)

/-- The candidate once a token begins at a place, so many tokens before it. -/
def nominated (keyAllowed : Bool) (count : Nat) (p : Position) (candidate : Option Candidate) :
    Option Candidate :=
  if keyAllowed then some ⟨count, false, p⟩ else candidate

/-- No candidate that begins in brackets is required, for there is no column to be in. -/
theorem nominate_state (h : Loose (candidate :: outer)) :
    (state cursor tokens keyAllowed candidate outer atLineStart adjacent).nominate .early =
      .ok (state cursor tokens keyAllowed
        (nominated keyAllowed tokens.length cursor.position candidate) outer
        atLineStart adjacent) := by
  have hrequired : (!decide (1 < (candidate :: outer).length) &&
      (-1 : Int) = cursor.column && true) = false := by
    have hcolumn : (-1 : Int) ≠ cursor.column := by omega
    simp [hcolumn]
  cases keyAllowed with
  | false => rfl
  | true =>
    change (forget _ >>= fun s => _) = _
    rw [forget_state h]
    exact congrArg (fun b => Except.ok
      (state cursor tokens true (some ⟨tokens.length, b, cursor.position⟩) outer atLineStart
        adjacent)) hrequired

theorem Loose.nominated (h : Loose (candidate :: outer)) (count : Nat) (p : Position) :
    Loose (nominated keyAllowed count p candidate :: outer) := by
  cases keyAllowed with
  | false => exact h
  | true => exact loose_some.mpr ⟨rfl, h.tail⟩

/-! ## Spots -/

/-- What matters of a state in brackets. -/
structure Spot where
  /-- The number of brackets that are open. -/
  depth : Nat
  /-- The kinds of the tokens so far, newest first. -/
  kinds : List Token.Kind
  /-- Whether a key may begin here. -/
  keyAllowed : Bool
  /-- What is still to be read. -/
  rest : List Char

/-- A state is at a spot. -/
def At (spot : Spot) (s : Scan) : Prop :=
  ∃ p tokens candidate outer atLineStart adjacent,
    s = state ⟨p, spot.rest⟩ tokens spot.keyAllowed candidate outer atLineStart adjacent ∧
      Loose (candidate :: outer) ∧ outer.length = spot.depth ∧ tokens.map Token.kind = spot.kinds

/-- From one spot the scan comes to another. -/
def Passes (a b : Spot) : Prop := ∀ s, At a s → ∃ u, Reaches s u ∧ At b u

variable {depth : Nat} {kinds : List Token.Kind} {blanks body rest : List Char} {a b d : Spot}

theorem Passes.refl (a : Spot) : Passes a a := fun s hs => ⟨s, .refl s, hs⟩

theorem Passes.trans (h : Passes a b) (h' : Passes b d) : Passes a d := by
  intro s hs
  obtain ⟨u, hreaches, hu⟩ := h s hs
  obtain ⟨v, hreaches', hv⟩ := h' u hu
  exact ⟨v, hreaches.trans hreaches', hv⟩

theorem unroll_state (column : Int) :
    (state cursor tokens keyAllowed candidate outer atLineStart adjacent).unroll column =
      state cursor tokens keyAllowed candidate outer atLineStart adjacent := by
  unfold unroll
  split <;> rfl

theorem skipInterval_state {p : Position} (hblanks : blanks.all (isBlank (0 < outer.length)) = true)
    (hbody : Begins body) :
    (state ⟨p, blanks ++ body⟩ tokens keyAllowed candidate outer atLineStart adjacent).skipInterval
      .early =
      .ok (state ⟨p.past blanks, body⟩ tokens keyAllowed candidate outer false adjacent) := by
  have hinterval : earlyInterval (0 < outer.length) keyAllowed false p _ = _ :=
    earlyInterval_blanks hblanks hbody p
  have hflow :
    (state ⟨p, blanks ++ body⟩ tokens keyAllowed candidate outer atLineStart adjacent).inFlow =
      decide (0 < outer.length) := by simp [inFlow, state]
  rw [skipInterval, hflow]
  change Except.ok
      { state ⟨p, blanks ++ body⟩ tokens keyAllowed candidate outer atLineStart adjacent with
      cursor := (earlyInterval (0 < outer.length) keyAllowed false p (blanks ++ body)).cursor
      keyAllowed :=
        (earlyInterval (0 < outer.length) keyAllowed false p (blanks ++ body)).keyAllowed
      atLineStart :=
        (earlyInterval (0 < outer.length) keyAllowed false p (blanks ++ body)).atLineStart } = _
  rw [hinterval]
  rfl

theorem giveUpStale_state (h : Loose (candidate :: outer)) (cursor : Cursor) :
    ∃ d fresh, Loose (d :: fresh) ∧ fresh.length = outer.length ∧
      ∀ tokens keyAllowed atLineStart adjacent,
      (state cursor tokens keyAllowed candidate outer atLineStart adjacent).giveUpStale .early =
        .ok (state cursor tokens keyAllowed d fresh atLineStart adjacent) := by
  obtain ⟨fresh, hloose, hlength, hfresh⟩ :=
    h.freshCandidates (1 < (candidate :: outer).length) cursor.position
  cases fresh with
  | nil => cases hlength
  | cons d fresh =>
    exact ⟨d, fresh, hloose, Nat.succ.inj hlength, giveUpStale_of_freshCandidates hfresh⟩

/-- The way is cleared to the next token over the blanks before it. -/
theorem At.prepares {s : Scan} (blanks : List Char)
    (h : At ⟨depth, kinds, keyAllowed, blanks ++ body⟩ s)
    (hblanks : blanks.all (isBlank (0 < depth)) = true) (hbody : Begins body) :
    ∃ t, Prepares s t ∧ At ⟨depth, kinds, keyAllowed, body⟩ t := by
  obtain ⟨p, tokens, candidate, outer, atLineStart, adjacent, rfl, hloose, rfl, rfl⟩ := h
  -- Candidates are given up before the blanks and once more after them, where they may have become
  -- stale.
  obtain ⟨d, fresh, hloose, hlength, hstale⟩ := giveUpStale_state hloose ⟨p, blanks ++ body⟩
  obtain ⟨d', fresh', hloose', hlength', hstale'⟩ := giveUpStale_state hloose ⟨p.past blanks, body⟩
  refine ⟨state ⟨p.past blanks, body⟩ tokens keyAllowed d' fresh' false adjacent, ⟨?_, ?_⟩, ?_⟩
  · exact bind_eq_ok_iff.mpr ⟨_, hstale _ _ _ _,
      bind_eq_ok_iff.mpr ⟨_, skipInterval_state (hlength ▸ hblanks) hbody,
      bind_eq_ok_iff.mpr ⟨_, hstale' _ _ _ _, congrArg Except.ok (unroll_state _)⟩⟩⟩
  · simp [state]
  · exact ⟨_, _, d', fresh', _, _, rfl, hloose', hlength'.trans hlength, rfl⟩

/-- Over blanks and a token. -/
theorem passes_of_act (blanks : List Char) (hblanks : blanks.all (isBlank (0 < depth)) = true)
    (hbody : Begins body)
    (hact : ∀ t, At ⟨depth, kinds, keyAllowed, body⟩ t → ∃ u, t.act = .ok u ∧ At b u)
    (hkind : b.kinds.head? ≠ some .theEnd) (hlength : b.rest.length < body.length) :
    Passes ⟨depth, kinds, keyAllowed, blanks ++ body⟩ b := by
  intro s hs
  obtain ⟨t, hprepares, ht⟩ := hs.prepares _ hblanks hbody
  obtain ⟨u, hact, hu⟩ := hact t ht
  refine ⟨u, hprepares.reaches hact ?_ ?_, hu⟩
  · obtain ⟨_, tokens, _, _, _, _, rfl, -, -, hkinds⟩ := hu
    change (tokens.map Token.kind).head? ≠ _
    rwa [hkinds]
  · obtain ⟨_, _, _, _, _, _, rfl, -⟩ := hu
    obtain ⟨_, _, _, _, _, _, rfl, -⟩ := ht
    exact hlength

/-! ## Marks -/

theorem act_open {p : Position} {mark : Char} {kind : Token.Kind}
    (h : mark = '[' ∧ kind = .openList ∨ mark = '{' ∧ kind = .openMap)
    (hloose : Loose (candidate :: outer)) :
    (state ⟨p, mark :: rest⟩ tokens keyAllowed candidate outer atLineStart adjacent).act =
      .ok (state ⟨p.after .early mark, rest⟩ (placed p kind :: tokens) true none
        (nominated keyAllowed tokens.length p candidate :: outer) false adjacent) := by
  have htoken :
      (state ⟨p, mark :: rest⟩ tokens keyAllowed candidate outer atLineStart adjacent).act =
      (state ⟨p, mark :: rest⟩ tokens keyAllowed candidate outer atLineStart adjacent).openBracket
        .early kind := by
    change token .early (state ..) mark = _
    rcases h with ⟨rfl, rfl⟩ | ⟨rfl, rfl⟩ <;> simp [token, state, Edition.atDocumentMark]
  rw [htoken, openBracket]
  exact bind_eq_ok_iff.mpr ⟨_, nominate_state hloose, rfl⟩

theorem act_close {p : Position} {mark : Char} {kind : Token.Kind} {d : Option Candidate}
    (h : mark = ']' ∧ kind = .closeList ∨ mark = '}' ∧ kind = .closeMap)
    (hloose : Loose (candidate :: d :: outer)) :
    ∃ adjacent',
      (state ⟨p, mark :: rest⟩ tokens keyAllowed candidate (d :: outer) atLineStart adjacent).act =
      .ok (state ⟨p.after .early mark, rest⟩ (placed p kind :: tokens) false d outer
        false adjacent') := by
  have htoken :
      (state ⟨p, mark :: rest⟩ tokens keyAllowed candidate (d :: outer) atLineStart adjacent).act =
      (state ⟨p, mark :: rest⟩ tokens keyAllowed candidate (d :: outer) atLineStart
        adjacent).closeBracket .early
        kind := by
    change token .early (state ..) mark = _
    rcases h with ⟨rfl, rfl⟩ | ⟨rfl, rfl⟩ <;> simp [token, state, Edition.atDocumentMark]
  rw [htoken, closeBracket]
  cases outer with
  | nil => exact ⟨_, bind_eq_ok_iff.mpr ⟨_, forget_state hloose, rfl⟩⟩
  | cons d' outer => exact ⟨_, bind_eq_ok_iff.mpr ⟨_, forget_state hloose, rfl⟩⟩

theorem act_comma {p : Position} (hloose : Loose (candidate :: outer)) :
    (state ⟨p, ',' :: rest⟩ tokens keyAllowed candidate outer atLineStart adjacent).act =
      .ok (state ⟨p.after .early ',', rest⟩ (placed p .comma :: tokens) true none outer
        false adjacent) := by
  have htoken :
      (state ⟨p, ',' :: rest⟩ tokens keyAllowed candidate outer atLineStart adjacent).act =
      (state ⟨p, ',' :: rest⟩ tokens keyAllowed candidate outer atLineStart adjacent).comma
        .early := by
    change token .early (state ..) ',' = _
    simp [token, state, Edition.atDocumentMark]
  rw [htoken, comma]
  exact bind_eq_ok_iff.mpr ⟨_, forget_state hloose, rfl⟩

/-- A string of characters that stand for themselves, in quotes. -/
theorem act_quoted {p : Position} {w : List Char} (hw : ∀ c ∈ w, isQuotable c = true)
    (hloose : Loose (candidate :: outer)) :
    (state ⟨p, '"' :: (w ++ '"' :: rest)⟩ tokens keyAllowed candidate outer atLineStart
      adjacent).act =
      .ok (state ⟨p.past ('"' :: (w ++ ['"'])),
        rest⟩ (placed p (.scalar .quoted (String.ofList w)) :: tokens) false
        (nominated keyAllowed tokens.length p candidate) outer false adjacent) := by
  have htoken : (state ⟨p, '"' :: (w ++ '"' :: rest)⟩ tokens keyAllowed candidate outer
      atLineStart adjacent).act =
      (state ⟨p, '"' :: (w ++ '"' :: rest)⟩ tokens keyAllowed candidate outer atLineStart
        adjacent).quotedScalar
        .early '"' := by
    change token .early (state ..) '"' = _
    simp [token, state, Edition.atDocumentMark]
  have hpast : p.past ('"' :: (w ++ ['"'])) = ((p.after .early '"').past w).after .early '"' := by
    simp [Position.past]
  rw [htoken, quotedScalar, hpast]
  exact bind_eq_ok_iff.mpr ⟨_, nominate_state hloose, bind_eq_ok_iff.mpr
    ⟨_, readQuoted_append hw (.inl ⟨rfl, rfl⟩), rfl⟩⟩

/-- A colon after a scalar in brackets makes a key of it. -/
theorem act_colon {p q : Position} {scalar : Token} {d : Option Candidate} :
    (state ⟨q, ':' :: rest⟩ (scalar :: tokens) keyAllowed (some ⟨tokens.length, false, p⟩)
      (d :: outer) atLineStart
      adjacent).act =
        .ok (state ⟨q.after .early ':', rest⟩ (placed q .value :: scalar :: placed p .key :: tokens)
          false none
          (d :: outer) false adjacent) := by
  -- The token of the key is put in before one token, which is the scalar.
  have hlater : tokens.length + 1 - tokens.length = 1 := by omega
  have htoken : (state ⟨q, ':' :: rest⟩ (scalar :: tokens) keyAllowed
      (some ⟨tokens.length, false, p⟩) (d :: outer)
      atLineStart adjacent).act = (state ⟨q, ':' :: rest⟩ (scalar :: tokens) keyAllowed
        (some ⟨tokens.length, false, p⟩) (d :: outer) atLineStart adjacent).valueMark .early := by
    change token .early (state ..) ':' = _
    simp [token, state, Edition.atDocumentMark, isMark, inFlow]
  have hresolve : (state ⟨q.after .early ':', rest⟩ (scalar :: tokens) keyAllowed
      (some ⟨tokens.length, false, p⟩)
      (d :: outer) false adjacent).resolve ⟨tokens.length, false, p⟩ q =
        .ok (state ⟨q.after .early ':', rest⟩ (scalar :: placed p .key :: tokens) false none
          (d :: outer) false
          adjacent) := by
    have hkey : (state ⟨q.after .early ':', rest⟩ (scalar :: tokens) keyAllowed
        (some ⟨tokens.length, false, p⟩)
        (d :: outer) false adjacent).insert tokens.length .key p =
          state ⟨q.after .early ':', rest⟩ (scalar :: placed p .key :: tokens) keyAllowed
            (some ⟨tokens.length, false, p⟩) (d :: outer) false adjacent := by
      simp [Scan.insert, state, hlater, placed]
    rw [resolve, hkey]
    rfl
  rw [htoken, valueMark]
  exact bind_eq_ok_iff.mpr ⟨_, rfl, bind_eq_ok_iff.mpr ⟨_, hresolve, rfl⟩⟩

/-! ## From spot to spot -/

theorem passes_open {mark : Char} {kind : Token.Kind}
    (h : mark = '[' ∧ kind = .openList ∨ mark = '{' ∧ kind = .openMap)
    (hblanks : blanks.all (isBlank (0 < depth)) = true) :
    Passes ⟨depth, kinds, keyAllowed, blanks ++ mark :: rest⟩ ⟨depth + 1,
      kind :: kinds, true, rest⟩ := by
  refine passes_of_act _ hblanks ?_ ?_ ?_ (Nat.lt_succ_self _)
  · rintro _ ⟨⟩
    rcases h with ⟨rfl, -⟩ | ⟨rfl, -⟩ <;> decide
  · rintro _ ⟨p, tokens, candidate, outer, atLineStart, adjacent, rfl, hloose, rfl, rfl⟩
    exact ⟨_, act_open h hloose, _, _, none, _, _, _, rfl,
      loose_none.mpr (hloose.nominated _ _), rfl, rfl⟩
  · rcases h with ⟨-, rfl⟩ | ⟨-, rfl⟩ <;> simp

theorem passes_close {mark : Char} {kind : Token.Kind}
    (h : mark = ']' ∧ kind = .closeList ∨ mark = '}' ∧ kind = .closeMap)
    (hblanks : blanks.all (isBlank true) = true) :
    Passes ⟨depth + 1, kinds, keyAllowed, blanks ++ mark :: rest⟩ ⟨depth, kind :: kinds,
      false, rest⟩ := by
  refine passes_of_act _ (by simpa using hblanks) ?_ ?_ ?_ (Nat.lt_succ_self _)
  · rintro _ ⟨⟩
    rcases h with ⟨rfl, -⟩ | ⟨rfl, -⟩ <;> decide
  · rintro _ ⟨p, tokens, candidate, outer, atLineStart, adjacent, rfl, hloose, hdepth, rfl⟩
    obtain ⟨d, outer, rfl⟩ := List.exists_cons_of_length_eq_add_one hdepth
    obtain ⟨adjacent', hact⟩ := act_close h hloose
    exact ⟨_, hact, _, _, d, outer, _, _, rfl, hloose.tail, Nat.succ.inj hdepth, rfl⟩
  · rcases h with ⟨-, rfl⟩ | ⟨-, rfl⟩ <;> simp

theorem passes_comma :
    Passes ⟨depth, kinds, keyAllowed, ',' :: rest⟩ ⟨depth, .comma :: kinds, true, rest⟩ := by
  refine passes_of_act [] rfl ?_ ?_ (by simp) (Nat.lt_succ_self _)
  · rintro _ ⟨⟩
    decide
  · rintro _ ⟨p, tokens, candidate, outer, atLineStart, adjacent, rfl, hloose, rfl, rfl⟩
    exact ⟨_, act_comma hloose, _, _, none, outer, _, _, rfl, loose_none.mpr hloose.tail, rfl, rfl⟩

theorem begins_quote : Begins ('"' :: body) := by
  rintro _ ⟨⟩
  decide

theorem passes_quoted {w : List Char} (hw : ∀ c ∈ w, isQuotable c = true)
    (hblanks : blanks.all (isBlank (0 < depth)) = true) :
    Passes ⟨depth, kinds, keyAllowed, blanks ++ '"' :: (w ++ '"' :: rest)⟩
      ⟨depth, .scalar .quoted (String.ofList w) :: kinds, false, rest⟩ := by
  refine passes_of_act _ hblanks begins_quote ?_ (by simp) ?_
  · rintro _ ⟨p, tokens, candidate, outer, atLineStart, adjacent, rfl, hloose, rfl, rfl⟩
    exact ⟨_, act_quoted hw hloose, _, _, _, outer, _, _, rfl, hloose.nominated _ _, rfl, rfl⟩
  · simp
    omega

/-! ### A key -/

theorem giveUpStale_of_fresh {p : Position} (h : Loose outer) (hline : c.position.line = p.line)
    (hindex : p.index ≤ c.position.index + Scan.maxKeyLength) :
    ∃ fresh, Loose fresh ∧ fresh.length = outer.length ∧
      ∀ rest tokens keyAllowed atLineStart adjacent,
      (state ⟨p, rest⟩ tokens keyAllowed (some c) outer atLineStart adjacent).giveUpStale .early =
        .ok (state ⟨p, rest⟩ tokens keyAllowed (some c) fresh atLineStart adjacent) := by
  obtain ⟨fresh, hloose, hlength, hfresh⟩ := h.freshCandidates (1 < (some c :: outer).length) p
  refine ⟨fresh, hloose, hlength, fun rest => giveUpStale_of_freshCandidates ?_⟩
  have hstale : isStale .early (1 < (some c :: outer).length) p c = false := by
    simp [isStale, hline, hindex]
  rw [Scan.freshCandidates, hfresh]
  exact if_neg (Bool.eq_false_iff.mp hstale)

/-- The way to the colon is clear after a key, which is still a candidate. -/
theorem prepare_colon {p : Position} (h : Loose outer) (hline : c.position.line = p.line)
    (hindex : p.index ≤ c.position.index + Scan.maxKeyLength) :
    ∃ fresh, Loose fresh ∧ fresh.length = outer.length ∧
      ∀ rest tokens keyAllowed atLineStart adjacent,
      (state ⟨p, ':' :: rest⟩ tokens keyAllowed (some c) outer atLineStart adjacent).prepare =
        .ok (state ⟨p, ':' :: rest⟩ tokens keyAllowed (some c) fresh false adjacent) := by
  obtain ⟨fresh, hloose, hlength, hstale⟩ := giveUpStale_of_fresh h hline hindex
  obtain ⟨fresh', hloose', hlength', hstale'⟩ := giveUpStale_of_fresh hloose hline hindex
  refine ⟨fresh', hloose', hlength'.trans hlength,
    fun rest tokens keyAllowed atLineStart adjacent => ?_⟩
  have hcolon : Begins (':' :: rest) := by
    rintro _ ⟨⟩
    decide
  have hskip : (state ⟨p, [] ++ ':' :: rest⟩ tokens keyAllowed (some c) fresh atLineStart
      adjacent).skipInterval
      .early = _ := skipInterval_state rfl hcolon
  exact bind_eq_ok_iff.mpr ⟨_, hstale _ _ _ _ _, bind_eq_ok_iff.mpr ⟨_, hskip, bind_eq_ok_iff.mpr
    ⟨_, hstale' _ _ _ _ _, congrArg Except.ok (unroll_state _)⟩⟩⟩

/-- The string before a colon is a key. -/
theorem passes_key {w : List Char} (hw : ∀ c ∈ w, isQuotable c = true)
    (hshort : (String.ofList ('"' :: (w ++ ['"']))).utf8ByteSize ≤ Scan.maxKeyLength)
    (hblanks : blanks.all (isBlank true) = true) :
    Passes ⟨depth + 1, kinds, true, blanks ++ '"' :: (w ++ '"' :: ':' :: rest)⟩
      ⟨depth + 1, .value :: .scalar .quoted (String.ofList w) :: .key :: kinds, false, rest⟩ := by
  intro s hs
  obtain ⟨_, hprepares, p, tokens, candidate, outer, atLineStart, adjacent, rfl,
    hloose, hdepth, rfl⟩ :=
    hs.prepares _ (by simpa using hblanks) begins_quote
  have hact : (state ⟨p, '"' :: (w ++ '"' :: ':' :: rest)⟩ tokens true candidate outer atLineStart
    adjacent).act = _ :=
    act_quoted hw hloose
  obtain ⟨hline, -⟩ : (p.past ('"' :: (w ++ ['"']))).line = p.line ∧ _ := by
    have hquote : endsLine '"' = false := by decide
    refine Position.past_line ?_
    simpa [hquote, or_imp, forall_and] using fun c hc => (isQuotable_iff.mp (hw c hc)).2.1
  have hindex : (p.past ('"' :: (w ++ ['"']))).index ≤ p.index + Scan.maxKeyLength := by
    rw [Position.past_index]
    exact Nat.add_le_add_left hshort _
  obtain ⟨fresh, hfresh, hlength, hprepare⟩ :=
    prepare_colon (c := ⟨tokens.length, false, p⟩) hloose.tail hline.symm
    hindex
  obtain ⟨d, fresh, rfl⟩ := List.exists_cons_of_length_eq_add_one (hlength.trans hdepth)
  refine ⟨_, (hprepares.reaches hact ?_ ?_).trans (Prepares.reaches ⟨hprepare _ _ _ _ _,
    Nat.le_refl _⟩ act_colon ?_ ?_),
    _, _, none, _, _, _, rfl, loose_none.mpr hfresh, hlength.trans hdepth, rfl⟩
  · simp [Scan.kinds, state, placed]
  · simp [state]
    omega
  · simp [Scan.kinds, state, placed]
  · simp [state]

end Flow

end RoundWorkflow.Yaml
