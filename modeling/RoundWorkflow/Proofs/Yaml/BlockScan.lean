import RoundWorkflow.Proofs.KeySpelling
import RoundWorkflow.Proofs.Yaml.PlainText

/-!
# The scan of a text in block style

Between two tokens of a text in block style the state of a scan says little: which
collections are open and in what columns, what tokens there are, and what is still to
be read (`Spot`).  A step of the scan clears the way to the next token, which may end
collections (`Clears`), and takes the token (`Yields`).

From one spot to another the scan of a value passes over its text (`Passes`).  The
passages compose, and so a text is scanned by induction over the value that it was
written for.  Places are not in a spot except for the column, which is all that the
layout depends on.
-/

namespace RoundWorkflow.Yaml

namespace Scan

/-! ## Steps -/

/-- A scan with the way cleared to the next token. -/
def prepare (s : Scan) : Except Fault Scan := do
  let s ← s.giveUpStale .early
  let s ← (← s.skipInterval .early).giveUpStale .early
  return s.unroll s.cursor.column

/-- A scan with the next token taken, to which the way is clear. -/
def act (s : Scan) : Except Fault Scan :=
  match s.cursor.head? with
  | none => s.finish .early
  | some c => s.token .early c

/-- The kinds of the tokens so far, newest first. -/
def kinds (s : Scan) : List Token.Kind := s.tokens.map Token.kind

variable {s t u : Scan}

theorem run_of_act (hprepare : s.prepare = .ok t) (hact : t.act = .ok u) (n : Nat) :
    run .early (n + 1) s = if u.kinds.head? = some .theEnd then ⟨u.tokens.reverse, none⟩ else
      run .early n u := by
  obtain ⟨s₁, hfresh, h⟩ := bind_eq_ok_iff.mp hprepare
  obtain ⟨s₂, hinterval, h⟩ := bind_eq_ok_iff.mp h
  obtain ⟨s₃, hfresh', h⟩ := bind_eq_ok_iff.mp h
  cases h
  have hstep : s₁.step .early = .ok u := by
    rw [step, hinterval]
    change (s₂.giveUpStale .early >>= _) = _
    rw [hfresh', ← hact, act]
    rfl
  rw [run, hfresh]
  dsimp only
  rw [hstep]
  dsimp only
  split
  · rename_i htokens
    rw [if_pos (by rw [kinds, htokens]; rfl)]
  · rename_i hne
    rw [if_neg]
    intro hhead
    obtain ⟨⟨kind, line, column⟩, tail, htokens, hkind, -⟩ :=
      List.map_eq_cons_iff.mp (List.eq_cons_of_mem_head? hhead)
    cases hkind
    exact hne line column tail htokens

/-- The scan comes from one state to another in as many steps as there are characters between them,
or fewer. -/
def Reaches (s s' : Scan) : Prop :=
  ∃ k, (∀ n, run .early (n + k) s = run .early n s') ∧
    k + s'.cursor.rest.length ≤ s.cursor.rest.length

theorem Reaches.refl (s : Scan) : Reaches s s := ⟨0, fun _ => rfl, by omega⟩

theorem Reaches.trans (h : Reaches s t) (h' : Reaches t u) : Reaches s u := by
  obtain ⟨k, hk, hlength⟩ := h
  obtain ⟨k', hk', hlength'⟩ := h'
  refine ⟨k' + k, fun n => ?_, by omega⟩
  rw [← Nat.add_assoc, hk, hk']

/-! ## States in block style -/

/-- The column of the innermost of collections, which are given by their columns. -/
def innermost : List Nat → Int
  | [] => -1
  | c :: _ => c

/-- The indentations of collections. -/
def indentations : List Nat → List Indentation
  | [] => []
  | _ :: columns => ⟨innermost columns, true⟩ :: indentations columns

/-- A state with collections open in block style. -/
def block (columns : List Nat) (cursor : Cursor) (tokens : List Token) (keyAllowed : Bool)
    (candidate : Option Candidate) (atLineStart : Bool) : Scan where
  cursor := cursor
  tokens := tokens
  count := tokens.length
  keyAllowed := keyAllowed
  candidates := [candidate]
  indent := innermost columns
  indents := indentations columns
  atLineStart := atLineStart
  adjacent := none
  inBraces := false
  hasBareMap := false

/-- The collections that are still open when a line begins at a column. -/
def stillOpen (column : Int) (columns : List Nat) : List Nat :=
  columns.dropWhile fun c : Nat => column < c

/-- The tokens of the ends of the others. -/
def ends (column : Int) (columns : List Nat) : List Token.Kind :=
  List.replicate (columns.takeWhile fun c : Nat => column < c).length .blockEnd

variable {columns : List Nat} {cursor : Cursor} {tokens : List Token}
  {keyAllowed atLineStart : Bool} {candidate : Option Candidate}

theorem stillOpen_cons {column : Int} {c : Nat} (h : column < c) :
    stillOpen column (c :: columns) = stillOpen column columns := by
  simp [stillOpen, h]

theorem ends_cons {column : Int} {c : Nat} (h : column < c) :
    ends column (c :: columns) = ends column columns ++ [.blockEnd] := by
  simp [ends, h, List.replicate_succ']

/-- A token of a kind at a place. -/
def placed (p : Position) (kind : Token.Kind) : Token := ⟨kind, p.line, p.column⟩

theorem kinds_placed (p : Position) (ks : List Token.Kind) (tokens : List Token) :
    (ks.map (placed p) ++ tokens).map Token.kind = ks ++ tokens.map Token.kind := by
  rw [List.map_append, List.map_map, Function.comp_def]
  exact congrArg (· ++ _) (List.map_id' ks)

theorem unroll_block (column : Int) :
    (block columns cursor tokens keyAllowed candidate atLineStart).unroll column =
      block (stillOpen column columns) cursor
        ((ends column columns).map (placed cursor.position) ++ tokens) keyAllowed
        candidate atLineStart := by
  have hunroll : ∀ tokens, unrollTo column cursor.position
      (block columns cursor tokens keyAllowed candidate atLineStart) (indentations columns) =
        block (stillOpen column columns) cursor
          ((ends column columns).map (placed cursor.position) ++ tokens)
          keyAllowed candidate atLineStart := by
    induction columns with
    | nil => exact fun _ => rfl
    | cons c columns ih =>
      intro tokens
      by_cases hc : column < (c : Int)
      · have hinner : ¬(block (c :: columns) cursor tokens keyAllowed candidate
          atLineStart).indent ≤ column :=
          Int.not_le.mpr hc
        rw [indentations, unrollTo, if_neg hinner, stillOpen_cons hc, ends_cons hc, List.map_append,
          List.append_assoc]
        exact ih (placed cursor.position .blockEnd :: tokens)
      · have hinner : (block (c :: columns) cursor tokens keyAllowed candidate atLineStart).indent ≤
          column :=
          Int.not_lt.mp hc
        rw [indentations, unrollTo, if_pos hinner]
        simp [stillOpen, ends, hc]
  exact hunroll tokens

/-! ## Clearing the way -/

/-- A blank between two tokens. -/
def isBlank (inFlow : Bool) (c : Char) : Bool := c = ' ' || (inFlow && c = '\n')

theorem earlyInterval_blanks {blanks body : List Char} {inFlow : Bool}
    (h : blanks.all (isBlank inFlow) = true) (hbody : Begins body) (p : Position) :
    earlyInterval inFlow keyAllowed false p (blanks ++ body) = ⟨keyAllowed, false,
      ⟨p.past blanks, body⟩⟩ := by
  induction blanks generalizing p with
  | nil =>
    cases body with
    | nil => rfl
    | cons c body =>
      obtain ⟨hbreak, hspace, hremark, hmark⟩ := hbody c rfl
      have hbreak' : Edition.early.isBreak c = false := hbreak
      obtain ⟨hblank, htab⟩ := by simpa [isSpace] using hspace
      rw [List.nil_append, earlyInterval]
      simp [hbreak', hremark, hmark, hblank, htab, Position.past]
  | cons c blanks ih =>
    obtain ⟨hc, hrest⟩ := Bool.and_eq_true_iff.mp h
    have hspace : Edition.early.isBreak ' ' = false := by decide
    have hline : Edition.early.isBreak '\n' = true := by decide
    rw [List.cons_append, earlyInterval, Position.past_cons]
    rcases Bool.or_eq_true_iff.mp hc with hc | hc
    · obtain rfl : c = ' ' := of_decide_eq_true hc
      simp [hspace, ih hrest]
    · obtain ⟨rfl, hc⟩ := Bool.and_eq_true_iff.mp hc
      obtain rfl : c = '\n' := of_decide_eq_true hc
      simp [hline, ih hrest]

theorem earlyInterval_indentation {body : List Char} (hbody : Begins body) (p : Position)
    (n : Nat) :
    earlyInterval false keyAllowed false p (indentation n ++ body) =
      ⟨keyAllowed, false, ⟨p.past (indentation n), body⟩⟩ :=
  earlyInterval_blanks (by simp [indentation, isBlank]) hbody p

/-- A candidate that can no longer be a key, and need not be one. -/
def Spent (candidate : Option Candidate) (line : Nat) : Prop :=
  ∀ c ∈ candidate, c.isRequired = false ∧ c.position.line < line

theorem giveUpStale_of_spent (h : Spent candidate cursor.position.line) :
    (block columns cursor tokens keyAllowed candidate atLineStart).giveUpStale .early =
      .ok (block columns cursor tokens keyAllowed none atLineStart) := by
  cases candidate with
  | none => rfl
  | some c =>
    obtain ⟨hrequired, hline⟩ := h c rfl
    have hstale : isStale .early false cursor.position c = true := by simp [isStale, hline]
    simp [giveUpStale, block, inFlow, freshCandidates, hstale, hrequired]

theorem giveUpStale_of_fresh {c : Candidate} (hline : c.position.line = cursor.position.line)
    (hindex : cursor.position.index ≤ c.position.index + maxKeyLength) :
    (block columns cursor tokens keyAllowed (some c) atLineStart).giveUpStale .early =
      .ok (block columns cursor tokens keyAllowed (some c) atLineStart) := by
  have hstale : isStale .early false cursor.position c = false := by simp [isStale, hline, hindex]
  simp [giveUpStale, block, inFlow, freshCandidates, hstale]

/-! ## Spots -/

/-- What matters of a state in block style. -/
structure Spot where
  /-- The columns of the collections that are open, innermost first. -/
  columns : List Nat
  /-- The kinds of the tokens so far, newest first. -/
  kinds : List Token.Kind
  /-- Whether a key may begin here. -/
  keyAllowed : Bool
  /-- The column. -/
  column : Nat
  /-- What is still to be read. -/
  rest : List Char

/-- A state is at a spot. -/
def At (spot : Spot) (s : Scan) : Prop :=
  ∃ p tokens candidate atLineStart,
    s = block spot.columns ⟨p, spot.rest⟩ tokens spot.keyAllowed candidate atLineStart ∧
    Spent candidate p.line ∧ p.column = spot.column ∧ tokens.map Token.kind = spot.kinds

/-- A state is at a spot, and the way is clear to the next token. -/
def Ready (spot : Spot) (s : Scan) : Prop :=
  ∃ p tokens, s = block spot.columns ⟨p, spot.rest⟩ tokens spot.keyAllowed none false ∧
    p.column = spot.column ∧ tokens.map Token.kind = spot.kinds

/-- A spot at which a line begins in a column, where nothing but its own collections are still
open. -/
def Spot.line (columns : List Nat) (kinds : List Token.Kind) (column : Nat)
    (rest : List Char) : Spot :=
  ⟨stillOpen column columns, ends column columns ++ kinds, true, column, rest⟩

/-- The way from one state is cleared to another. -/
structure Prepares (s t : Scan) : Prop where
  prepare : s.prepare = .ok t
  length : t.cursor.rest.length ≤ s.cursor.rest.length

/-- From one spot the way is cleared to another. -/
def Clears (a b : Spot) : Prop := ∀ s, At a s → ∃ t, Prepares s t ∧ Ready b t

variable {columns : List Nat} {kinds : List Token.Kind} {keyAllowed : Bool} {column n : Nat}
  {body : List Char}

theorem stillOpen_eq_self (h : innermost columns ≤ column) :
    stillOpen column columns = columns := by
  cases columns with
  | nil => rfl
  | cons c columns =>
    exact List.dropWhile_cons_of_neg (by rw [decide_eq_true_iff]; exact Int.not_lt.mpr h)

theorem ends_eq_nil (h : innermost columns ≤ column) : ends column columns = [] := by
  cases columns with
  | nil => rfl
  | cons c columns =>
    rw [ends, List.takeWhile_cons_of_neg (by rw [decide_eq_true_iff]; exact Int.not_lt.mpr h)]
    rfl

theorem clears_of_interval {keyAllowed' : Bool} {column' : Nat} {rest : List Char}
    (hlength : body.length ≤ rest.length)
    (h : ∀ p : Position, p.column = column → ∃ q : Position, q.column = column' ∧
      earlyInterval false keyAllowed false p rest = ⟨keyAllowed', false, ⟨q, body⟩⟩) :
    Clears ⟨columns, kinds, keyAllowed, column, rest⟩
      ⟨stillOpen column' columns, ends column' columns ++ kinds, keyAllowed', column', body⟩ := by
  rintro _ ⟨p, tokens, candidate, atLineStart, rfl, hspent, hcolumn, rfl⟩
  obtain ⟨q, rfl, hinterval⟩ := h p hcolumn
  have hskip : skipInterval .early (block columns ⟨p, rest⟩ tokens keyAllowed none atLineStart) =
      .ok (block columns ⟨q, body⟩ tokens keyAllowed' none false) := by
    change Except.ok { block columns ⟨p, rest⟩ tokens keyAllowed none atLineStart with
      cursor := (earlyInterval false keyAllowed false p rest).cursor
      keyAllowed := (earlyInterval false keyAllowed false p rest).keyAllowed
      atLineStart := (earlyInterval false keyAllowed false p rest).atLineStart } = _
    rw [hinterval]
    rfl
  refine ⟨_, ⟨?_, hlength⟩, ⟨q, _, rfl, rfl, kinds_placed q _ tokens⟩⟩
  exact bind_eq_ok_iff.mpr ⟨_, giveUpStale_of_spent hspent, bind_eq_ok_iff.mpr ⟨_, hskip,
    bind_eq_ok_iff.mpr ⟨_, rfl, congrArg Except.ok (unroll_block _)⟩⟩⟩

/-- Over spaces on the line. -/
theorem clears_spaces (hbody : Begins body) (hcolumn : innermost columns ≤ column + n) :
    Clears ⟨columns, kinds, keyAllowed, column, indentation n ++ body⟩
      ⟨columns, kinds, keyAllowed, column + n, body⟩ := by
  have hclears : Clears ⟨columns, kinds, keyAllowed, column, indentation n ++ body⟩
      ⟨stillOpen (column + n : Nat) columns, ends (column + n : Nat) columns ++ kinds, keyAllowed,
        column + n, body⟩ :=
    clears_of_interval (by simp) fun p hp =>
      ⟨p.past (indentation n),
        by rw [(p.past_indentation n).2, hp], earlyInterval_indentation hbody p n⟩
  rwa [stillOpen_eq_self hcolumn, ends_eq_nil hcolumn] at hclears

/-- Over the end of a line. -/
theorem clears_line (hbody : Begins body) :
    Clears ⟨columns, kinds, keyAllowed, column, '\n' :: (indentation n ++ body)⟩
      (.line columns kinds n body) := by
  refine clears_of_interval (by simp; omega) fun p _ =>
    ⟨(p.after .early '\n').past (indentation n), (p.nextLine n).2, ?_⟩
  rw [← earlyInterval_indentation hbody, earlyInterval]
  simp [Edition.isBreak]

/-- A line that has begun. -/
theorem clears_begun (hbody : Begins body) :
    Clears ⟨columns, kinds, true, n, body⟩ (.line columns kinds n body) :=
  clears_of_interval (Nat.le_refl _) fun p hp => ⟨p, hp, earlyInterval_indentation hbody p 0⟩

/-! ## Taking tokens -/

theorem Prepares.reaches {s t u : Scan} (h : Prepares s t) (hact : t.act = .ok u)
    (hkind : u.kinds.head? ≠ some .theEnd)
    (hlength : u.cursor.rest.length < t.cursor.rest.length) : Reaches s u := by
  refine ⟨1, fun n => ?_, ?_⟩
  · rw [run_of_act h.prepare hact, if_neg hkind]
  · have := h.length
    omega

section

variable {columns : List Nat} {cursor : Cursor} {tokens : List Token}
  {keyAllowed atLineStart : Bool} {candidate : Option Candidate}

theorem dropBare_block :
    (block columns cursor tokens keyAllowed candidate atLineStart).dropBare (indentations columns) =
      block columns cursor tokens keyAllowed candidate atLineStart := by
  cases columns <;> rfl

theorem nominate_block (columns : List Nat) (cursor : Cursor) (tokens : List Token)
    (atLineStart : Bool) :
    ∃ isRequired, (innermost columns < cursor.column → isRequired = false) ∧
      (block columns cursor tokens true none atLineStart).nominate .early =
        .ok (block columns cursor tokens true (some ⟨tokens.length, isRequired, cursor.position⟩)
          atLineStart) := by
  refine ⟨_, ?_, rfl⟩
  intro h
  have hne : innermost columns ≠ cursor.column := Int.ne_of_lt h
  simp [block, hne]

theorem plainScalar_block {s : Scan} {piece : Piece}
    (hnominate : s.nominate .early = .ok
      (block columns cursor tokens keyAllowed candidate atLineStart))
    (hpiece : cursor.plain .early false (innermost columns + 1) = .ok piece) :
    s.plainScalar .early = .ok (block columns piece.cursor
      (⟨.scalar .plain (String.ofList piece.text), s.cursor.position.line,
        s.cursor.position.column⟩ :: tokens)
      piece.endedLine candidate piece.endedLine) := by
  rw [plainScalar]
  refine bind_eq_ok_iff.mpr ⟨_, hnominate, ?_⟩
  have hdrop : (block columns cursor tokens keyAllowed candidate atLineStart).dropBare
      (block columns cursor tokens keyAllowed candidate atLineStart).indents =
        block columns cursor tokens keyAllowed candidate atLineStart := dropBare_block
  rw [hdrop]
  exact bind_eq_ok_iff.mpr ⟨_, hpiece, rfl⟩

/-- The collections that are open when a key has been read in a column. -/
def opened (column : Nat) (columns : List Nat) : List Nat :=
  if innermost columns < column then column :: columns else columns

/-- The token of the map that a key in a column begins, if it begins one. -/
def opening (column : Nat) (columns : List Nat) : List Token.Kind :=
  if innermost columns < column then [.blockMap] else []

/-- A map begins before the last two tokens, unless one is open in the column. -/
theorem roll_block {scalar key : Token} {p : Position} {column : Nat} :
    (block columns cursor (scalar :: key :: tokens) keyAllowed candidate atLineStart).roll column
        tokens.length
        .blockMap p =
      block (opened column columns) cursor
        (scalar :: key :: ((opening column columns).map (placed p) ++ tokens))
        keyAllowed candidate atLineStart := by
  have hlater : tokens.length + 1 + 1 - tokens.length = 2 := by omega
  have hroll :
      (block columns cursor (scalar :: key :: tokens) keyAllowed candidate atLineStart).roll column
      tokens.length .blockMap p =
        if innermost columns < (column : Int) then
          (block (column :: columns) cursor (scalar :: key :: tokens) keyAllowed candidate
            atLineStart).insert
            tokens.length .blockMap p
        else block columns cursor (scalar :: key :: tokens) keyAllowed candidate atLineStart := by
    cases columns <;> rfl
  rw [hroll, opened, opening]
  split
  · simp [insert, block, hlater, placed]
  · rfl

theorem resolve_block {scalar : Token} {c : Candidate} {p : Position}
    (hcount : c.tokens = tokens.length) :
    (block columns cursor (scalar :: tokens) keyAllowed (some c) atLineStart).resolve c p =
      .ok (block (opened c.position.column columns) cursor (scalar :: placed c.position .key ::
        ((opening c.position.column columns).map (placed c.position) ++ tokens)) false none
          atLineStart) := by
  have hlater : tokens.length + 1 - c.tokens = 1 := by omega
  have hkey : (block columns cursor (scalar :: tokens) keyAllowed (some c) atLineStart).insert
      c.tokens .key
      c.position =
        block columns cursor (scalar :: placed c.position .key :: tokens) keyAllowed
          (some c) atLineStart := by
    simp [insert, block, hlater, placed]
  rw [resolve, hkey, hcount]
  change Except.ok
    { (block columns cursor (scalar :: placed c.position .key :: tokens) keyAllowed (some c)
    atLineStart).roll c.position.column tokens.length .blockMap c.position with
      candidates := [none]
      keyAllowed := false } = _
  rw [roll_block]
  rfl

theorem act_colon (q : Position) {rest : List Char} (scalar : Token) {c : Candidate}
    (hcount : c.tokens = tokens.length) (hgap : Edition.early.isGap rest.head? = true) :
    (block columns ⟨q, ':' :: rest⟩ (scalar :: tokens) false (some c) false).act =
      .ok (block (opened c.position.column columns) ⟨q.after .early ':',
        rest⟩ (placed q .value :: scalar ::
        placed c.position .key :: ((opening c.position.column columns).map (placed c.position) ++
          tokens)) false none
          false) := by
  have htoken : (block columns ⟨q, ':' :: rest⟩ (scalar :: tokens) false (some c) false).act =
      (block columns ⟨q, ':' :: rest⟩ (scalar :: tokens) false (some c) false).valueMark
        .early := by
    have hmark : (block columns ⟨q, ':' :: rest⟩ (scalar :: tokens) false (some c) false).isMark
        .early ':' = true := by
      simp [isMark, block, Cursor.next?, hgap]
    have hdocument : Edition.early.atDocumentMark (':' :: rest) = false := rfl
    have hrest : (block columns ⟨q, ':' :: rest⟩ (scalar :: tokens) false
        (some c) false).cursor.rest = ':' :: rest :=
      rfl
    change token .early _ ':' = _
    simp [token, hmark, hrest, hdocument]
  rw [htoken, valueMark]
  refine bind_eq_ok_iff.mpr ⟨block columns ⟨q.after .early ':',
    rest⟩ (scalar :: tokens) false (some c) false, rfl, ?_⟩
  exact bind_eq_ok_iff.mpr ⟨_, resolve_block hcount, rfl⟩

/-- The state between the brackets of an empty collection. -/
def insideBrackets (columns : List Nat) (cursor : Cursor) (tokens : List Token) : Scan :=
  { block columns cursor tokens true none false with candidates := [none, none] }

theorem act_open {p : Position} {mark : Char} {kind : Token.Kind} {rest : List Char}
    (h : mark = '[' ∧ kind = .openList ∨ mark = '{' ∧ kind = .openMap) :
    (block columns ⟨p, mark :: rest⟩ tokens false none false).act =
      .ok (insideBrackets columns ⟨p.after .early mark, rest⟩ (placed p kind :: tokens)) := by
  have hrest : (block columns ⟨p, mark :: rest⟩ tokens false none false).cursor.rest =
      mark :: rest := rfl
  have hdocument : Edition.early.atDocumentMark (mark :: rest) = false := by
    rcases h with ⟨rfl, -⟩ | ⟨rfl, -⟩ <;> rfl
  change token .early _ mark = _
  rcases h with ⟨rfl, rfl⟩ | ⟨rfl, rfl⟩
  all_goals
    simp [token, hrest, hdocument]
    rfl

theorem act_close {p : Position} {mark : Char} {kind : Token.Kind} {rest : List Char}
    (h : mark = ']' ∧ kind = .closeList ∨ mark = '}' ∧ kind = .closeMap) :
    (insideBrackets columns ⟨p, mark :: rest⟩ tokens).act =
      .ok (block columns ⟨p.after .early mark, rest⟩ (placed p kind :: tokens)
        false none false) := by
  have hrest : (insideBrackets columns ⟨p, mark :: rest⟩ tokens).cursor.rest = mark :: rest := rfl
  have hdocument : Edition.early.atDocumentMark (mark :: rest) = false := by
    rcases h with ⟨rfl, -⟩ | ⟨rfl, -⟩ <;> rfl
  change token .early _ mark = _
  rcases h with ⟨rfl, rfl⟩ | ⟨rfl, rfl⟩
  all_goals
    simp [token, hrest, hdocument]
    rfl

theorem prepare_insideBrackets {p : Position} {c : Char} {rest : List Char}
    (hc : c = ']' ∨ c = '}') :
    (insideBrackets columns ⟨p, c :: rest⟩ tokens).prepare =
      .ok (insideBrackets columns ⟨p, c :: rest⟩ tokens) := by
  rcases hc with rfl | rfl <;> rfl

end

/-! ## From spot to spot -/

/-- From one spot, where the way is clear, a token is taken up to another spot. -/
def Yields (a b : Spot) : Prop := ∀ s t, Prepares s t → Ready a t → ∃ u, Reaches s u ∧ At b u

/-- From one spot the scan comes to another, where the way is clear. -/
def Arrives (a b : Spot) : Prop := ∀ s, At a s → ∃ u v, Reaches s u ∧ Prepares u v ∧ Ready b v

/-- From one spot the scan comes to another, and the way is clear at both. -/
def Passes (a b : Spot) : Prop :=
  ∀ s t, Prepares s t → Ready a t → ∃ u v, Reaches s u ∧ Prepares u v ∧ Ready b v

variable {a b c : Spot}

theorem Clears.arrives (h : Clears a b) : Arrives a b := fun s hs =>
  have ⟨t, hprepares, ht⟩ := h s hs
  ⟨s, t, .refl s, hprepares, ht⟩

theorem Passes.trans (h : Passes a b) (h' : Passes b c) : Passes a c := by
  intro s t hprepares ht
  obtain ⟨u, v, hreaches, hprepares', hv⟩ := h s t hprepares ht
  obtain ⟨u', v', hreaches', hprepares'', hv'⟩ := h' u v hprepares' hv
  exact ⟨u', v', hreaches.trans hreaches', hprepares'', hv'⟩

theorem Arrives.passes (h : Arrives a b) (h' : Passes b c) : Arrives a c := by
  intro s hs
  obtain ⟨u, v, hreaches, hprepares, hv⟩ := h s hs
  obtain ⟨u', v', hreaches', hprepares', hv'⟩ := h' u v hprepares hv
  exact ⟨u', v', hreaches.trans hreaches', hprepares', hv'⟩

theorem Yields.arrives (h : Yields a b) (h' : Arrives b c) : Passes a c := by
  intro s t hprepares ht
  obtain ⟨u, hreaches, hu⟩ := h s t hprepares ht
  obtain ⟨u', v, hreaches', hprepares', hv⟩ := h' u hu
  exact ⟨u', v, hreaches.trans hreaches', hprepares', hv⟩

/-! ### A key -/

theorem act_of_isPlain {s : Scan} {w rest : List Char} (h : IsPlain w)
    (hrest : s.cursor.rest = w ++ rest)
    (hnext : ∀ d ∈ rest.head?, d ≠ '-' ∧ d ≠ '.') (hflow : s.inFlow = false) :
    s.act = s.plainScalar .early := by
  obtain ⟨c, w', rfl⟩ := List.exists_cons_of_ne_nil h.ne_nil
  rw [act, Cursor.head?, hrest]
  exact token_of_isPlain h hrest hnext hflow

/-- The way to the colon is clear after a key, which is still a candidate. -/
theorem prepare_colon {q : Position} {rest : List Char} {tokens : List Token} {c : Candidate}
    (hline : c.position.line = q.line) (hindex : q.index ≤ c.position.index + maxKeyLength)
    (hcolumn : innermost columns ≤ q.column) :
    (block columns ⟨q, ':' :: rest⟩ tokens false (some c) false).prepare =
      .ok (block columns ⟨q, ':' :: rest⟩ tokens false (some c) false) := by
  have hfresh : (block columns ⟨q, ':' :: rest⟩ tokens false (some c) false).giveUpStale .early =
      .ok (block columns ⟨q, ':' :: rest⟩ tokens false (some c) false) :=
        giveUpStale_of_fresh hline hindex
  have hskip : (block columns ⟨q, ':' :: rest⟩ tokens false (some c) false).skipInterval .early =
      .ok (block columns ⟨q, ':' :: rest⟩ tokens false (some c) false) := rfl
  have hunroll : (block columns ⟨q, ':' :: rest⟩ tokens false (some c) false).unroll q.column =
      block columns ⟨q, ':' :: rest⟩ tokens false (some c) false := by
    rw [unroll_block, stillOpen_eq_self hcolumn, ends_eq_nil hcolumn]
    rfl
  exact bind_eq_ok_iff.mpr ⟨_, hfresh, bind_eq_ok_iff.mpr ⟨_, hskip, bind_eq_ok_iff.mpr
    ⟨_, hfresh, congrArg Except.ok hunroll⟩⟩⟩

theorem yields_key {w rest : List Char} (h : IsPlain w)
    (hshort : (String.ofList w).utf8ByteSize ≤ maxKeyLength)
    (hgap : Edition.early.isGap rest.head? = true) (hcolumn : innermost columns ≤ column) :
    Yields ⟨columns, kinds, true, column, w ++ ':' :: rest⟩
      ⟨opened column columns,
        .value :: .scalar .plain (String.ofList w) :: .key :: (opening column columns ++ kinds),
        false, column + w.length + 1, rest⟩ := by
  rintro s _ hprepares ⟨p, tokens, rfl, rfl, rfl⟩
  obtain ⟨isRequired, -, hnominate⟩ := nominate_block columns ⟨p, w ++ ':' :: rest⟩ tokens false
  have hact : (block columns ⟨p, w ++ ':' :: rest⟩ tokens true none false).act = .ok (block columns
      ⟨p.past w, ':' :: rest⟩ (placed p (.scalar .plain (String.ofList w)) :: tokens) false
        (some ⟨tokens.length, isRequired, p⟩) false) :=
    (act_of_isPlain h rfl (by simp) rfl).trans (plainScalar_block hnominate (plain_colon h hgap))
  obtain ⟨hline, hpast⟩ := Position.past_line (p := p) h.line
  have hindex : (p.past w).index ≤ p.index + maxKeyLength := by
    rw [Position.past_index]
    exact Nat.add_le_add_left hshort _
  have hcolumn' : innermost columns ≤ (p.past w).column := by
    rw [hpast]
    exact Int.le_trans hcolumn (Int.ofNat_le.mpr (Nat.le_add_right _ _))
  refine ⟨_, (hprepares.reaches hact ?_ ?_).trans (Prepares.reaches
    ⟨prepare_colon hline.symm hindex hcolumn', Nat.le_refl _⟩ (act_colon _ _ rfl hgap) ?_ ?_), ?_⟩
  · simp [Scan.kinds, block, placed]
  · simp [block, List.length_pos_iff.mpr h.ne_nil]
  · simp [Scan.kinds, block, placed]
  · simp [block]
  · refine ⟨_, _, none, false, rfl, nofun, ?_, ?_⟩
    · have hcolon : Edition.early.isBreak ':' = false := by decide
      simp [Position.after, hcolon, hpast]
    · rw [List.map_cons, List.map_cons, List.map_cons, kinds_placed]
      rfl

/-! ### Scalars -/

/-- A scalar, up to a line that does not belong to it. -/
theorem yields_scalar {w : List Char} (h : IsPlain w) (hbody : Begins body)
    (hn : n ≤ innermost columns) (hkey : keyAllowed = true → innermost columns < column) :
    Yields ⟨columns, kinds, keyAllowed, column, w ++ '\n' :: (indentation n ++ body)⟩
      ⟨columns, .scalar .plain (String.ofList w) :: kinds, true, n, body⟩ := by
  rintro s _ hprepares ⟨p, tokens, rfl, rfl, rfl⟩
  obtain ⟨candidate, hnominate, hspent⟩ : ∃ candidate,
      (block columns ⟨p, w ++ '\n' :: (indentation n ++ body)⟩ tokens keyAllowed none
        false).nominate .early =
        .ok (block columns ⟨p, w ++ '\n' :: (indentation n ++ body)⟩ tokens keyAllowed
          candidate false) ∧
      Spent candidate (p.line + 1) := by
    cases keyAllowed with
    | false => exact ⟨none, rfl, nofun⟩
    | true =>
      obtain ⟨isRequired, hrequired, hnominate⟩ :=
        nominate_block columns ⟨p, w ++ '\n' :: (indentation n ++ body)⟩ tokens false
      refine ⟨_, hnominate, ?_⟩
      rintro _ ⟨⟩
      exact ⟨hrequired (hkey rfl), Nat.lt_succ_self _⟩
  have hact := (act_of_isPlain h rfl (by simp) rfl).trans
    (plainScalar_block hnominate (plain_line h hbody (Int.lt_add_one_of_le hn)))
  obtain ⟨hline, hcolumn⟩ := (p.past w).nextLine n
  refine ⟨_, hprepares.reaches hact ?_ ?_, ⟨_, _, candidate, true, rfl, ?_, hcolumn, rfl⟩⟩
  · simp [Scan.kinds, block]
  · simp [block]
    omega
  · rw [hline, (Position.past_line (p := p) h.line).1]
    exact hspent

theorem act_dash {p : Position} {tokens : List Token} {rest : List Char}
    (hgap : Edition.early.isGap rest.head? = true) :
    (block (p.column :: columns) ⟨p, '-' :: rest⟩ tokens true none false).act =
      .ok (block (p.column :: columns) ⟨p.after .early '-', rest⟩ (placed p .dash :: tokens)
        true none false) := by
  have hdocument : Edition.early.atDocumentMark ('-' :: rest) = false := by
    refine Bool.eq_false_iff.mpr fun hat => ?_
    obtain ⟨x, -, htake⟩ := take_of_atDocumentMark hat
    cases rest with
    | nil => cases htake
    | cons d rest =>
      obtain ⟨rfl, htake⟩ := List.cons.inj htake
      cases (List.cons.inj htake).1
      cases hgap
  have hrest : (block (p.column :: columns) ⟨p, '-' :: rest⟩ tokens true none false).cursor.rest =
      '-' :: rest := rfl
  have htoken : (block (p.column :: columns) ⟨p, '-' :: rest⟩ tokens true none false).act =
      (block (p.column :: columns) ⟨p, '-' :: rest⟩ tokens true none false).dash .early := by
    change token .early _ '-' = _
    simp [token, hrest, hdocument, Cursor.next?, hgap]
  -- The list is in the column of the map around it, and so it does not begin a collection.
  have hroll : (block (p.column :: columns) ⟨p, '-' :: rest⟩ tokens true none false).roll
      p.column tokens.length
      .blockList p = block (p.column :: columns) ⟨p, '-' :: rest⟩ tokens true none false :=
        if_neg (Int.lt_irrefl _)
  rw [htoken, dash]
  change (do
    let s ← ((block (p.column :: columns) ⟨p, '-' :: rest⟩ tokens true none false).roll
      p.column tokens.length
      .blockList p).takeMark .early |>.forget
    return { s with keyAllowed := true }.push .dash p) = _
  rw [hroll]
  rfl

/-- The dash of an item. -/
theorem yields_dash {c : Nat} {rest : List Char} (hgap : Edition.early.isGap rest.head? = true) :
    Yields ⟨c :: columns, kinds, true, c, '-' :: rest⟩ ⟨c :: columns, .dash :: kinds, true,
      c + 1, rest⟩ := by
  rintro s _ hprepares ⟨p, tokens, rfl, rfl, rfl⟩
  have hdash : Edition.early.isBreak '-' = false := by decide
  refine ⟨_, hprepares.reaches (act_dash hgap) ?_ ?_, ⟨_, _, none, false, rfl, nofun, ?_, rfl⟩⟩
  · simp [Scan.kinds, block, placed]
  · simp [block]
  · simp [Position.after, hdash]

/-- The brackets of an empty collection. -/
theorem yields_brackets {l r : Char} {lk rk : Token.Kind} {rest : List Char}
    (h : l = '[' ∧ lk = .openList ∧ r = ']' ∧ rk = .closeList ∨ l = '{' ∧ lk = .openMap ∧ r = '}' ∧
      rk = .closeMap) :
    Yields ⟨columns, kinds, false, column, l :: r :: rest⟩ ⟨columns, rk :: lk :: kinds, false,
      column + 2, rest⟩ := by
  rintro s _ hprepares ⟨p, tokens, rfl, rfl, rfl⟩
  have hl : l = '[' ∧ lk = .openList ∨ l = '{' ∧ lk = .openMap :=
    h.imp (fun h => ⟨h.1, h.2.1⟩) fun h => ⟨h.1, h.2.1⟩
  have hr : r = ']' ∧ rk = .closeList ∨ r = '}' ∧ rk = .closeMap :=
    h.imp (fun h => ⟨h.2.2.1, h.2.2.2⟩) fun h => ⟨h.2.2.1, h.2.2.2⟩
  have hend : lk ≠ .theEnd ∧ rk ≠ .theEnd := by
    rcases h with ⟨-, rfl, -, rfl⟩ | ⟨-, rfl, -, rfl⟩ <;> simp
  have hline : Edition.early.isBreak l = false ∧ Edition.early.isBreak r = false := by
    rcases h with ⟨rfl, -, rfl, -⟩ | ⟨rfl, -, rfl, -⟩ <;> decide
  refine ⟨_, (hprepares.reaches (act_open hl) ?_ ?_).trans (Prepares.reaches
    ⟨prepare_insideBrackets (hr.imp And.left And.left), Nat.le_refl _⟩ (act_close hr) ?_ ?_),
    ⟨_, _, none, false, rfl, nofun, ?_, rfl⟩⟩
  · simpa [Scan.kinds, insideBrackets, block, placed] using hend.1
  · simp [insideBrackets, block]
  · simpa [Scan.kinds, block, placed] using hend.2
  · simp [insideBrackets, block]
  · simp [Position.after, hline]

end Scan

end RoundWorkflow.Yaml
