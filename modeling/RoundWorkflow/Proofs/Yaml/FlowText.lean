import RoundWorkflow.Proofs.JsonText
import RoundWorkflow.Proofs.Yaml.BlockText
import RoundWorkflow.Proofs.Yaml.FlowScan

/-!
# The JSON text of a value, scanned as YAML

The JSON text of a value is a text in brackets.  If no string of the value needs an escape and no
key is too long (`Quotable`), then the scan of the text finds the tokens of the value (`flowKinds`),
by induction over the value: what comes between two tokens are spaces, and inside of brackets also
line ends, and these separate the tokens of the one format as they do those of the other.

An item is read where a key may begin.  After it none may, until a comma comes (`Flow.Spans`).
-/

namespace RoundWorkflow.Yaml

open Scan

/-- A string whose characters all stand for themselves between quotes. -/
def IsQuotable (s : String) : Prop := ∀ c ∈ s.toList, isQuotable c = true

/-- A value of lists, of maps and of strings without escapes, with keys that can stand before their
values. -/
inductive Quotable : Json → Prop where
  | string {s : String} (h : IsQuotable s) : Quotable (.string s)
  | list {items : List Json} (h : ∀ j ∈ items, Quotable j) : Quotable (.array items)
  | map {members : List (String × Json)}
    (hkey : ∀ m ∈ members, IsQuotable m.1 ∧ m.1.utf8ByteSize + 2 ≤ Scan.maxKeyLength)
    (h : ∀ m ∈ members, Quotable m.2) : Quotable (.object members)

mutual

/-- The kinds of the tokens of a value in brackets. -/
def flowKinds : Json → List Token.Kind
  | .string s => [.scalar .quoted s]
  | .array items => .openList :: (flowItemKinds items ++ [.closeList])
  | .object members => .openMap :: (flowMemberKinds members ++ [.closeMap])
  | _ => []

/-- The kinds of the tokens of items, a comma between two. -/
def flowItemKinds : List Json → List Token.Kind
  | [] => []
  | [j] => flowKinds j
  | j :: rest => flowKinds j ++ .comma :: flowItemKinds rest

/-- The kinds of the tokens of members, a comma between two. -/
def flowMemberKinds : List (String × Json) → List Token.Kind
  | [] => []
  | [(k, j)] => .key :: .scalar .quoted k :: .value :: flowKinds j
  | (k, j) :: rest =>
    .key :: .scalar .quoted k :: .value :: (flowKinds j ++ .comma :: flowMemberKinds rest)

end

/-! ## What is written -/

theorem escapeChar_of_isQuotable {c : Char} (h : isQuotable c = true) :
    Json.escapeChar c = [c] := by
  obtain ⟨hwritable, hline, hquote, hescape⟩ := isQuotable_iff.mp h
  have hcode : 32 ≤ c.toNat := by
    have hbreak : c.toNat ≠ 10 := by
      intro hc
      rw [← c.ofNat_toNat, hc] at hline
      cases hline
    simp only [isWritable, Bool.or_eq_true, Bool.and_eq_true, decide_eq_true_eq] at hwritable
    omega
  have hne {d : Char} (hd : d.toNat < 32) : c ≠ d := by
    rintro rfl
    omega
  have hsmall : ¬c.toNat < 32 := Nat.not_lt.mpr hcode
  have hbackspace : c.toNat ≠ 8 := by omega
  have hfeed : c.toNat ≠ 12 := by omega
  simp [Json.escapeChar, hquote, hescape, hsmall, hbackspace, hfeed, hne (d := '\n') (by decide),
    hne (d := '\r') (by decide), hne (d := '\t') (by decide)]

theorem quoted_of_isQuotable {s : String} (h : IsQuotable s) :
    Json.quoted s = '"' :: (s.toList ++ ['"']) := by
  have hescape : s.toList.flatMap Json.escapeChar = s.toList := by
    rw [List.flatMap_congr fun c hc => escapeChar_of_isQuotable (h c hc)]
    simp
  rw [Json.quoted, hescape]

theorem utf8ByteSize_quotes (s : String) :
    (String.ofList ('"' :: (s.toList ++ ['"']))).utf8ByteSize = s.utf8ByteSize + 2 := by
  have hquote : (String.ofList ['"']).utf8ByteSize = 1 := by decide
  have hopen : ('"' : Char).utf8Size = 1 := by decide
  rw [String.ofList_cons, String.ofList_append, String.utf8ByteSize_append,
    String.utf8ByteSize_append, String.utf8ByteSize_singleton, String.ofList_toList, hopen, hquote]
  omega

namespace Flow

variable {depth : Nat} {kinds : List Token.Kind} {keyAllowed : Bool} {blanks rest : List Char}

theorem all_isBlank_newLine (level : Nat) : (Json.newLine level).all (isBlank true) = true := by
  simp [Json.newLine, isBlank]

theorem all_isWritable_quoted {s : String} (h : IsQuotable s) :
    (Json.quoted s).all isWritable = true := by
  have hquote : isWritable '"' = true := by decide
  have hs : s.toList.all isWritable = true :=
    List.all_eq_true.mpr fun c hc => (isQuotable_iff.mp (h c hc)).1
  simp [quoted_of_isQuotable h, hquote, hs]

theorem all_isWritable_newLine (level : Nat) : (Json.newLine level).all isWritable = true := by
  have hline : isWritable '\n' = true := by decide
  rw [Json.newLine, List.all_cons, hline]
  exact all_isWritable_indentation _

/-! ## Items -/

/-- Where a key may begin, the scan passes over a text and finds the tokens of these kinds. -/
structure Spans (depth : Nat) (text : List Char) (found : List Token.Kind) : Prop where
  writable : text.all isWritable = true
  passes : ∀ kinds rest,
  Passes ⟨depth, kinds, true, text ++ rest⟩ ⟨depth, found.reverse ++ kinds, false, rest⟩

theorem Spans.comma {text text' : List Char} {found found' : List Token.Kind}
    (h : Spans depth text found) (h' : Spans depth text' found') :
    Spans depth (text ++ ',' :: text') (found ++ .comma :: found') where
  writable := by
    rw [List.all_append, List.all_cons, h.writable, h'.writable]
    decide
  passes kinds rest := by
    have hrest := h'.passes (.comma :: (found.reverse ++ kinds)) rest
    have hall := (h.passes kinds (',' :: (text' ++ rest))).trans (passes_comma.trans hrest)
    simpa using hall

/-- The text of a value, over which the scan passes after any blanks. -/
structure IsPassed (j : Json) : Prop where
  writable : ∀ level, (j.prettyChars level).all isWritable = true
  passes : ∀ level depth kinds keyAllowed blanks rest, blanks.all (isBlank (0 < depth)) = true →
    Passes ⟨depth, kinds, keyAllowed, blanks ++ (j.prettyChars level ++ rest)⟩
      ⟨depth, (flowKinds j).reverse ++ kinds, false, rest⟩

theorem spans_item {j : Json} (h : IsPassed j) (level : Nat) :
    Spans (depth + 1) (Json.newLine level ++ j.prettyChars level) (flowKinds j) where
  writable := by rw [List.all_append, all_isWritable_newLine, h.writable]; rfl
  passes kinds rest := by
    rw [List.append_assoc]
    exact h.passes level _ _ _ _ _ (by simpa using all_isBlank_newLine level)

theorem spans_items {level : Nat} {j : Json} {items : List Json}
    (h : ∀ i ∈ j :: items, IsPassed i) :
    Spans (depth + 1) (Json.prettyItems level (j :: items)) (flowItemKinds (j :: items)) :=
  Json.separated Spans.comma (fun i => Json.newLine level ++ i.prettyChars level) flowKinds
    (fun _ => ⟨rfl, rfl⟩) (fun _ _ _ => ⟨rfl, rfl⟩) fun i hi => spans_item (h i hi) level

theorem spans_member {k : String} {j : Json} (hkey : IsQuotable k)
    (hshort : k.utf8ByteSize + 2 ≤ Scan.maxKeyLength) (h : IsPassed j) (level : Nat) :
    Spans (depth + 1) (Json.newLine level ++ Json.quoted k ++ ':' :: ' ' :: j.prettyChars level)
      (.key :: .scalar .quoted k :: .value :: flowKinds j) where
  writable := by
    simp only [List.all_append, List.all_cons, all_isWritable_newLine,
      all_isWritable_quoted hkey, h.writable]
    decide
  passes kinds rest := by
    rw [← utf8ByteSize_quotes] at hshort
    have hname : Passes ⟨depth + 1, kinds, true, _⟩ ⟨depth + 1, _, false,
      ' ' :: (j.prettyChars level ++ rest)⟩ :=
      passes_key hkey hshort (all_isBlank_newLine level)
    have hmember := hname.trans (h.passes level _ _ _ [' '] rest (by simp [isBlank]))
    rw [quoted_of_isQuotable hkey]
    simpa using hmember

theorem spans_members {level : Nat} {m : String × Json} {members : List (String × Json)}
    (hkey : ∀ n ∈ m :: members, IsQuotable n.1 ∧ n.1.utf8ByteSize + 2 ≤ Scan.maxKeyLength)
    (h : ∀ n ∈ m :: members, IsPassed n.2) :
    Spans (depth + 1) (Json.prettyMembers level (m :: members))
      (flowMemberKinds (m :: members)) := by
  refine Json.separated (P := Spans (depth + 1)) Spans.comma
    (fun n => Json.newLine level ++ Json.quoted n.1 ++ ':' :: ' ' :: n.2.prettyChars level)
    (fun n => .key :: .scalar .quoted n.1 :: .value :: flowKinds n.2)
    (fun _ => ⟨rfl, rfl⟩) (fun n n' _ => ⟨?_, rfl⟩) fun n hn => ?_
  · simp [Json.prettyMembers]
  · exact spans_member (hkey n hn).1 (hkey n hn).2 (h n hn) level

/-! ## Values -/

/-- The marks of a list or of a map. -/
def AreBrackets (l r : Char) (lk rk : Token.Kind) : Prop :=
  l = '[' ∧ lk = .openList ∧ r = ']' ∧ rk = .closeList ∨ l = '{' ∧ lk = .openMap ∧
    r = '}' ∧ rk = .closeMap

section

variable {l r : Char} {lk rk : Token.Kind}

theorem passes_brackets {text blanks' : List Char} {found : List Token.Kind} {keyAllowed' : Bool}
    (h : AreBrackets l r lk rk) (hblanks : blanks.all (isBlank (0 < depth)) = true)
    (hblanks' : blanks'.all (isBlank true) = true)
    (hinside : Passes ⟨depth + 1, lk :: kinds, true, text⟩ ⟨depth + 1, found, keyAllowed',
      blanks' ++ r :: rest⟩) :
    Passes ⟨depth, kinds, keyAllowed, blanks ++ l :: text⟩ ⟨depth, rk :: found, false, rest⟩ := by
  have hl : l = '[' ∧ lk = .openList ∨ l = '{' ∧ lk = .openMap :=
    h.imp (fun h => ⟨h.1, h.2.1⟩) fun h => ⟨h.1, h.2.1⟩
  have hr : r = ']' ∧ rk = .closeList ∨ r = '}' ∧ rk = .closeMap :=
    h.imp (fun h => h.2.2) fun h => h.2.2
  exact (passes_open hl hblanks).trans (hinside.trans (passes_close hr hblanks'))

theorem passes_empty (h : AreBrackets l r lk rk)
    (hblanks : blanks.all (isBlank (0 < depth)) = true) :
    Passes ⟨depth, kinds, keyAllowed, blanks ++ l :: r :: rest⟩ ⟨depth, rk :: lk :: kinds,
      false, rest⟩ := by
  have hinside : Passes ⟨depth + 1, lk :: kinds, true, r :: rest⟩ ⟨depth + 1, lk :: kinds, true,
    [] ++ r :: rest⟩ :=
    .refl _
  exact passes_brackets h hblanks rfl hinside

/-- A collection with items, each of them on lines of its own. -/
theorem isPassed_collection {j : Json} (text : Nat → List Char) {found : List Token.Kind}
    (h : AreBrackets l r lk rk)
    (htext : ∀ level, j.prettyChars level = l :: (text (level + 1) ++ Json.newLine level ++ [r]))
    (hfound : flowKinds j = lk :: (found ++ [rk]))
    (hinside : ∀ level depth, Spans (depth + 1) (text level) found) :
    IsPassed j where
  writable level := by
    have hbrackets : isWritable l = true ∧ isWritable r = true := by
      rcases h with ⟨rfl, -, rfl, -⟩ | ⟨rfl, -, rfl, -⟩ <;> decide
    have hitems := (hinside (level + 1) 0).writable
    simp only [htext, List.all_cons, List.all_append, hbrackets, hitems, all_isWritable_newLine]
    rfl
  passes level depth kinds keyAllowed blanks rest hblanks := by
    have hlines :=
      (hinside (level + 1) depth).passes (lk :: kinds) (Json.newLine level ++ r :: rest)
    have hall : Passes ⟨depth, kinds, keyAllowed, _⟩ _ :=
      passes_brackets h hblanks (all_isBlank_newLine level) hlines
    rw [htext, hfound]
    simpa using hall

end

theorem isPassed_string {s : String} (h : IsQuotable s) : IsPassed (.string s) := by
  have htext (level : Nat) : Json.prettyChars level (.string s) = '"' :: (s.toList ++ ['"']) := by
    rw [← quoted_of_isQuotable h]
    rfl
  refine ⟨fun level => ?_, fun level depth kinds keyAllowed blanks rest hblanks => ?_⟩
  · rw [htext, ← quoted_of_isQuotable h]
    exact all_isWritable_quoted h
  · have hquoted : Passes ⟨depth, kinds, keyAllowed, _⟩ ⟨depth, _, false, rest⟩ :=
      passes_quoted h hblanks
    rw [String.ofList_toList] at hquoted
    rw [htext]
    simpa [flowKinds] using hquoted

theorem isPassed_of_quotable {j : Json} (h : Quotable j) : IsPassed j := by
  induction h with
  | string h => exact isPassed_string h
  | @list items _ ih =>
    have hlist : AreBrackets '[' ']' .openList .closeList := .inl ⟨rfl, rfl, rfl, rfl⟩
    cases items with
    | nil => exact ⟨fun _ => rfl, fun _ _ _ _ _ _ => passes_empty hlist⟩
    | cons j items =>
      exact isPassed_collection (Json.prettyItems · (j :: items)) hlist (fun _ => rfl) rfl
        fun _ _ => spans_items ih
  | @map members hkey _ ih =>
    have hmap : AreBrackets '{' '}' .openMap .closeMap := .inr ⟨rfl, rfl, rfl, rfl⟩
    cases members with
    | nil => exact ⟨fun _ => rfl, fun _ _ _ _ _ _ => passes_empty hmap⟩
    | cons m members =>
      exact isPassed_collection (Json.prettyMembers · (m :: members)) hmap (fun _ => rfl) rfl
        fun _ _ => spans_members hkey ih

/-! ## The whole text -/

/-- At the end of the text the scan is over. -/
theorem act_end {p : Position} {tokens : List Token} {candidate : Option Candidate}
    {outer : List (Option Candidate)}
    {atLineStart : Bool} {adjacent : Option Nat} (h : Loose (candidate :: outer)) :
    ∃ q, (state ⟨p, []⟩ tokens keyAllowed candidate outer atLineStart adjacent).act =
      .ok (state ⟨q, []⟩ (placed q .theEnd :: tokens) false none outer atLineStart adjacent) := by
  have hend (q : Position) :
      (state ⟨q, []⟩ tokens keyAllowed candidate outer atLineStart adjacent).endDocument =
      .ok (state ⟨q, []⟩ tokens false none outer atLineStart adjacent) := by
    rw [endDocument, unroll_state, forget_state h]
    rfl
  refine ⟨if p.column = 0 then p else ⟨p.index, p.line + 1, 0⟩, ?_⟩
  change finish .early (state ⟨p, []⟩ ..) = _
  rw [finish]
  exact bind_eq_ok_iff.mpr ⟨_, hend _, rfl⟩

/-- The scan of the text of a value finds the tokens of the value. -/
theorem tokens_pretty {j : Json} (h : Quotable j) :
    ∃ tokens, Edition.early.tokens j.pretty.toList = ⟨tokens, none⟩ ∧
      tokens.map Token.kind = flowKinds j ++ [.theEnd] := by
  have hj := isPassed_of_quotable h
  have hwritable := hj.writable 0
  have hpasses := hj.passes 0 0 [] true [] [] rfl
  rw [Json.pretty, String.toList_ofList]
  generalize j.prettyChars 0 = cs at *
  rw [List.nil_append, List.append_nil] at hpasses
  obtain ⟨u, hreaches, hu⟩ :=
    hpasses _ ⟨.start, [], none, [], true, none, rfl,
      loose_none.mpr (List.forall_mem_nil _), rfl, rfl⟩
  obtain ⟨t, hprepares, p, tokens, candidate, outer, _, _, rfl, hloose, -, hkinds⟩ :=
    hu.prepares [] rfl (by simp [Begins])
  obtain ⟨q, hact⟩ := act_end hloose
  refine ⟨(placed q .theEnd :: tokens).reverse,
    tokens_of_reaches hwritable hreaches hprepares.prepare hact rfl, ?_⟩
  rw [List.map_reverse, List.map_cons, hkinds]
  simp [placed]

end Flow

end RoundWorkflow.Yaml
