import RoundWorkflow.Json.Reader
import Mathlib.Data.List.TakeWhile
import Mathlib.Tactic.SplitIfs

/-!
# JSON text and its value

A value is read back from its text (`ofText?_pretty`, `ofText?_compact`).  The way from the text to
the value has two stages, and each is followed by itself.

The pass over the characters finds the tokens of the value (`Scans`).  What stands after a number or
a word ends it, so what is found in a text is said for every continuation that cannot go on with
either (`Delimited`).  A string may have any characters in it: each of them is one piece again,
whether it was written as itself, by a letter or by its number (`exists_piece`).

The machine then takes the tokens of a value off their list, and has the value complete, whatever is
open around it (`Builds`).
-/

namespace RoundWorkflow

namespace Text

/-! ## The digits of a number -/

theorem digit_ne_zero_of_lt : ∀ n, n < 10 → 0 < n → digit n ≠ '0' := by decide

/-- The digits of a number other than zero do not begin with zero. -/
theorem numeral_head_ne_zero {n : Nat} (h : 0 < n) : (numeral n).head? ≠ some '0' := by
  rw [numeral]
  split
  · rename_i hn
    simpa using digit_ne_zero_of_lt n hn h
  · rename_i hn
    obtain ⟨d, ds, hds⟩ := List.exists_cons_of_ne_nil (numeral_ne_nil (n / 10))
    have ih := numeral_head_ne_zero (n := n / 10) (by omega)
    rw [hds] at ih ⊢
    exact ih
termination_by n

end Text

namespace Json

/-! ## Values that have a text -/

/-- Every part of a value denotes something, and its numbers are whole numbers of 64 bits. -/
inductive Exact : Json → Prop where
  | null : Exact .null
  | bool (b : Bool) : Exact (.bool b)
  | integer {i : Int} (hlow : -Nat.pow 2 63 ≤ i) (hhigh : i < UInt64.size) :
      Exact (.number (.integer i))
  | string (s : String) : Exact (.string s)
  | array {items : List Json} (h : ∀ j ∈ items, Exact j) : Exact (.array items)
  | object {members : List (String × Json)} (h : ∀ m ∈ members, Exact m.2) : Exact (.object members)

mutual

/-- The tokens of a value. -/
def tokens : Json → List Token
  | .array items => .openArray :: (itemTokens items ++ [.closeArray])
  | .object members => .openObject :: (memberTokens members ++ [.closeObject])
  | .string s => [.text (some s)]
  | j => [.scalar j]

/-- The tokens of the elements of an array, a comma between two. -/
def itemTokens : List Json → List Token
  | [] => []
  | [j] => j.tokens
  | j :: rest => j.tokens ++ .comma :: itemTokens rest

/-- The tokens of the members of an object, a comma between two. -/
def memberTokens : List (String × Json) → List Token
  | [] => []
  | [(k, j)] => .text (some k) :: .colon :: j.tokens
  | (k, j) :: rest => .text (some k) :: .colon :: (j.tokens ++ .comma :: memberTokens rest)

end

/-! ## The pass over a text -/

/-- What a pass has found when the text is over. -/
def Scan.outcome (s : Scan) (cs : List Char) : Option (List Token) := (s.run cs).bind Scan.finish

theorem Scan.outcome_cons {s s' : Scan} {c : Char} {cs : List Char} (h : s.step c = some s') :
    s.outcome (c :: cs) = s'.outcome cs := by
  rw [outcome, run, h, outcome]

/-- No character that a number or a word might go on with comes first. -/
def Delimited (rest : List Char) : Prop :=
  ∀ c ∈ rest.head?, isNumberChar c = false ∧ c.isAlpha = false

theorem delimited_nil : Delimited [] := fun _ hc => nomatch hc

theorem delimited_cons {c : Char} {rest : List Char} (h : (!isNumberChar c && !c.isAlpha) = true) :
    Delimited (c :: rest) := by
  rintro _ ⟨⟩
  simpa using h

/-- Between two tokens, a text has these tokens in it, and then comes what comes after it. -/
def Scans (text : List Char) (found : List Token) : Prop :=
  ∀ tokens rest, Delimited rest →
    Scan.outcome ⟨.between, tokens⟩ (text ++ rest) = Scan.outcome ⟨.between,
      found.reverse ++ tokens⟩ rest

theorem scans_nil : Scans [] [] := fun _ _ _ => rfl

theorem Scans.append {text text' : List Char} {found found' : List Token} (h : Scans text found)
    (h' : Scans text' found') (hnext : ∀ rest, Delimited rest → Delimited (text' ++ rest)) :
    Scans (text ++ text') (found ++ found') := by
  intro tokens rest hrest
  rw [List.append_assoc, h _ _ (hnext rest hrest), h' _ _ hrest, List.reverse_append,
    List.append_assoc]

theorem Scans.blank {c : Char} {text : List Char} {found : List Token} (h : Scans text found)
    (hc : ∀ tokens, stepBetween tokens c = some ⟨.between, tokens⟩) : Scans (c :: text) found := by
  intro tokens rest hrest
  have hstep : Scan.step ⟨.between, tokens⟩ c = some ⟨.between, tokens⟩ := hc tokens
  rw [List.cons_append, Scan.outcome_cons hstep, h _ _ hrest]

/-- A token that is one character. -/
theorem Scans.mark {c : Char} {t : Token} {text : List Char} {found : List Token}
    (h : Scans text found) (hc : ∀ tokens, stepBetween tokens c = some ⟨.between, t :: tokens⟩) :
    Scans (c :: text) (t :: found) := by
  intro tokens rest hrest
  have hstep : Scan.step ⟨.between, tokens⟩ c = some ⟨.between, t :: tokens⟩ := hc tokens
  rw [List.cons_append, Scan.outcome_cons hstep, h _ _ hrest, List.reverse_cons, List.append_assoc]
  rfl

theorem Scans.newLine_append {text : List Char} {found : List Token} (h : Scans text found)
    (level : Nat) :
    Scans (newLine level ++ text) found := by
  have hblanks : ∀ n, Scans (List.replicate n ' ' ++ text) found := by
    intro n
    induction n with
    | zero => exact h
    | succ n ih => exact ih.blank fun _ => rfl
  exact (hblanks _).blank fun _ => rfl

/-! ### Strings -/

theorem assemble_unit {n : Nat} (h : n < 0xD800) (pieces : List Piece) :
    assemble (.unit n :: pieces) = (assemble pieces).map (Char.ofNat n :: ·) := by
  have hhigh : isHighHalf n = false := by simp [isHighHalf]; omega
  have hlow : isLowHalf n = false := by simp [isLowHalf]; omega
  cases pieces with
  | nil => simp [assemble, hhigh, hlow]
  | cons p pieces => cases p <;> simp [assemble, hhigh, hlow]

theorem hexValue?_hexDigit : ∀ n, n < 16 → hexValue? (hexDigit n) = some n := by decide

/-- A character inside a string is written with a letter, by its number, or as itself. -/
theorem escapeChar_cases (c : Char) :
    (∃ letter, simpleEscape? letter = some c ∧ letter ≠ 'u' ∧ escapeChar c = ['\\', letter]) ∨
      (c.toNat < 32 ∧ escapeChar c = ['\\', 'u', '0', '0', hexDigit (c.toNat / 16),
        hexDigit (c.toNat % 16)]) ∨
      (c ≠ '"' ∧ c ≠ '\\' ∧ ¬c.toNat < 32 ∧ escapeChar c = [c]) := by
  have hcode : ∀ n, c.toNat = n → c = Char.ofNat n := fun n hn => hn ▸ (Char.ofNat_toNat c).symm
  unfold escapeChar
  split_ifs with hquote hbackslash hline hreturn htab hbackspace hfeed hcontrol
  · exact .inl ⟨'"', congrArg some hquote.symm, by decide, rfl⟩
  · exact .inl ⟨'\\', congrArg some hbackslash.symm, by decide, rfl⟩
  · exact .inl ⟨'n', congrArg some hline.symm, by decide, rfl⟩
  · exact .inl ⟨'r', congrArg some hreturn.symm, by decide, rfl⟩
  · exact .inl ⟨'t', congrArg some htab.symm, by decide, rfl⟩
  · exact .inl ⟨'b', congrArg some (hcode 8 hbackspace).symm, by decide, rfl⟩
  · exact .inl ⟨'f', congrArg some (hcode 12 hfeed).symm, by decide, rfl⟩
  · exact .inr (.inl ⟨hcontrol, rfl⟩)
  · exact .inr (.inr ⟨hquote, hbackslash, hcontrol, rfl⟩)

/-- A character inside a string is read as one piece, which stands for it. -/
theorem exists_piece (c : Char) :
    ∃ p, (∀ pieces, assemble (p :: pieces) = (assemble pieces).map (c :: ·)) ∧
      ∀ pieces tokens rest, Scan.outcome ⟨.text pieces, tokens⟩ (escapeChar c ++ rest) =
        Scan.outcome ⟨.text (p :: pieces), tokens⟩ rest := by
  rcases escapeChar_cases c with ⟨letter, hescape, hu, htext⟩ | ⟨hcontrol, htext⟩ |
    ⟨hquote, hbackslash, hcontrol, htext⟩
  · refine ⟨.char c, fun _ => rfl, fun pieces tokens rest => ?_⟩
    have hstep : Scan.step ⟨.escape pieces, tokens⟩ letter =
        some ⟨.text (.char c :: pieces), tokens⟩ := by
      simp [Scan.step, hu, hescape]
    rw [htext]
    exact (Scan.outcome_cons rfl).trans (Scan.outcome_cons hstep)
  · refine ⟨.unit c.toNat, fun pieces => ?_, fun pieces tokens rest => ?_⟩
    · rw [assemble_unit (by omega), Char.ofNat_toNat]
    · have hfirst : Scan.step ⟨.unit pieces 0 2, tokens⟩ (hexDigit (c.toNat / 16)) =
          some ⟨.unit pieces (c.toNat / 16) 1, tokens⟩ := by
        simp [Scan.step, hexValue?_hexDigit (c.toNat / 16) (by omega)]
      have hlast : Scan.step ⟨.unit pieces (c.toNat / 16) 1, tokens⟩ (hexDigit (c.toNat % 16)) =
          some ⟨.text (.unit c.toNat :: pieces), tokens⟩ := by
        simp [Scan.step, hexValue?_hexDigit (c.toNat % 16) (by omega), Nat.div_add_mod]
      rw [htext]
      calc Scan.outcome ⟨.text pieces, tokens⟩ (['\\', 'u', '0', '0', _, _] ++ rest)
        _ = Scan.outcome ⟨.unit pieces 0 2, tokens⟩ (_ :: _ :: rest) := rfl
        _ = Scan.outcome ⟨.unit pieces (c.toNat / 16) 1, tokens⟩ (_ :: rest) :=
          Scan.outcome_cons hfirst
        _ = Scan.outcome ⟨.text (.unit c.toNat :: pieces), tokens⟩ rest := Scan.outcome_cons hlast
  · refine ⟨.char c, fun _ => rfl, fun pieces tokens rest => ?_⟩
    rw [htext]
    exact Scan.outcome_cons (by simp [Scan.step, hquote, hbackslash, hcontrol])

/-- The characters of a string are read as pieces that stand for them. -/
theorem exists_pieces (cs : List Char) :
    ∃ ps, assemble ps = some cs ∧
      ∀ pieces tokens rest, Scan.outcome ⟨.text pieces, tokens⟩ (cs.flatMap escapeChar ++ rest) =
        Scan.outcome ⟨.text (ps.reverse ++ pieces), tokens⟩ rest := by
  induction cs with
  | nil => exact ⟨[], rfl, fun _ _ _ => rfl⟩
  | cons c cs ih =>
    obtain ⟨p, hp, hstep⟩ := exists_piece c
    obtain ⟨ps, hps, hrun⟩ := ih
    refine ⟨p :: ps, by rw [hp, hps]; rfl, fun pieces tokens rest => ?_⟩
    rw [List.flatMap_cons, List.append_assoc, hstep, hrun, List.reverse_cons, List.append_assoc]
    rfl

theorem scans_quoted (s : String) : Scans (quoted s) [.text (some s)] := by
  obtain ⟨ps, hps, hrun⟩ := exists_pieces s.toList
  intro tokens rest _
  have hclose : Scan.step ⟨.text ps.reverse, tokens⟩ '"' = some ⟨.between,
      .text (some s) :: tokens⟩ := by
    simp [Scan.step, hps]
  calc Scan.outcome ⟨.between, tokens⟩ (quoted s ++ rest)
    _ = Scan.outcome ⟨.text [], tokens⟩ (s.toList.flatMap escapeChar ++ '"' :: rest) := by
      rw [quoted, List.cons_append, List.append_assoc]
      exact Scan.outcome_cons rfl
    _ = Scan.outcome ⟨.text ps.reverse, tokens⟩ ('"' :: rest) := by rw [hrun, List.append_nil]
    _ = Scan.outcome ⟨.between, .text (some s) :: tokens⟩ rest := Scan.outcome_cons hclose

/-! ### Numbers and words -/

/-- A word or a number is gathered up to a character that it cannot go on with, and then it is
complete. -/
theorem scans_gathered (mode : List Char → Mode) {c : Char} {cs : List Char} {j : Json}
    (hfirst : ∀ tokens, stepBetween tokens c = some ⟨mode [c], tokens⟩)
    (hmore : ∀ d ∈ cs, ∀ gathered tokens, Scan.step ⟨mode gathered, tokens⟩ d = some
      ⟨mode (d :: gathered), tokens⟩)
    (hnext : ∀ d, isNumberChar d = false → d.isAlpha = false → ∀ tokens,
      Scan.step ⟨mode (c :: cs).reverse, tokens⟩ d = stepBetween (.scalar j :: tokens) d)
    (hend : ∀ tokens, Scan.finish ⟨mode (c :: cs).reverse, tokens⟩ = some
      (.scalar j :: tokens).reverse) :
    Scans (c :: cs) [.scalar j] := by
  intro tokens rest hrest
  have hgather : ∀ gathered, Scan.outcome ⟨mode gathered, tokens⟩ (cs ++ rest) =
      Scan.outcome ⟨mode (cs.reverse ++ gathered), tokens⟩ rest := by
    clear hend hnext hrest hfirst
    induction cs with
    | nil => exact fun _ => rfl
    | cons d cs ih =>
      intro gathered
      rw [List.cons_append, Scan.outcome_cons (hmore d List.mem_cons_self gathered tokens),
        ih fun d' hd' => hmore d' (List.mem_cons_of_mem _ hd'), List.reverse_cons,
        List.append_assoc]
      rfl
  have hcomplete : Scan.outcome ⟨mode (c :: cs).reverse, tokens⟩ rest =
      Scan.outcome ⟨.between, .scalar j :: tokens⟩ rest := by
    cases rest with
    | nil => exact hend tokens
    | cons d rest =>
      obtain ⟨hnumber, hword⟩ := hrest d rfl
      rw [Scan.outcome, Scan.run, hnext d hnumber hword tokens]
      rfl
  calc Scan.outcome ⟨.between, tokens⟩ (c :: cs ++ rest)
    _ = Scan.outcome ⟨mode [c], tokens⟩ (cs ++ rest) := Scan.outcome_cons (hfirst tokens)
    _ = Scan.outcome ⟨mode (c :: cs).reverse, tokens⟩ rest := by rw [hgather, List.reverse_cons]
    _ = Scan.outcome ⟨.between, .scalar j :: tokens⟩ rest := hcomplete

theorem scans_word {c : Char} {cs : List Char} {j : Json}
    (hfirst : ∀ tokens, stepBetween tokens c = some ⟨.word [c], tokens⟩)
    (hletters : cs.all Char.isAlpha = true)
    (hword : word? (c :: cs) = some j) : Scans (c :: cs) [.scalar j] := by
  refine scans_gathered .word hfirst (fun d hd gathered tokens => ?_) (fun d _ hd tokens =>
    ?_) fun tokens => ?_
  · exact if_pos (List.all_eq_true.mp hletters d hd)
  · simp [Scan.step, hd, hword]
  · simp [Scan.finish, hword]

theorem scans_number {c : Char} {cs : List Char} {j : Json}
    (hfirst : ∀ tokens, stepBetween tokens c = some ⟨.number [c], tokens⟩)
    (hchars : cs.all isNumberChar = true)
    (hnumber : number? (c :: cs) = some j) : Scans (c :: cs) [.scalar j] := by
  refine scans_gathered .number hfirst (fun d hd gathered tokens => ?_) (fun d hd _ tokens =>
    ?_) fun tokens => ?_
  · exact if_pos (List.all_eq_true.mp hchars d hd)
  · simp [Scan.step, hd, hnumber]
  · simp [Scan.finish, hnumber]

theorem stepBetween_of_isDigit {c : Char} (h : c.isDigit = true) (tokens : List Token) :
    stepBetween tokens c = some ⟨.number [c], tokens⟩ := by
  unfold stepBetween
  split
  all_goals first | cases h | exact if_pos h

/-- A digit is neither a point nor the mark of an exponent. -/
theorem isDigit_plain {c : Char} (h : c.isDigit = true) :
    c ≠ '.' ∧ c ≠ 'e' ∧ c ≠ 'E' ∧ c ≠ '-' := by
  refine ⟨?_, ?_, ?_, ?_⟩
  all_goals
    rintro rfl
    cases h

theorem ofText_digits {cs : List Char} (h : ∀ c ∈ cs, c.isDigit = true) :
    Double.Literal.ofText cs = ⟨cs, none, none⟩ := by
  have hmark : ∀ c ∈ cs, (!(decide (c = 'e') || decide (c = 'E'))) = true := fun c hc => by
    simp [isDigit_plain (h c hc)]
  have hpoint : ∀ c ∈ cs, decide (c ≠ '.') = true :=
    fun c hc => decide_eq_true (isDigit_plain (h c hc)).1
  have hbody : cs.takeWhile (fun c => !(decide (c = 'e') || decide (c = 'E'))) = cs :=
    List.takeWhile_eq_self_iff.mpr hmark
  have hexponent : cs.dropWhile (fun c => !(decide (c = 'e') || decide (c = 'E'))) = [] :=
    List.dropWhile_eq_nil_iff.mpr hmark
  have hfraction : cs.dropWhile (fun c => decide (c ≠ '.')) = [] :=
    List.dropWhile_eq_nil_iff.mpr hpoint
  have hwhole : cs.takeWhile (fun c => decide (c ≠ '.')) = cs :=
    List.takeWhile_eq_self_iff.mpr hpoint
  simp only [Double.Literal.ofText, hbody, hexponent, hfraction, hwhole]

theorem wholePartOk_numeral (n : Nat) : wholePartOk (Text.numeral n) = true := by
  obtain rfl | hn := Nat.eq_zero_or_pos n
  · rw [Text.numeral]
    rfl
  · obtain ⟨d, ds, hds⟩ := List.exists_cons_of_ne_nil (Text.numeral_ne_nil n)
    have hzero : d ≠ '0' := by simpa [hds] using Text.numeral_head_ne_zero hn
    rw [hds]
    simp [wholePartOk, hzero]

/-- Digits are read as the number that they are. -/
theorem unsignedNumber?_numeral {n : Nat} (negative : Bool) (h : n < UInt64.size) :
    unsignedNumber? negative (Text.numeral n) = some (ofWhole negative n) := by
  have hdigits := Text.numeral_all_isDigit n
  simp [unsignedNumber?, ofText_digits (List.all_eq_true.mp hdigits), wholePartOk_numeral,
    Double.Literal.isNumeric, hdigits, Text.digitsValue_numeral, h]

theorem number?_of_isDigit {c : Char} {cs : List Char} (h : c.isDigit = true) :
    number? (c :: cs) = unsignedNumber? false (c :: cs) := by
  unfold number?
  split
  · rename_i heq
    cases heq
    cases h
  · rfl

theorem isNumberChar_of_isDigit {c : Char} (h : c.isDigit = true) : isNumberChar c = true := by
  simp [isNumberChar, h]

theorem scans_integer {i : Int} (hlow : -Nat.pow 2 63 ≤ i) (hhigh : i < UInt64.size) :
    Scans (Text.integerText i) [.scalar (.number (.integer i))] := by
  have hdigits n := List.all_eq_true.mp (Text.numeral_all_isDigit n)
  cases i with
  | ofNat n =>
    have hn : n < UInt64.size := Int.ofNat_lt.mp hhigh
    have hnumber : unsignedNumber? false (Text.numeral n) = some (.number (.integer n)) :=
      unsignedNumber?_numeral false hn
    obtain ⟨d, ds, hds⟩ := List.exists_cons_of_ne_nil (Text.numeral_ne_nil n)
    have hall := hdigits n
    rw [hds] at hall hnumber
    have hd := hall d List.mem_cons_self
    rw [Text.integerText, hds]
    refine scans_number (stepBetween_of_isDigit hd) (List.all_eq_true.mpr fun c hc => ?_) ?_
    · exact isNumberChar_of_isDigit (hall c (List.mem_cons_of_mem _ hc))
    · rw [number?_of_isDigit hd, hnumber]
      rfl
  | negSucc n =>
    have hn : n + 1 ≤ Nat.pow 2 63 := by omega
    refine scans_number (fun _ => rfl) (List.all_eq_true.mpr fun c hc =>
      isNumberChar_of_isDigit (hdigits _ c hc)) ?_
    rw [number?, unsignedNumber?_numeral true (Nat.lt_of_le_of_lt hn (by decide)), ofWhole,
      if_neg (by decide),
      if_pos ⟨Nat.succ_pos n, hn⟩]
    rfl

/-! ### Values -/

/-- What is found in texts with a comma between two is what is found in the texts, with a comma
between two. -/
theorem separated {α τ : Type} {P : List Char → List τ → Prop} {comma : τ}
    (hcomma : ∀ {t t' f f'}, P t f → P t' f' → P (t ++ ',' :: t') (f ++ comma :: f'))
    (text : α → List Char)
    (found : α → List τ) {texts : List α → List Char} {founds : List α → List τ}
    (hone : ∀ a, texts [a] = text a ∧ founds [a] = found a)
    (hmore : ∀ a b as, texts (a :: b :: as) = text a ++ ',' :: texts (b :: as) ∧
      founds (a :: b :: as) = found a ++ comma :: founds (b :: as))
    {a : α} {as : List α} (h : ∀ b ∈ a :: as, P (text b) (found b)) :
    P (texts (a :: as)) (founds (a :: as)) := by
  induction as generalizing a with
  | nil =>
    rw [(hone a).1, (hone a).2]
    exact h a List.mem_cons_self
  | cons b as ih =>
    rw [(hmore a b as).1, (hmore a b as).2]
    exact hcomma (h a List.mem_cons_self) (ih fun c hc => h c (List.mem_cons_of_mem _ hc))

theorem scans_separated {α : Type} (text : α → List Char) (found : α → List Token)
    {texts : List α → List Char}
    {founds : List α → List Token} (hnil : texts [] = [] ∧ founds [] = [])
    (hone : ∀ a, texts [a] = text a ∧ founds [a] = found a)
    (hmore : ∀ a b as, texts (a :: b :: as) = text a ++ ',' :: texts (b :: as) ∧
      founds (a :: b :: as) = found a ++ .comma :: founds (b :: as))
    {as : List α} (h : ∀ a ∈ as, Scans (text a) (found a)) : Scans (texts as) (founds as) := by
  cases as with
  | nil =>
    rw [hnil.1, hnil.2]
    exact scans_nil
  | cons a as =>
    refine separated (fun h h' => ?_) text found hone hmore h
    exact h.append (h'.mark fun _ => rfl) fun _ _ => delimited_cons rfl

theorem scans_member (k : String) {text : List Char} {found : List Token} (h : Scans text found) :
    Scans (quoted k ++ ':' :: text) (.text (some k) :: .colon :: found) :=
  (scans_quoted k).append (h.mark fun _ => rfl) fun _ _ => delimited_cons rfl

theorem scans_items {items : List Json} {level : Nat}
    (h : ∀ j ∈ items, Scans (prettyChars level j) j.tokens) :
    Scans (prettyItems level items) (itemTokens items) :=
  scans_separated (fun j => newLine level ++ prettyChars level j) tokens ⟨rfl, rfl⟩
    (fun _ => ⟨rfl, rfl⟩)
    (fun _ _ _ => ⟨rfl, rfl⟩) fun j hj => (h j hj).newLine_append level

theorem scans_members {members : List (String × Json)} {level : Nat}
    (h : ∀ m ∈ members, Scans (prettyChars level m.2) m.2.tokens) :
    Scans (prettyMembers level members) (memberTokens members) := by
  refine scans_separated
    (fun m => newLine level ++ (quoted m.1 ++ ':' :: ' ' :: prettyChars level m.2))
    (fun m => .text (some m.1) :: .colon :: m.2.tokens) ⟨rfl, rfl⟩ (fun m => ⟨?_, rfl⟩)
    (fun m n ms => ⟨?_, rfl⟩)
    fun m hm => ?_
  · simp [prettyMembers]
  · simp [prettyMembers]
  · exact (scans_member m.1 ((h m hm).blank fun _ => rfl)).newLine_append level

/-- In the text of a value its tokens are found. -/
theorem Exact.scans {j : Json} (h : Exact j) (level : Nat) :
    Scans (prettyChars level j) j.tokens := by
  induction h generalizing level with
  | null => exact scans_word (fun _ => rfl) (by decide) rfl
  | bool b =>
    cases b with
    | false => exact scans_word (fun _ => rfl) (by decide) rfl
    | true => exact scans_word (fun _ => rfl) (by decide) rfl
  | integer hlow hhigh => exact scans_integer hlow hhigh
  | string s => exact scans_quoted s
  | @array items _ ih =>
    have hclose : Scans [']'] [.closeArray] := scans_nil.mark fun _ => rfl
    cases items with
    | nil => exact hclose.mark fun _ => rfl
    | cons j rest =>
      have hitems := scans_items fun k hk => ih k hk (level + 1)
      have hinside := hitems.append (hclose.newLine_append level) fun _ _ => delimited_cons rfl
      rw [prettyChars, List.append_assoc]
      · exact hinside.mark fun _ => rfl
      · exact nofun
  | @object members _ ih =>
    have hclose : Scans ['}'] [.closeObject] := scans_nil.mark fun _ => rfl
    cases members with
    | nil => exact hclose.mark fun _ => rfl
    | cons m rest =>
      have hmembers := scans_members fun n hn => ih n hn (level + 1)
      have hinside := hmembers.append (hclose.newLine_append level) fun _ _ => delimited_cons rfl
      rw [prettyChars, List.append_assoc]
      · exact hinside.mark fun _ => rfl
      · exact nofun

/-- In the text without spaces too. -/
theorem Exact.scans_compact {j : Json} (h : Exact j) : Scans j.compactChars j.tokens := by
  induction h with
  | null => exact scans_word (fun _ => rfl) (by decide) rfl
  | bool b =>
    cases b with
    | false => exact scans_word (fun _ => rfl) (by decide) rfl
    | true => exact scans_word (fun _ => rfl) (by decide) rfl
  | integer hlow hhigh => exact scans_integer hlow hhigh
  | string s => exact scans_quoted s
  | @array items _ ih =>
    have hclose : Scans [']'] [.closeArray] := scans_nil.mark fun _ => rfl
    have hitems : Scans (compactItems items) (itemTokens items) := by
      refine scans_separated compactChars tokens ⟨rfl, rfl⟩ (fun _ => ⟨rfl, rfl⟩)
        (fun _ _ _ => ⟨?_, rfl⟩) ih
      simp [compactItems]
    have hinside := hitems.append hclose fun rest _ => delimited_cons (c := ']') rfl
    rw [compactChars, tokens]
    exact hinside.mark fun _ => rfl
  | @object members _ ih =>
    have hclose : Scans ['}'] [.closeObject] := scans_nil.mark fun _ => rfl
    have hmembers : Scans (compactMembers members) (memberTokens members) := by
      refine scans_separated (fun m => quoted m.1 ++ ':' :: m.2.compactChars)
        (fun m => .text (some m.1) :: .colon :: m.2.tokens) ⟨rfl, rfl⟩ (fun _ => ⟨rfl, rfl⟩)
        (fun m n ms => ⟨?_, rfl⟩) fun m hm => ?_
      · simp [compactMembers]
      · exact scans_member m.1 (ih m hm)
    have hinside := hmembers.append hclose fun rest _ => delimited_cons (c := '}') rfl
    rw [compactChars, tokens]
    exact hinside.mark fun _ => rfl

/-- All tokens of a text that is nothing but the text of a value. -/
theorem tokens?_of_scans {text : List Char} {j : Json} (h : Scans text j.tokens) :
    tokens? text = some j.tokens := by
  have hscans := h [] [] delimited_nil
  rw [List.append_nil, List.append_nil] at hscans
  calc tokens? text
    _ = Scan.outcome ⟨.between, []⟩ text := rfl
    _ = Scan.outcome ⟨.between, j.tokens.reverse⟩ [] := hscans
    _ = some j.tokens := congrArg some (List.reverse_reverse _)

/-! ## The machine over the tokens -/

theorem Build.run_cons {b b' : Build} {t : Token} {ts : List Token} (h : b.step t = some b') :
    b.run (t :: ts) = b'.run ts := by
  rw [run, h]

/-- The machine takes the tokens of a value for the value, whatever is open around it. -/
def Builds (j : Json) : Prop :=
  ∀ stack closable ts, Build.run (.value stack closable) (j.tokens ++ ts) =
    Build.run (.after stack j) ts

theorem builds_items {j : Json} {rest : List Json} (h : ∀ k ∈ j :: rest, Builds k)
    (stack : List Frame) (done : List Json) (closable : Bool) (ts : List Token) :
    Build.run (.value (.array done :: stack) closable)
      (itemTokens (j :: rest) ++ .closeArray :: ts) =
      Build.run (.after stack (.array (done.reverse ++ j :: rest))) ts := by
  induction rest generalizing j done closable with
  | nil =>
    have hclose : Build.step (.after (.array done :: stack) j) .closeArray =
        some (.after stack (.array (done.reverse ++ [j]))) := by
      rw [Build.step, List.reverse_cons]
    rw [itemTokens, h j List.mem_cons_self, Build.run_cons hclose]
  | cons k rest ih =>
    have hcomma : Build.step (.after (.array done :: stack) j) .comma =
        some (.value (.array (j :: done) :: stack) false) := rfl
    rw [itemTokens, List.append_assoc, h j List.mem_cons_self, List.cons_append,
      Build.run_cons hcomma,
      ih (fun l hl => h l (List.mem_cons_of_mem _ hl)), List.reverse_cons, List.append_assoc]
    · rfl
    · exact nofun

/-- The members of an object, each with its key. -/
def keyed (members : List (String × Json)) : List (Option String × Json) :=
  members.map fun m => (some m.1, m.2)

theorem ofMembers_keyed (members : List (String × Json)) :
    ofMembers (keyed members) = .object members := by
  have hkeys : (keyed members).all (fun m => m.1.isSome) = true := by simp [keyed]
  have hnamed : namedMembers (keyed members) = members := by
    induction members with
    | nil => rfl
    | cons m members ih => exact congrArg (m :: ·) (ih (by simp [keyed]))
  rw [ofMembers, if_pos hkeys, hnamed]

theorem Builds.member {j : Json} (h : Builds j) (k : String) (stack : List Frame)
    (done : List (Option String × Json)) (closable : Bool) (ts : List Token) :
    Build.run (.key stack done closable) (.text (some k) :: .colon :: (j.tokens ++ ts)) =
      Build.run (.after (.object done (some k) :: stack) j) ts :=
  (Build.run_cons rfl).trans ((Build.run_cons rfl).trans (h _ _ _))

theorem builds_members {m : String × Json} {rest : List (String × Json)}
    (h : ∀ n ∈ m :: rest, Builds n.2)
    (stack : List Frame) (done : List (Option String × Json)) (closable : Bool) (ts : List Token) :
    Build.run (.key stack done closable) (memberTokens (m :: rest) ++ .closeObject :: ts) =
      Build.run (.after stack (ofMembers (done.reverse ++ keyed (m :: rest)))) ts := by
  induction rest generalizing m done closable with
  | nil =>
    obtain ⟨k, j⟩ := m
    have hclose : Build.step (.after (.object done (some k) :: stack) j) .closeObject =
        some (.after stack (ofMembers (done.reverse ++ [(some k, j)]))) := by
      rw [Build.step, List.reverse_cons]
    rw [memberTokens, List.cons_append, List.cons_append, (h (k, j) List.mem_cons_self).member,
      Build.run_cons hclose]
    rfl
  | cons n rest ih =>
    obtain ⟨k, j⟩ := m
    have hcomma : Build.step (.after (.object done (some k) :: stack) j) .comma =
        some (.key stack ((some k, j) :: done) false) := rfl
    rw [memberTokens, List.cons_append, List.cons_append, List.append_assoc,
      (h (k, j) List.mem_cons_self).member,
      List.cons_append, Build.run_cons hcomma, ih (fun l hl => h l (List.mem_cons_of_mem _ hl)),
      List.reverse_cons,
      List.append_assoc]
    · rfl
    · exact nofun

theorem Exact.builds {j : Json} (h : Exact j) : Builds j := by
  induction h with
  | null => exact fun _ _ _ => rfl
  | bool b => exact fun _ _ _ => rfl
  | integer _ _ => exact fun _ _ _ => rfl
  | string s => exact fun _ _ _ => rfl
  | @array items _ ih =>
    intro stack closable ts
    cases items with
    | nil => rfl
    | cons j rest =>
      rw [tokens, List.cons_append, List.append_assoc]
      exact (Build.run_cons rfl).trans (builds_items ih stack [] true ts)
  | @object members _ ih =>
    intro stack closable ts
    cases members with
    | nil => rfl
    | cons m rest =>
      rw [tokens, List.cons_append, List.append_assoc, ← ofMembers_keyed]
      exact (Build.run_cons rfl).trans (builds_members ih stack [] true ts)

theorem Exact.ofTokens?_tokens {j : Json} (h : Exact j) : ofTokens? j.tokens = some j := by
  have hbuild := h.builds [] false []
  rw [List.append_nil] at hbuild
  rw [ofTokens?, hbuild]
  rfl

/-- A value is read back from its text. -/
theorem ofText?_pretty {j : Json} (h : Exact j) : ofText? j.pretty = some j := by
  rw [ofText?, ofChars?, pretty, String.toList_ofList, tokens?_of_scans (h.scans 0),
    Option.bind_some, h.ofTokens?_tokens]

/-- A value is read back from its text without spaces. -/
theorem ofText?_compact {j : Json} (h : Exact j) : ofText? j.compact = some j := by
  rw [ofText?, ofChars?, compact, String.toList_ofList, tokens?_of_scans h.scans_compact,
    Option.bind_some, h.ofTokens?_tokens]

end Json

end RoundWorkflow
