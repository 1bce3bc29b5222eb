import RoundWorkflow.Yaml.Scan.Tokens
import RoundWorkflow.Yaml.Writer
import Mathlib.Tactic.SplitIfs

/-!
# Plain scalars, written and read

The writer decides by a look at the whole string whether it can stand without quotes
(`writing`).  The reader goes from character to character, and decides at each of them
whether the scalar is over.  `IsPlain` is what the writer has made sure of, and it is
enough for the reader: it reads on to the end of the string (`readPlain_append`), and
stops at the colon that makes it a key (`plain_colon`) or at the first character of a
line that does not belong to it (`plain_line`).

A word is always written plainly (`IsWord.writing_eq`): a letter or a parenthesis at the
front keeps it from being a number or a mark, whatever comes after.
-/

namespace RoundWorkflow.Yaml

/-! ## Places -/

/-- The place after characters. -/
def Position.past (p : Position) (cs : List Char) : Position := cs.foldl (Position.after .early) p

theorem Position.past_cons (p : Position) (c : Char) (cs : List Char) :
    p.past (c :: cs) = (p.after .early c).past cs := rfl

theorem Position.past_line {p : Position} {cs : List Char} (h : ∀ c ∈ cs, endsLine c = false) :
    (p.past cs).line = p.line ∧ (p.past cs).column = p.column + cs.length := by
  induction cs generalizing p with
  | nil => exact ⟨rfl, rfl⟩
  | cons c cs ih =>
    have hc : Edition.early.isBreak c = false := h c List.mem_cons_self
    have hafter : p.after .early c = ⟨p.index + c.utf8Size, p.line, p.column + 1⟩ := by
      simp [Position.after, hc]
    obtain ⟨hline, hcolumn⟩ :=
      ih (p := p.after .early c) fun d hd => h d (List.mem_cons_of_mem _ hd)
    rw [past_cons, hline, hcolumn, hafter, List.length_cons, Nat.add_assoc, Nat.add_comm 1]
    exact ⟨rfl, rfl⟩

theorem Position.past_index (p : Position) (cs : List Char) :
    (p.past cs).index = p.index + (String.ofList cs).utf8ByteSize := by
  induction cs generalizing p with
  | nil => rfl
  | cons c cs ih =>
    have hafter : (p.after .early c).index = p.index + c.utf8Size := by
      simp only [Position.after, if_true]
      split <;> rfl
    rw [past_cons, ih, hafter, String.ofList_cons, String.utf8ByteSize_append,
      String.utf8ByteSize_singleton, Nat.add_assoc]

theorem Position.past_indentation (p : Position) (n : Nat) :
    (p.past (indentation n)).line = p.line ∧ (p.past (indentation n)).column = p.column + n := by
  have hspaces : ∀ c ∈ indentation n, endsLine c = false := by
    intro c hc
    rw [List.eq_of_mem_replicate hc]
    decide
  have hpast := past_line (p := p) hspaces
  rwa [indentation, List.length_replicate] at hpast

/-- The place where the next line begins after its spaces. -/
theorem Position.nextLine (p : Position) (n : Nat) :
    ((p.after .early '\n').past (indentation n)).line = p.line + 1 ∧
      ((p.after .early '\n').past (indentation n)).column = n := by
  obtain ⟨hline, hcolumn⟩ := past_indentation (p.after .early '\n') n
  have hafter : p.after .early '\n' = ⟨p.index + ('\n' : Char).utf8Size, p.line + 1, 0⟩ := rfl
  rw [hline, hcolumn, hafter]
  exact ⟨rfl, Nat.zero_add n⟩

/-! ## What the writer makes sure of -/

/-- Characters that can stand without quotes. -/
structure IsPlain (cs : List Char) : Prop where
  ne_nil : cs ≠ []
  writable : ∀ c ∈ cs, isWritable c = true
  line : ∀ c ∈ cs, endsLine c = false
  head : cs.head? ≠ some ' '
  last : cs.getLast? ≠ some ' '
  unmarked : beginsAsMark cs = false
  whole : isTakenApart none cs = false
  meaning : meaning (String.ofList cs) = .text (String.ofList cs)

theorem meaning_eq_of_isAmbiguous {s : String} (h : isAmbiguous s = false) :
    meaning s = .text s := by
  have htext {v : String} (hv : meaning s = .text v) : v = s := by
    unfold meaning at hv
    split at hv
    · cases hv
    · split at hv
      · cases hv
      · cases hv
      · split at hv <;> cases hv
        rfl
      · cases hv
        rfl
  unfold isAmbiguous at h
  split at h
  case h_1 v hv => rw [hv, htext hv]
  case h_2 => cases h

theorem isPlain_of_writing {s : String} (h : writing s = .plain) : IsPlain s.toList := by
  simp only [writing] at h
  split_ifs at h with hdouble hblock hend hbreak hspace hsingle
  simp only [Bool.or_eq_true, Bool.not_eq_true, not_or, decide_eq_true_eq] at hdouble hbreak hsingle
  obtain ⟨⟨⟨⟨hambiguous, hhead⟩, hlast⟩, hmark⟩, hwhole⟩ := hsingle
  refine
    { ne_nil := ?_
      writable := ?_
      line := ?_
      head := hhead
      last := hlast
      unmarked := hmark
      whole := hwhole
      meaning := ?_ }
  · intro hnil
    have hempty : s = "" := String.toList_eq_nil_iff.mp hnil
    subst hempty
    cases hambiguous
  · intro c hc
    simpa using List.any_eq_false.mp hdouble.1 c hc
  · intro c hc
    simpa using List.any_eq_false.mp hbreak c hc
  · rw [String.ofList_toList]
    exact meaning_eq_of_isAmbiguous hambiguous

theorem isSpace_iff_of_writable {c : Char} (h : isWritable c = true) :
    isSpace c = true ↔ c = ' ' := by
  have htab : c ≠ '\t' := by
    rintro rfl
    cases h
  simp [isSpace, htab]

/-- No mark that would take a string apart is at its front. -/
theorem isTakenApart_cons {before : Option Char} {c : Char} {w : List Char}
    (h : isTakenApart before (c :: w) = false) :
    (before.all isSpace = true → c ≠ '#') ∧
      (c = ':' → ∃ d w', w = d :: w' ∧ Edition.early.isGap (some d) = false) ∧
      isTakenApart (some c) w = false := by
  obtain ⟨hhere, hrest⟩ := Bool.or_eq_false_iff.mp h
  refine ⟨?_, ?_, hrest⟩
  · rintro hbefore rfl
    cases before with
    | none => cases hhere
    | some b =>
      have hb : isSpace b = true := hbefore
      simp [hb] at hhere
  · rintro rfl
    have halone : Edition.early.isGap w.head? = false := by
      cases before <;> simpa using hhere
    cases w with
    | nil => cases halone
    | cons d w' => exact ⟨d, w', rfl, halone⟩

/-! ## Words -/

/-- Whether a character is no mark wherever it stands after the first. -/
def isInner (c : Char) : Bool := isWritable c && !endsLine c && c ≠ ':' && c ≠ '#'

/-- Whether a character is no mark at the front of a string, and no part of a number. -/
def isOpening (c : Char) : Bool := c.isAlpha || c = '('

/-- A string that begins with a letter or a parenthesis and has no mark after it, and that is no
word for nothing or for a truth value. -/
structure IsWord (s : String) : Prop where
  opening : s.toList.head?.any isOpening = true
  inner : ∀ c ∈ s.toList, isInner c = true
  last : s.toList.getLast? ≠ some ' '
  notNull : isNullWord s = false
  notTruth : truth? s = none

/-- Whether characters are those of a word. -/
def areWord (cs : List Char) : Bool :=
  cs.head?.any isOpening && cs.all isInner && cs.getLast? ≠ some ' ' && !isNullWord
    (String.ofList cs) &&
    (truth? (String.ofList cs)).isNone

theorem isWord_ofList {cs : List Char} (h : areWord cs = true) : IsWord (String.ofList cs) := by
  simp only [areWord, Bool.and_eq_true, Bool.not_eq_true', decide_eq_true_eq,
    Option.isNone_iff_eq_none] at h
  obtain ⟨⟨⟨⟨hopening, hinner⟩, hlast⟩, hnull⟩, htruth⟩ := h
  constructor
  · rwa [String.toList_ofList]
  · rw [String.toList_ofList]
    exact List.all_eq_true.mp hinner
  · rwa [String.toList_ofList]
  · exact hnull
  · exact htruth

theorem isInner_iff {c : Char} :
    isInner c = true ↔ isWritable c = true ∧ endsLine c = false ∧ c ≠ ':' ∧ c ≠ '#' := by
  simp [isInner, and_assoc]

/-- No digit begins a word: letters and digits are apart. -/
theorem isDigit_of_isOpening {c : Char} (h : isOpening c = true) : c.isDigit = false := by
  refine Bool.eq_false_iff.mpr fun hdigit => ?_
  have hnine : c.val ≤ ('9' : Char).val := of_decide_eq_true (Bool.and_eq_true_iff.mp hdigit).2
  rcases Bool.or_eq_true_iff.mp h with hletter | hbracket
  · rcases Bool.or_eq_true_iff.mp hletter with hupper | hlower
    · have hA : ('A' : Char).val ≤ c.val := (of_decide_eq_true hupper).1
      exact absurd (UInt32.le_trans hA hnine) (by decide)
    · have ha : ('a' : Char).val ≤ c.val := of_decide_eq_true (Bool.and_eq_true_iff.mp hlower).1
      exact absurd (UInt32.le_trans ha hnine) (by decide)
  · rw [of_decide_eq_true hbracket] at hdigit
    cases hdigit

theorem ne_of_isOpening {c d : Char} (h : isOpening c = true) (hd : isOpening d = false) :
    c ≠ d := by
  rintro rfl
  cases h.symm.trans hd

section

variable {c : Char} {cs : List Char}

theorem splitSign_of_isOpening (h : isOpening c = true) :
    Text.splitSign (c :: cs) = (false, c :: cs) := by
  have hplus : c ≠ '+' := ne_of_isOpening h (by decide)
  have hminus : c ≠ '-' := ne_of_isOpening h (by decide)
  simp [Text.splitSign, hplus, hminus]

theorem isDigitCode_of_isOpening (h : isOpening c = true) : isDigitCode (c :: cs) = false := by
  rw [isDigitCode, splitSign_of_isOpening h]
  split
  case h_1 heq => exact absurd (List.cons.inj heq).1 (ne_of_isOpening h (by decide))
  case h_2 => rfl

theorem plainInteger?_of_isOpening (h : isOpening c = true) : plainInteger? (c :: cs) = none := by
  have hmarked : markedNatural? (c :: cs) = none := by
    have hzero : c ≠ '0' := ne_of_isOpening h (by decide)
    unfold markedNatural?
    split <;> simp_all
  have hinteger : Text.integer? (c :: cs) = none := by
    rw [Text.integer?, splitSign_of_isOpening h]
    simp [Text.natural?, isDigit_of_isOpening h]
  rw [plainInteger?, splitSign_of_isOpening h]
  simp [hmarked, hinteger]

/-- What begins as a word may be the word for infinity, but denotes no number that is finite. -/
theorem filter_double?_of_isOpening (h : isOpening c = true) :
    (Text.double? (c :: cs)).filter Double.isFinite = none := by
  have hdigit := isDigit_of_isOpening h
  have hpoint : c ≠ '.' := ne_of_isOpening h (by decide)
  have hliteral : ¬((Double.Literal.ofText (c :: cs)).isNumeric &&
      !((Double.Literal.ofText (c :: cs)).whole ++
        (Double.Literal.ofText (c :: cs)).fraction.getD []).isEmpty) = true := by
    by_cases hmark : c = 'e' ∨ c = 'E'
    · have hbody : (c :: cs).takeWhile (fun c => !decide (c = 'e') && !decide (c = 'E')) = [] := by
        rcases hmark with rfl | rfl <;> rfl
      simp [Double.Literal.ofText, hbody]
    · obtain ⟨he, hE⟩ := not_or.mp hmark
      have hbody : (c :: cs).takeWhile (fun c => !decide (c = 'e') && !decide (c = 'E')) =
          c :: cs.takeWhile (fun c => !decide (c = 'e') && !decide (c = 'E')) := by simp [he, hE]
      simp [Double.Literal.ofText, Double.Literal.isNumeric, hbody, hpoint, hdigit]
  have hinfinity : (Double.ofMagnitude false Double.infinityBits).isFinite = false := by decide
  have hnan : Double.nan.isFinite = false := by decide
  rw [Text.double?, splitSign_of_isOpening h]
  simp only [if_neg hliteral]
  split
  · simp [hinfinity]
  · split <;> simp [hnan]

theorem plainDouble?_of_isOpening (h : isOpening c = true) : plainDouble? (c :: cs) = none := by
  have hword {s : String} (hs : s.toList.head? = some '.') : String.ofList (c :: cs) ≠ s := by
    rintro rfl
    rw [String.toList_ofList] at hs
    exact ne_of_isOpening h (by decide) (Option.some.inj hs)
  rw [plainDouble?, splitSign_of_isOpening h]
  simp only [filter_double?_of_isOpening h]
  split
  case h_1 h | h_2 h | h_3 h => exact absurd h (hword rfl)
  case h_4 =>
    split
    case h_1 h | h_2 h | h_3 h => exact absurd h (hword rfl)
    case h_4 => rfl

end

theorem hasLineEndingInSpace_eq_false {cs : List Char} (h : ∀ c ∈ cs, endsLine c = false) :
    hasLineEndingInSpace cs = false := by
  induction cs with
  | nil => rfl
  | cons c cs ih =>
    have hnext : (cs.head?.map endsLine).getD false = false := by
      cases cs with
      | nil => rfl
      | cons d cs => exact h d (List.mem_cons_of_mem _ List.mem_cons_self)
    rw [hasLineEndingInSpace, hnext, ih fun d hd => h d (List.mem_cons_of_mem _ hd),
      Bool.and_false, Bool.or_false]

theorem isTakenApart_of_inner {before : Char} {cs : List Char} (h : ∀ c ∈ cs, isInner c = true) :
    isTakenApart (some before) cs = false := by
  induction cs generalizing before with
  | nil => rfl
  | cons c cs ih =>
    obtain ⟨-, -, hcolon, hremark⟩ := isInner_iff.mp (h c List.mem_cons_self)
    rw [isTakenApart, ih fun d hd => h d (List.mem_cons_of_mem _ hd)]
    simp [hcolon, hremark]

namespace IsWord

variable {s : String}

theorem exists_opening (h : IsWord s) : ∃ c cs, s.toList = c :: cs ∧ isOpening c = true := by
  obtain ⟨c, hc, hopening⟩ := (Option.any_eq_true _ _).mp h.opening
  obtain ⟨cs, hs⟩ := List.head?_eq_some_iff.mp hc
  exact ⟨c, cs, hs, hopening⟩

/-- A word stands for its text and nothing else. -/
theorem meaning_eq (h : IsWord s) : meaning s = .text s := by
  obtain ⟨c, cs, hs, hc⟩ := h.exists_opening
  have hne : s ≠ "" := by
    rintro rfl
    cases hs
  have hinteger : plainInteger? s.toList = none := by rw [hs, plainInteger?_of_isOpening hc]
  have hdouble : plainDouble? s.toList = none := by rw [hs, plainDouble?_of_isOpening hc]
  simp [meaning, hne, h.notNull, h.notTruth, hinteger, hdouble]

/-- A word is written without quotes. -/
theorem writing_eq (h : IsWord s) : writing s = .plain := by
  obtain ⟨c, cs, hs, hc⟩ := h.exists_opening
  have hinner := fun d hd => isInner_iff.mp (h.inner d hd)
  have hdouble : (s.toList.any (!isWritable ·) || hasLineEndingInSpace s.toList) = false := by
    rw [hasLineEndingInSpace_eq_false fun d hd => (hinner d hd).2.1, Bool.or_false,
      List.any_eq_false]
    exact fun d hd => by simp [(hinner d hd).1]
  have hlines : s.toList.any endsLine = false :=
    List.any_eq_false.mpr fun d hd => by simp [(hinner d hd).2.1]
  have hblock : '\n' ∉ s.toList := by
    intro hmem
    cases (hinner '\n' hmem).2.1
  have hambiguous : isAmbiguous s = false := by
    rw [isAmbiguous, h.meaning_eq]
    exact hs ▸ isDigitCode_of_isOpening hc
  have hhead : s.toList.head? ≠ some ' ' := by
    rw [hs]
    exact fun hspace => ne_of_isOpening hc (by decide) (Option.some.inj hspace)
  have hmark : beginsAsMark s.toList = false := by
    rw [hs]
    have hminus : c ≠ '-' := ne_of_isOpening hc (by decide)
    have hpoint : c ≠ '.' := ne_of_isOpening hc (by decide)
    simp [beginsAsMark, hminus, hpoint]
  have hwhole : isTakenApart none s.toList = false := by
    have hinner' : ∀ d ∈ cs, isInner d = true :=
      fun d hd => h.inner d (hs ▸ List.mem_cons_of_mem _ hd)
    have hmarks : "#,[]\x7b\x7d&*!|>'\"%@`".toList.contains c = false := by
      have hnot : "#,[]\x7b\x7d&*!|>'\"%@`".toList.all (!isOpening ·) = true := by decide +kernel
      refine Bool.eq_false_iff.mpr fun hmem => ?_
      have hc' := List.all_eq_true.mp hnot c (List.contains_iff_mem.mp hmem)
      simp [hc] at hc'
    have hquestion : c ≠ '?' := ne_of_isOpening hc (by decide)
    have hcolon : c ≠ ':' := ne_of_isOpening hc (by decide)
    have hminus : c ≠ '-' := ne_of_isOpening hc (by decide)
    rw [hs, isTakenApart, isTakenApart_of_inner hinner']
    simp only [hmarks, hquestion, hcolon, hminus]
    rfl
  simp [writing, hdouble, hlines, hblock, hambiguous, hhead, h.last, hmark, hwhole]

/-- A short word can be a key on one line with its value. -/
theorem isSimpleKey (h : IsWord s) (hsize : s.utf8ByteSize ≤ maxKeyLength) :
    isSimpleKey s = true := by
  have hline : s.toList.any (fun c => endsLine c || c = '\r' || c.toNat = 0x85) = false := by
    refine List.any_eq_false.mpr fun c hc => ?_
    obtain ⟨hwritable, hends, -⟩ := isInner_iff.mp (h.inner c hc)
    have hreturn : c ≠ '\r' := by
      rintro rfl
      cases hwritable
    have hnext : c.toNat ≠ 0x85 := by
      intro hn
      simp [isWritable, hn] at hwritable
    simp [hends, hreturn, hnext]
  rw [Yaml.isSimpleKey, hline]
  exact decide_eq_true hsize

end IsWord

/-! ## What the reader does -/

variable {indent : Int} {text gap rest body : List Char} {p : Position}

/-- Reading on in a plain scalar to the end of characters that can stand without quotes. -/
theorem readPlain_append {before : Option Char} {w : List Char} (hne : w ≠ [])
    (hwritable : ∀ c ∈ w, isWritable c = true) (hline : ∀ c ∈ w, endsLine c = false)
    (hlast : w.getLast? ≠ some ' ') (hwhole : isTakenApart before w = false)
    (hbefore : text = [] ∨ gap ≠ [] → before.all isSpace = true)
    (hmark : p.column = 0 → Edition.early.atDocumentMark (w ++ rest) = false) :
    readPlain .early false indent text (.spaces gap) .text p (w ++ rest) =
      readPlain .early false indent (w.reverse ++ gap ++ text) (.spaces []) .text
        (p.past w) rest := by
  induction w generalizing before text gap p with
  | nil => exact absurd rfl hne
  | cons c w ih =>
    have hc : Edition.early.isBreak c = false := hline c List.mem_cons_self
    have hafter : (p.after .early c).column ≠ 0 := by simp [Position.after, hc]
    obtain ⟨hremark, hcolon, hrest⟩ := isTakenApart_cons hwhole
    have hmore : w ≠ [] → ∀ text gap, (text = [] ∨ gap ≠ [] → isSpace c = true) →
        readPlain .early false indent text (.spaces gap) .text (p.after .early c) (w ++ rest) =
          readPlain .early false indent (w.reverse ++ gap ++ text) (.spaces []) .text
            (p.past (c :: w)) rest := by
      intro hw text gap htext
      refine ih hw (fun d hd => hwritable d (List.mem_cons_of_mem _ hd))
        (fun d hd => hline d (List.mem_cons_of_mem _ hd))
        ?_ hrest htext fun h => absurd h hafter
      obtain ⟨d, w', rfl⟩ := List.exists_cons_of_ne_nil hw
      rwa [List.getLast?_cons_cons] at hlast
    rw [List.cons_append]
    cases hspace : isSpace c with
    | true =>
      -- A space goes into the gap, and something follows it.
      have hw : w ≠ [] := by
        rintro rfl
        exact hlast
          (congrArg some ((isSpace_iff_of_writable (hwritable c List.mem_cons_self)).mp hspace))
      have hstep : readPlain .early false indent text (.spaces gap) .text p (c :: (w ++ rest)) =
          readPlain .early false indent text (.spaces (c :: gap)) .text
            (p.after .early c) (w ++ rest) := by
        simp [readPlain, hc, hspace]
      rw [hstep, hmore hw _ _ fun _ => hspace]
      simp
    | false =>
      have hends : Edition.early.endsPlain false c (w ++ rest).head? = false := by
        simp only [Edition.endsPlain, Bool.false_and, Bool.or_false, Bool.and_false]
        refine Bool.eq_false_iff.mpr fun h => ?_
        obtain ⟨hc', hgap⟩ := Bool.and_eq_true_iff.mp h
        obtain ⟨d, w', rfl, hd⟩ := hcolon (of_decide_eq_true hc')
        cases hd.symm.trans hgap
      have hgoes :
          ((p.column = 0 ∧ Edition.early.atDocumentMark (c :: (w ++ rest)) = true) ∨ c = '#') →
          ¬(text = [] ∨ gap ≠ []) := by
        rintro (⟨hcolumn, hat⟩ | hc') hruns
        · cases hat.symm.trans (hmark hcolumn)
        · exact hremark (hbefore hruns) hc'
      have hstep : readPlain .early false indent text (.spaces gap) .text p (c :: (w ++ rest)) =
          readPlain .early false indent (c :: (gap ++ text)) (.spaces []) .text
            (p.after .early c) (w ++ rest) := by
        rw [readPlain]
        simp only [hc, hspace, hends, Gap.isLines, Gap.text, List.reverse_reverse]
        rw [if_neg (by decide), if_neg (by decide), if_neg (by decide), if_neg (by decide),
          if_neg, if_neg (by simp),
          if_neg (by decide)]
        intro h
        simp only [Bool.not_false, Bool.and_false, Bool.false_and, Bool.false_or, Bool.and_eq_true,
          Bool.or_eq_true, decide_eq_true_eq, List.isEmpty_iff, ne_eq, Gap.spaces.injEq] at h
        exact hgoes h.2 h.1
      rw [hstep]
      cases w with
      | nil => rfl
      | cons d w' =>
        rw [hmore (List.cons_ne_nil d w') _ _ (by simp)]
        simp

/-- A plain scalar ends at the colon that makes it a key. -/
theorem readPlain_colon (htext : text ≠ []) (hgap : Edition.early.isGap rest.head? = true) :
    readPlain .early false indent text (.spaces []) .text p (':' :: rest) =
      .ok ⟨text.reverse, false, ⟨p, ':' :: rest⟩⟩ := by
  have hends : Edition.early.endsPlain false ':' rest.head? = true := by
    simp [Edition.endsPlain, hgap]
  have hcolon : Edition.early.isBreak ':' = false := by decide
  have hspace : isSpace ':' = false := by decide
  have htext' : text.isEmpty = false := by simpa using htext
  rw [readPlain]
  simp [hcolon, hspace, hends, htext', Gap.isLines]

/-- What may stand at the front of a line that is not blank. -/
def Begins (body : List Char) : Prop :=
  ∀ c ∈ body.head?, endsLine c = false ∧ isSpace c = false ∧ c ≠ '#' ∧ c ≠ byteOrderMark

theorem readPlain_indentation {breaks : List Char} (n : Nat) :
    readPlain .early false indent text (.lines breaks) .text p (indentation n ++ body) =
      readPlain .early false indent text (.lines breaks) .text (p.past (indentation n)) body := by
  induction n generalizing p with
  | zero => rfl
  | succ n ih =>
    rw [indentation, List.replicate_succ, List.cons_append, Position.past_cons]
    refine Eq.trans ?_ ih
    have hbreak : Edition.early.isBreak ' ' = false := by decide
    rw [readPlain]
    simp [hbreak, isSpace]
    rfl

/-- A plain scalar ends with its line if the next one does not begin further to the right than what
is around it. -/
theorem readPlain_line {n : Nat} (hbody : Begins body) (hn : n < indent) :
    readPlain .early false indent text (.spaces []) .text p ('\n' :: (indentation n ++ body)) =
      .ok ⟨text.reverse, true, ⟨(p.after .early '\n').past (indentation n), body⟩⟩ := by
  have hline : readPlain .early false indent text (.spaces []) .text p
      ('\n' :: (indentation n ++ body)) =
      readPlain .early false indent text (.lines ['\n']) .text (p.after .early '\n')
        (indentation n ++ body) := by
    rw [readPlain]
    simp [Edition.isBreak, Gap.withBreak]
  have hcolumn := (p.nextLine n).2
  rw [hline, readPlain_indentation]
  cases body with
  | nil => rfl
  | cons c body =>
    obtain ⟨hbreak, hspace, -⟩ := hbody c rfl
    have hbreak' : Edition.early.isBreak c = false := hbreak
    rw [readPlain]
    simp [hbreak', hspace, Gap.isLines, hcolumn, hn]

/-! ## Tokens -/

theorem take_of_atDocumentMark {cs : List Char} (h : Edition.early.atDocumentMark cs = true) :
    ∃ x, (x = '-' ∨ x = '.') ∧ cs.take 3 = [x, x, x] := by
  unfold Edition.atDocumentMark at h
  split at h
  · exact ⟨'-', .inl rfl, rfl⟩
  · exact ⟨'.', .inr rfl, rfl⟩
  · cases h

theorem IsPlain.atDocumentMark {w : List Char} (h : IsPlain w)
    (hrest : ∀ c ∈ rest.head?, c ≠ '-' ∧ c ≠ '.') :
    Edition.early.atDocumentMark (w ++ rest) = false := by
  refine Bool.eq_false_iff.mpr fun hat => ?_
  obtain ⟨x, hx, htake⟩ := take_of_atDocumentMark hat
  have hfirst : ∀ c ∈ rest.head?, c ≠ x := by
    rintro c hc rfl
    obtain ⟨hdash, hpoint⟩ := hrest c hc
    exact hx.elim hdash hpoint
  -- The mark is not in the scalar, so a character of it comes after the scalar.
  match w, h.ne_nil, h.unmarked, htake with
  | [a], _, _, htake =>
    cases rest with
    | nil => cases htake
    | cons d rest => exact hfirst d rfl (List.cons.inj (List.cons.inj htake).2).1
  | [a, b], _, _, htake =>
    cases rest with
    | nil => cases htake
    | cons d rest => exact hfirst d rfl (List.cons.inj (List.cons.inj (List.cons.inj htake).2).2).1
  | a :: b :: d :: w, _, hunmarked, htake =>
    cases htake
    rcases hx with rfl | rfl <;> cases hunmarked

theorem plain_colon {w : List Char} (h : IsPlain w) (hgap : Edition.early.isGap rest.head? = true) :
    Cursor.plain ⟨p, w ++ ':' :: rest⟩ .early false indent = .ok ⟨w, false,
      ⟨p.past w, ':' :: rest⟩⟩ := by
  rw [Cursor.plain, readPlain_append h.ne_nil h.writable h.line h.last h.whole (fun _ => rfl)
    (fun _ => h.atDocumentMark (by simp)), readPlain_colon (by simp [h.ne_nil]) hgap]
  simp

theorem plain_line {w : List Char} {n : Nat} (h : IsPlain w) (hbody : Begins body)
    (hn : n < indent) :
    Cursor.plain ⟨p, w ++ '\n' :: (indentation n ++ body)⟩ .early false indent =
      .ok ⟨w, true, ⟨((p.past w).after .early '\n').past (indentation n), body⟩⟩ := by
  rw [Cursor.plain, readPlain_append h.ne_nil h.writable h.line h.last h.whole (fun _ => rfl)
    (fun _ => h.atDocumentMark (by simp)), readPlain_line hbody hn]
  simp

/-- No mark is the first character of what can stand without quotes. -/
theorem isTakenApart_none {c : Char} {w : List Char} (h : isTakenApart none (c :: w) = false) :
    "#,[]\x7b\x7d&*!|>'\"%@`".toList.contains c = false ∧
      (c = '?' ∨ c = ':' ∨ c = '-' → Edition.early.isGap w.head? = false) := by
  obtain ⟨hhere, -⟩ := Bool.or_eq_false_iff.mp h
  have hfirst :=
    (if_pos rfl : (if (none : Option Char).isNone = true then _ else _) = _).symm.trans hhere
  obtain ⟨hlist, halone⟩ := Bool.or_eq_false_iff.mp hfirst
  refine ⟨hlist, ?_⟩
  rintro (rfl | rfl | rfl) <;> simpa using halone

/-- What can stand without quotes is read as a plain scalar. -/
theorem token_of_isPlain {s : Scan} {c : Char} {w : List Char} (h : IsPlain (c :: w))
    (hrest : s.cursor.rest = c :: (w ++ rest))
    (hnext : ∀ d ∈ rest.head?, d ≠ '-' ∧ d ≠ '.') (hflow : s.inFlow = false) :
    s.token .early c = s.plainScalar .early := by
  obtain ⟨hlist, halone⟩ := isTakenApart_none h.whole
  have hmark : Edition.early.atDocumentMark (c :: (w ++ rest)) = false := h.atDocumentMark hnext
  have htab : c ≠ '\t' := by
    rintro rfl
    cases h.writable _ List.mem_cons_self
  have hgap : c = '?' ∨ c = ':' ∨ c = '-' → Edition.early.isGap s.cursor.next? = false := by
    intro hc
    have hw := halone hc
    rw [Cursor.next?, hrest, List.tail_cons]
    cases w with
    | nil => cases hw
    | cons d w' => exact hw
  simp only [String.reduceToList, List.contains_cons, List.contains_nil, Bool.or_false,
    Bool.or_eq_false_iff, beq_eq_false_iff_ne, ne_eq] at hlist
  obtain ⟨hhash, hcomma, hopen, hclose, hopen', hclose', hand, hstar, hbang, hbar, hmore, hquote,
    hquote', hpercent, hat, htick⟩ := hlist
  have hstart : s.earlyPlainStart c = true := by
    by_cases hc : c = '?' ∨ c = ':' ∨ c = '-'
    · rcases hc with rfl | rfl | rfl <;> simp [Scan.earlyPlainStart, hflow]
    · obtain ⟨hquestion, hcolon, hdash⟩ := by simpa only [not_or] using hc
      simp [Scan.earlyPlainStart, *]
  have hdash : ¬(c = '-' ∧ Edition.early.isGap s.cursor.next? = true) := by
    rintro ⟨hc, hgap'⟩
    cases (hgap (.inr (.inr hc))).symm.trans hgap'
  have hisMark : c = '?' ∨ c = ':' → s.isMark .early c = false := by
    intro hc
    simp [Scan.isMark, hflow, hgap (hc.imp_right .inl)]
  have hquestion : ¬(c = '?' ∧ s.isMark .early c = true) := by
    rintro ⟨hc, hmark'⟩
    cases (hisMark (.inl hc)).symm.trans hmark'
  have hcolon : ¬(c = ':' ∧ s.isMark .early c = true) := by
    rintro ⟨hc, hmark'⟩
    cases (hisMark (.inr hc)).symm.trans hmark'
  simp [Scan.token, *]

/-- What can stand without quotes is not blank at its front. -/
theorem IsPlain.begins {w : List Char} (h : IsPlain w) : Begins (w ++ rest) := by
  obtain ⟨c, w', rfl⟩ := List.exists_cons_of_ne_nil h.ne_nil
  rintro _ ⟨⟩
  have hwritable := h.writable c List.mem_cons_self
  refine ⟨h.line c List.mem_cons_self, Bool.eq_false_iff.mpr fun hspace => ?_, ?_, ?_⟩
  · exact h.head (congrArg some ((isSpace_iff_of_writable hwritable).mp hspace))
  · exact (isTakenApart_cons h.whole).1 rfl
  · rintro rfl
    cases hwritable

end RoundWorkflow.Yaml
