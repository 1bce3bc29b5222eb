import RoundWorkflow.Proofs.Yaml.BlockScan

/-!
# The text of a value in block style

A value whose strings can all stand without quotes (`Plain`) is written as a text of
lines.  The scan of the text finds the tokens of the value (`blockKinds`) and nothing
else, whatever the collections around it, by induction over the value: a map begins at
its first key and ends where a line begins further to the left, a list stands in the
column of its key, and an empty collection is written in brackets.
-/

namespace RoundWorkflow.Yaml

open Scan

/-- A value of maps, of lists of strings and of strings that can all stand without quotes. -/
inductive Plain : Json → Prop where
  | string {s : String} (h : writing s = .plain) : Plain (.string s)
  | list {names : List String} (h : ∀ s ∈ names, writing s = .plain) :
      Plain (.array (names.map .string))
  | map {members : List (String × Json)} (hkey : ∀ m ∈ members, writing m.1 = .plain ∧
    isSimpleKey m.1 = true)
    (h : ∀ m ∈ members, Plain m.2) : Plain (.object members)

mutual

/-- The kinds of the tokens of a value that is plain. -/
def blockKinds : Json → List Token.Kind
  | .string s => [.scalar .plain s]
  | .array [] => [.openList, .closeList]
  | .array items => itemKinds items
  | .object [] => [.openMap, .closeMap]
  | .object members => .blockMap :: (memberKinds members ++ [.blockEnd])
  | _ => []

/-- The kinds of the tokens of the items of a list. -/
def itemKinds : List Json → List Token.Kind
  | [] => []
  | j :: rest => .dash :: (blockKinds j ++ itemKinds rest)

/-- The kinds of the tokens of the members of a map. -/
def memberKinds : List (String × Json) → List Token.Kind
  | [] => []
  | (k, j) :: rest => .key :: .scalar .plain k :: .value :: (blockKinds j ++ memberKinds rest)

end

/-! ## What is written -/

variable {columns : List Nat} {kinds : List Token.Kind} {c n : Nat} {body : List Char}

theorem stringText_eq {s : String} (h : writing s = .plain) (column : Nat) :
    stringText column s = s.toList := by
  rw [stringText, h]

theorem ended_stringText {s : String} (h : writing s = .plain) (column : Nat) :
    ended (stringText column s) = s.toList ++ ['\n'] := by
  have hplain := isPlain_of_writing h
  have hlast : atLineEnd s.toList = false := by
    rw [atLineEnd, List.getLast?_eq_some_getLast hplain.ne_nil]
    exact hplain.line _ (List.getLast_mem hplain.ne_nil)
  rw [stringText_eq h, ended, hlast]
  rfl

theorem keyChars_eq {k : String} (h : writing k = .plain) (hsimple : isSimpleKey k = true)
    (column : Nat) :
    keyChars column k = k.toList ++ [':'] := by
  rw [keyChars, if_pos hsimple, stringText_eq h]

theorem blockChars_string {s : String} (h : writing s = .plain) (column : Nat) :
    blockChars column (.string s) = s.toList ++ ['\n'] := ended_stringText h column

theorem valueChars_string {s : String} (h : writing s = .plain) (column : Nat) :
    valueChars true column (.string s) = ' ' :: (s.toList ++ ['\n']) :=
  congrArg (' ' :: ·) (ended_stringText h (column + 2))

/-- A list that is not empty begins on a line of its own, in the column of its key. -/
theorem valueChars_list (column : Nat) (j : Json) (items : List Json) :
    valueChars true column (.array (j :: items)) = '\n' :: itemLines column (j :: items) := by
  simp [valueChars, lead, itemLines]

/-- A map that is not empty begins on a line of its own, to the right of its key. -/
theorem valueChars_map (column : Nat) (m : String × Json) (members : List (String × Json)) :
    valueChars true column (.object (m :: members)) =
      '\n' :: memberLines (column + 2) (m :: members) := by
  simp [valueChars, lead, memberLines]

theorem blockChars_map (m : String × Json) (members : List (String × Json)) :
    blockChars 0 (.object (m :: members)) = memberLines 0 (m :: members) := by
  simp [blockChars, memberLines, indentation]

theorem itemLines_eq {names : List String} (h : ∀ s ∈ names, writing s = .plain) (column : Nat) :
    itemLines column (names.map .string) =
      names.flatMap fun s => indentation column ++ '-' :: ' ' :: (s.toList ++ ['\n']) := by
  induction names with
  | nil => rfl
  | cons s names ih =>
    rw [List.map_cons, itemLines, blockChars_string (h s List.mem_cons_self),
      ih fun t ht => h t (List.mem_cons_of_mem _ ht), List.flatMap_cons]
    simp

theorem memberLines_eq {members : List (String × Json)}
    (hkey : ∀ m ∈ members, writing m.1 = .plain ∧ isSimpleKey m.1 = true) (column : Nat) :
    memberLines column members =
      members.flatMap fun m => indentation column ++ m.1.toList ++
        ':' :: valueChars true column m.2 := by
  induction members with
  | nil => rfl
  | cons m members ih =>
    obtain ⟨k, j⟩ := m
    obtain ⟨hk, hsimple⟩ := hkey _ List.mem_cons_self
    rw [memberLines, keyChars_eq hk hsimple, hsimple,
      ih fun m hm => hkey m (List.mem_cons_of_mem _ hm),
      List.flatMap_cons]
    simp

theorem utf8ByteSize_le_of_isSimpleKey {k : String} (h : isSimpleKey k = true) :
    (String.ofList k.toList).utf8ByteSize ≤ Scan.maxKeyLength := by
  rw [String.ofList_toList]
  have hshort : k.utf8ByteSize ≤ maxKeyLength := of_decide_eq_true (Bool.and_eq_true_iff.mp h).2
  exact Nat.le_trans hshort (by decide)

/-! ## Spots -/

theorem Scan.Spot.line_of_le (h : innermost columns ≤ n) :
    Spot.line columns kinds n body = ⟨columns, kinds, true, n, body⟩ := by
  rw [Spot.line, stillOpen_eq_self h, ends_eq_nil h]
  rfl

/-- A line that begins further to the left than a collection ends it first. -/
theorem Scan.Spot.line_cons (h : n < c) :
    Spot.line (c :: columns) kinds n body = Spot.line columns (.blockEnd :: kinds) n body := by
  have hn : (n : Int) < c := Int.ofNat_lt.mpr h
  rw [Spot.line, stillOpen_cons hn, ends_cons hn, List.append_assoc]
  rfl

/-! ## Items -/

theorem passes_scalar {s : String} {keyAllowed : Bool} {column : Nat} (h : writing s = .plain)
    (hbody : Begins body)
    (hn : n ≤ innermost columns) (hkey : keyAllowed = true → innermost columns < column) :
    Passes ⟨columns, kinds, keyAllowed, column, s.toList ++ '\n' :: (indentation n ++ body)⟩
      (.line columns (.scalar .plain s :: kinds) n body) := by
  have hyields : Yields ⟨columns, kinds, keyAllowed, column, _⟩ _ :=
    yields_scalar (isPlain_of_writing h) hbody hn hkey
  rw [String.ofList_toList] at hyields
  exact hyields.arrives (clears_begun hbody).arrives

theorem passes_item {s : String} (h : writing s = .plain) (hbody : Begins body) (hn : n ≤ c) :
    Passes ⟨c :: columns, kinds, true, c,
      '-' :: ' ' :: (s.toList ++ '\n' :: (indentation n ++ body))⟩
      (.line (c :: columns) (.scalar .plain s :: .dash :: kinds) n body) := by
  have hscalar : Passes
      ⟨c :: columns, .dash :: kinds, true, c + 1 + 1,
        s.toList ++ '\n' :: (indentation n ++ body)⟩ _ :=
    passes_scalar h hbody (Int.ofNat_le.mpr hn) fun _ => Int.ofNat_lt.mpr (by omega)
  have hspace : Clears
      ⟨c :: columns, .dash :: kinds, true, c + 1,
        ' ' :: (s.toList ++ '\n' :: (indentation n ++ body))⟩ _ :=
    clears_spaces (n := 1) (isPlain_of_writing h).begins (Int.ofNat_le.mpr (by omega))
  exact (yields_dash rfl).arrives (hspace.arrives.passes hscalar)

theorem passes_items {s : String} {names : List String} (h : ∀ t ∈ s :: names, writing t = .plain)
    (hbody : Begins body) (hn : n ≤ c) :
    Passes ⟨c :: columns, kinds, true, c, '-' :: ' ' :: (blockChars (c + 2) (.string s) ++
        itemLines c (names.map .string) ++ (indentation n ++ body))⟩
      (.line (c :: columns) ((itemKinds ((s :: names).map .string)).reverse ++ kinds) n body) := by
  have hs := blockChars_string (h s List.mem_cons_self) (c + 2)
  induction names generalizing s kinds with
  | nil =>
    have hitem : Passes ⟨c :: columns, kinds, true, c, _⟩ _ :=
      passes_item (h s List.mem_cons_self) hbody hn
    rw [hs, List.map_nil, itemLines, List.append_nil, List.append_assoc]
    exact hitem
  | cons t names ih =>
    have ht := blockChars_string (h t (List.mem_cons_of_mem _ List.mem_cons_self)) (c + 2)
    have hnext :
        Begins ('-' :: ' ' :: (blockChars (c + 2) (.string t) ++ itemLines c (names.map .string) ++
        (indentation n ++ body))) := by
      rintro _ ⟨⟩
      decide
    have hitem : Passes ⟨c :: columns, kinds, true, c, _⟩ _ :=
      passes_item (h s List.mem_cons_self) hnext (Nat.le_refl c)
    rw [Spot.line_of_le (Int.le_refl _)] at hitem
    have hrest := hitem.trans (ih (fun u hu => h u (List.mem_cons_of_mem _ hu)) ht)
    rw [hs, List.map_cons, itemLines]
    simpa [itemKinds, blockKinds] using hrest

/-! ## Members -/

/-- After the colon of a key in any column, the scan passes over the text of a value. -/
def Follows (j : Json) : Prop :=
  ∀ columns kinds c column n body, Begins body → n ≤ c → c ≤ column →
    Arrives ⟨c :: columns, kinds, false, column, valueChars true c j ++ (indentation n ++ body)⟩
      (.line (c :: columns) ((blockKinds j).reverse ++ kinds) n body)

theorem opened_eq_cons (h : innermost columns ≤ c) : ∃ outer, opened c columns = c :: outer := by
  by_cases hlt : innermost columns < c
  · exact ⟨columns, if_pos hlt⟩
  · cases columns with
    | nil => exact absurd (by simp [innermost]; omega) hlt
    | cons d columns =>
      have hd : c = d := Int.ofNat_inj.mp (Int.le_antisymm (Int.not_lt.mp hlt) h)
      exact ⟨columns, by rw [opened, if_neg hlt, hd]⟩

theorem isGap_valueChars (c : Nat) (j : Json) (rest : List Char) :
    Edition.early.isGap (valueChars true c j ++ rest).head? = true := by
  unfold valueChars
  split <;> rfl

theorem Follows.passes {k : String} {j : Json} (h : Follows j) (hk : writing k = .plain)
    (hsimple : isSimpleKey k = true)
    (hcolumn : innermost columns ≤ c) (hbody : Begins body) (hn : n ≤ c) :
    Passes ⟨columns, kinds, true, c,
      keyChars c k ++ valueChars (isSimpleKey k) c j ++ (indentation n ++ body)⟩
      (.line (opened c columns) ((memberKinds [(k, j)]).reverse ++ (opening c columns ++ kinds)) n
        body) := by
  have hkey : Yields ⟨columns, kinds, true, c, _⟩ _ := yields_key (isPlain_of_writing hk)
    (utf8ByteSize_le_of_isSimpleKey hsimple) (isGap_valueChars c j (indentation n ++ body)) hcolumn
  obtain ⟨outer, houter⟩ := opened_eq_cons hcolumn
  rw [String.ofList_toList, houter] at hkey
  have hmember := hkey.arrives (h outer _ c _ n body hbody hn (by omega))
  rw [keyChars_eq hk hsimple, hsimple, houter]
  simpa [memberKinds] using hmember

theorem passes_members {k : String} {j : Json} {members : List (String × Json)}
    (hkey : ∀ m ∈ (k, j) :: members, writing m.1 = .plain ∧ isSimpleKey m.1 = true)
    (h : ∀ m ∈ (k, j) :: members, Follows m.2) (hcolumn : innermost columns ≤ c)
    (hbody : Begins body) (hn : n ≤ c) :
    Passes ⟨columns, kinds, true, c,
        keyChars c k ++ valueChars (isSimpleKey k) c j ++ memberLines c members ++
          (indentation n ++ body)⟩
      (.line (opened c columns)
        ((memberKinds ((k, j) :: members)).reverse ++ (opening c columns ++ kinds)) n
        body) := by
  obtain ⟨hk, hsimple⟩ := hkey _ List.mem_cons_self
  have hj : Follows j := h _ List.mem_cons_self
  induction members generalizing k j columns kinds with
  | nil =>
    rw [memberLines, List.append_nil]
    exact hj.passes hk hsimple hcolumn hbody hn
  | cons m members ih =>
    obtain ⟨k', j'⟩ := m
    have hkey' := fun m hm => hkey m (List.mem_cons_of_mem _ hm)
    have h' := fun m hm => h m (List.mem_cons_of_mem _ hm)
    obtain ⟨hk', hsimple'⟩ := hkey' _ List.mem_cons_self
    obtain ⟨outer, houter⟩ := opened_eq_cons hcolumn
    have hinner : innermost (opened c columns) = c := by rw [houter]; rfl
    -- The next key is in the column of the map, and so the map goes on.
    have hsame : opened c (opened c columns) = opened c columns := if_neg (by omega)
    have hnone : opening c (opened c columns) = [] := if_neg (by omega)
    have hnext :
        Begins (keyChars c k' ++ valueChars (isSimpleKey k') c j' ++ memberLines c members ++
        (indentation n ++ body)) := by
      rw [keyChars_eq hk' hsimple', List.append_assoc, List.append_assoc, List.append_assoc]
      exact (isPlain_of_writing hk').begins
    have hmember : Passes ⟨columns, kinds, true, c, _⟩ _ :=
      hj.passes hk hsimple hcolumn hnext (Nat.le_refl c)
    rw [Spot.line_of_le (Int.le_of_eq hinner)] at hmember
    have hrest :=
      hmember.trans (ih hkey' h' (Int.le_of_eq hinner) hk' hsimple' (h' _ List.mem_cons_self))
    rw [hsame, hnone] at hrest
    rw [memberLines]
    simpa [memberKinds] using hrest

/-! ## Values -/

theorem follows_string {s : String} (h : writing s = .plain) : Follows (.string s) := by
  intro columns kinds c column n body hbody hn hcolumn
  have hscalar : Passes ⟨c :: columns, kinds, false, column + 1, _⟩ _ :=
    passes_scalar h hbody (Int.ofNat_le.mpr hn) nofun
  have hspace : Clears ⟨c :: columns, kinds, false, column,
    ' ' :: (s.toList ++ '\n' :: (indentation n ++ body))⟩ _ :=
    clears_spaces (n := 1) (isPlain_of_writing h).begins (Int.ofNat_le.mpr (by omega))
  rw [valueChars_string h]
  simpa [blockKinds] using hspace.arrives.passes hscalar

/-- An empty collection. -/
theorem arrives_brackets {l r : Char} {lk rk : Token.Kind} {column : Nat}
    (h : l = '[' ∧ lk = .openList ∧ r = ']' ∧ rk = .closeList ∨ l = '{' ∧ lk = .openMap ∧ r = '}' ∧
      rk = .closeMap)
    (hbody : Begins body) (hcolumn : innermost columns ≤ column) :
    Arrives ⟨columns, kinds, false, column, ' ' :: l :: r :: '\n' :: (indentation n ++ body)⟩
      (.line columns (rk :: lk :: kinds) n body) := by
  have hbegins : Begins (l :: r :: '\n' :: (indentation n ++ body)) := by
    rintro _ ⟨⟩
    rcases h with ⟨rfl, -⟩ | ⟨rfl, -⟩ <;> decide
  have hspace : Clears ⟨columns, kinds, false, column,
    ' ' :: l :: r :: '\n' :: (indentation n ++ body)⟩ _ :=
    clears_spaces (n := 1) hbegins (Int.le_trans hcolumn (Int.ofNat_le.mpr (Nat.le_succ column)))
  exact hspace.arrives.passes ((yields_brackets h).arrives (clears_line hbody).arrives)

theorem Plain.follows {j : Json} (h : Plain j) : Follows j := by
  induction h with
  | string h => exact follows_string h
  | @list names h =>
    intro columns kinds c column n body hbody hn hcolumn
    cases names with
    | nil => exact arrives_brackets (.inl ⟨rfl, rfl, rfl, rfl⟩) hbody (Int.ofNat_le.mpr hcolumn)
    | cons s names =>
      have hbegins : Begins
          ('-' :: ' ' :: (blockChars (c + 2) (.string s) ++ itemLines c (names.map .string) ++
          (indentation n ++ body))) := by
        rintro _ ⟨⟩
        decide
      have hline : Clears ⟨c :: columns, kinds, false, column, '\n' :: (indentation c ++ _)⟩ _ :=
        clears_line hbegins
      rw [Spot.line_of_le (Int.le_refl _)] at hline
      have hitems := hline.arrives.passes (passes_items h hbody hn)
      simpa [valueChars, lead, blockKinds] using hitems
  | @map members hkey _ ih =>
    intro columns kinds c column n body hbody hn hcolumn
    cases members with
    | nil => exact arrives_brackets (.inr ⟨rfl, rfl, rfl, rfl⟩) hbody (Int.ofNat_le.mpr hcolumn)
    | cons m members =>
      obtain ⟨k, j⟩ := m
      obtain ⟨hk, hsimple⟩ := hkey _ List.mem_cons_self
      have hbegins : Begins (keyChars (c + 2) k ++ valueChars (isSimpleKey k) (c + 2) j ++
          memberLines (c + 2) members ++ (indentation n ++ body)) := by
        rw [keyChars_eq hk hsimple, List.append_assoc, List.append_assoc, List.append_assoc]
        exact (isPlain_of_writing hk).begins
      have hinner : innermost (c :: columns) < (c + 2 : Nat) := Int.ofNat_lt.mpr (by omega)
      have hline : Clears ⟨c :: columns, kinds, false, column,
        '\n' :: (indentation (c + 2) ++ _)⟩ _ :=
        clears_line hbegins
      rw [Spot.line_of_le (Int.le_of_lt hinner)] at hline
      have hmembers := hline.arrives.passes
        (passes_members hkey ih (Int.le_of_lt hinner) hbody (Nat.le_add_right_of_le hn))
      -- The map that the first key began is over where the next line begins.
      rw [opened, opening, if_pos hinner, if_pos hinner, Spot.line_cons (by omega)] at hmembers
      simpa [valueChars, lead, blockKinds] using hmembers

/-! ## The whole text -/

theorem all_isWritable_string {s : String} (h : writing s = .plain) :
    s.toList.all isWritable = true :=
  List.all_eq_true.mpr (isPlain_of_writing h).writable

theorem all_isWritable_indentation (n : Nat) : (indentation n).all isWritable = true := by
  rw [indentation, List.all_replicate]
  simp [show isWritable ' ' = true by decide]

theorem all_isWritable_items {names : List String} (h : ∀ s ∈ names, writing s = .plain)
    (column : Nat) :
    (itemLines column (names.map .string)).all isWritable = true := by
  rw [itemLines_eq h, List.all_flatMap, List.all_eq_true]
  intro s hs
  simp only [List.all_append, List.all_cons, List.all_nil, all_isWritable_indentation,
    all_isWritable_string (h s hs)]
  decide

theorem all_isWritable_members {members : List (String × Json)}
    (hkey : ∀ m ∈ members, writing m.1 = .plain ∧ isSimpleKey m.1 = true)
    (h : ∀ m ∈ members, ∀ column, (valueChars true column m.2).all isWritable = true)
    (column : Nat) :
    (memberLines column members).all isWritable = true := by
  rw [memberLines_eq hkey, List.all_flatMap, List.all_eq_true]
  intro m hm
  simp only [List.all_append, List.all_cons, all_isWritable_indentation,
    all_isWritable_string (hkey m hm).1, h m hm column]
  decide

theorem Plain.all_isWritable {j : Json} (h : Plain j) (column : Nat) :
    (valueChars true column j).all isWritable = true := by
  induction h generalizing column with
  | @string s h =>
    rw [valueChars_string h]
    simp only [List.all_append, List.all_cons, List.all_nil, all_isWritable_string h]
    decide
  | @list names h =>
    cases names with
    | nil => rfl
    | cons s names =>
      rw [List.map_cons, valueChars_list, ← List.map_cons, List.all_cons, all_isWritable_items h]
      rfl
  | @map members hkey _ ih =>
    cases members with
    | nil => rfl
    | cons m members =>
      rw [valueChars_map, List.all_cons, all_isWritable_members hkey ih]
      rfl

theorem normalized_cons {c : Char} (hreturn : c ≠ '\r') (hnext : c.toNat ≠ 0x85) (cs : List Char) :
    normalized .early (c :: cs) = c :: normalized .early cs := by
  rw [normalized]
  · simp [hreturn, hnext]
  · exact fun _ hc _ => hreturn hc

/-- A text of characters that can all be written is scanned as it is. -/
theorem tokens_of_isWritable {cs : List Char} (h : cs.all isWritable = true) :
    Edition.early.tokens cs = Scan.run .early (cs.length + 1) (.initial cs) := by
  have hcontrol : ∀ offset, controlOffset? offset cs = none := by
    induction cs with
    | nil => exact fun _ => rfl
    | cons c cs ih =>
      obtain ⟨hc, hcs⟩ := Bool.and_eq_true_iff.mp h
      have hprintable : isPrintable c = true := by
        simp only [isWritable, isPrintable, Bool.or_eq_true, Bool.and_eq_true,
          decide_eq_true_eq, ne_eq] at hc ⊢
        omega
      intro offset
      rw [controlOffset?, if_pos hprintable]
      exact ih hcs _
  have hnormalized : normalized .early cs = cs := by
    clear hcontrol
    induction cs with
    | nil => rfl
    | cons c cs ih =>
      obtain ⟨hc, hcs⟩ := Bool.and_eq_true_iff.mp h
      have hreturn : c ≠ '\r' := by
        rintro rfl
        cases hc
      have hnext : c.toNat ≠ 0x85 := by
        intro hn
        simp [isWritable, hn] at hc
      rw [normalized_cons hreturn hnext, ih hcs]
  have hmark : cs.head? ≠ some byteOrderMark := by
    intro hhead
    cases List.all_eq_true.mp h _ (List.mem_of_mem_head? hhead)
  rw [Edition.tokens, hcontrol]
  simp only [if_neg hmark, hnormalized]

/-- The tokens of a text from whose beginning the scan reaches its end. -/
theorem tokens_of_reaches {cs : List Char} {u t v : Scan} (h : cs.all isWritable = true)
    (hreaches : Reaches (.initial cs) u) (hprepare : u.prepare = .ok t) (hact : t.act = .ok v)
    (hend : v.kinds.head? = some .theEnd) : Edition.early.tokens cs = ⟨v.tokens.reverse, none⟩ := by
  obtain ⟨steps, hrun, hsteps⟩ := hreaches
  have hlength : cs.length + 1 = cs.length - steps + 1 + steps := by
    have : steps + u.cursor.rest.length ≤ cs.length := hsteps
    omega
  rw [tokens_of_isWritable h, hlength, hrun, run_of_act hprepare hact]
  exact if_pos hend

/-- At the end of the text the map that began with it is over. -/
theorem act_end {p : Position} {tokens : List Token} (hcolumn : p.column = 0) :
    (block [0] ⟨p, []⟩ tokens true none false).act =
      .ok (block [] ⟨p, []⟩ (placed p .theEnd :: placed p .blockEnd :: tokens)
        false none false) := by
  have hplace : (if p.column = 0 then p else ⟨p.index, p.line + 1, 0⟩) = p := if_pos hcolumn
  change Scan.finish .early (block [0] ⟨p, []⟩ tokens true none false) = _
  rw [Scan.finish]
  change (do
    let s ← Scan.endDocument
      (block [0] ⟨if p.column = 0 then p else ⟨p.index, p.line + 1, 0⟩, []⟩ tokens true none false)
    return s.push .theEnd (if p.column = 0 then p else ⟨p.index, p.line + 1, 0⟩)) = _
  rw [hplace]
  rfl

/-- The scan of the text of a map finds the tokens of the map. -/
theorem tokens_text {m : String × Json} {members : List (String × Json)}
    (h : Plain (.object (m :: members))) :
    ∃ tokens, Edition.early.tokens (text (.object (m :: members))).toList = ⟨tokens, none⟩ ∧
      tokens.map Token.kind = blockKinds (.object (m :: members)) ++ [.theEnd] := by
  obtain ⟨k, j⟩ := m
  cases h with
  | map hkey h =>
    obtain ⟨hk, hsimple⟩ := hkey _ List.mem_cons_self
    have htext : (text (.object ((k, j) :: members))).toList =
        keyChars 0 k ++ valueChars (isSimpleKey k) 0 j ++ memberLines 0 members := by
      rw [text, String.toList_ofList, blockChars]
    have hwritable : (keyChars 0 k ++ valueChars (isSimpleKey k) 0 j ++ memberLines 0 members).all
      isWritable = true :=
      all_isWritable_members hkey (fun m hm => (h m hm).all_isWritable) 0
    have hbegins :
        Begins (keyChars 0 k ++ valueChars (isSimpleKey k) 0 j ++ memberLines 0 members) := by
      rw [keyChars_eq hk hsimple, List.append_assoc, List.append_assoc]
      exact (isPlain_of_writing hk).begins
    generalize hcs : keyChars 0 k ++ valueChars (isSimpleKey k) 0 j ++ memberLines 0 members =
      cs at *
    have hinitial : At ⟨[], [], true, 0, cs⟩ (.initial cs) :=
      ⟨.start, [], none, true, rfl, nofun, rfl, rfl⟩
    have hclears : Clears ⟨[], [], true, 0, cs⟩ ⟨[], [], true, 0, cs⟩ := clears_begun hbegins
    have hmembers : Passes ⟨[], [], true, 0, cs⟩
        ⟨[0], (memberKinds ((k, j) :: members)).reverse ++ [.blockMap], true, 0, []⟩ := by
      have hpasses : Passes ⟨[], [], true, 0,
          keyChars 0 k ++ valueChars (isSimpleKey k) 0 j ++ memberLines 0 members ++
          (indentation 0 ++ [])⟩ _ :=
        passes_members hkey (fun m hm => (h m hm).follows) (by decide) nofun (Nat.le_refl 0)
      rw [hcs, indentation, List.replicate_zero, List.append_nil, List.append_nil] at hpasses
      exact hpasses
    obtain ⟨u, _, hreaches, hprepares, p, tokens, rfl, hcolumn, hkinds⟩ :=
      hclears.arrives.passes hmembers _ hinitial
    refine ⟨(placed p .theEnd :: placed p .blockEnd :: tokens).reverse, ?_, ?_⟩
    · rw [htext, tokens_of_reaches hwritable hreaches hprepares.prepare (act_end hcolumn) rfl]
      rfl
    · rw [List.map_reverse, List.map_cons, List.map_cons, hkinds]
      simp [placed, blockKinds]

end RoundWorkflow.Yaml
