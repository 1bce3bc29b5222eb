import RoundWorkflow.Report
import RoundWorkflow.Proofs.JsonLeaves
import Mathlib.Data.List.Nodup
import Mathlib.Data.List.TakeWhile

/-!
# The paths of settings

A setting of a configuration is listed under a path, which is the keys that lead to it with dots
between.  Names of rounds are keys, and they are whatever was written in the configuration, so they
may have dots in them, blanks, or nothing at all.  A path cannot be taken apart at its dots then,
and still no two settings have the same one (`Report.settings_exact`).

Two rules make the paths of an object tell its leaves apart (`Json.Told`).  In a record no name has
a dot, so the first dot ends the name.  In a map from names every value has its leaves under the
same keys, so what is left of the path without them is the name.
-/

namespace RoundWorkflow

namespace Json

variable {j : Json} {key : String} {keys keys' : List String} {members : List (String × Json)}

/-! ## Keys and dots -/

/-- The text of keys with a dot before each. -/
def dotted (keys : List String) : List Char := keys.flatMap fun key => '.' :: key.toList

theorem toList_intercalate_cons (key : String) (keys : List String) :
    (".".intercalate (key :: keys)).toList = key.toList ++ dotted keys := by
  induction keys generalizing key with
  | nil => simp [dotted]
  | cons key' keys ih =>
    rw [String.intercalate_cons_cons, String.toList_append, ih]
    simp [dotted]

theorem dotted_eq (h : keys ≠ []) : dotted keys = '.' :: (".".intercalate keys).toList := by
  obtain ⟨key, keys, rfl⟩ := List.exists_cons_of_ne_nil h
  rw [toList_intercalate_cons]
  rfl

theorem takeWhile_dotted (keys : List String) : (dotted keys).takeWhile (· ≠ '.') = [] := by
  cases keys <;> rfl

/-- A name without dots ends with the first dot. -/
theorem eq_of_append_dotted {cs cs' : List Char} (h : '.' ∉ cs) (h' : '.' ∉ cs')
    (heq : cs ++ dotted keys = cs' ++ dotted keys') : cs = cs' ∧ dotted keys = dotted keys' := by
  have hname {cs : List Char} (keys : List String) (h : '.' ∉ cs) :
      (cs ++ dotted keys).takeWhile (· ≠ '.') = cs := by
    rw [List.takeWhile_append_of_pos, takeWhile_dotted, List.append_nil]
    intro c hc
    exact decide_eq_true fun hdot => h (hdot ▸ hc)
  have hcs : cs = cs' := by rw [← hname keys h, heq, hname keys' h']
  subst hcs
  exact ⟨rfl, List.append_cancel_left heq⟩

/-! ## Paths that tell leaves apart -/

/-- Keys lead to a leaf. -/
def HasLeaf (j : Json) (keys : List String) : Prop := ∃ v, j.follow? keys = some v ∧ v.isLeaf = true

/-- The text of the keys that lead to a leaf tells which leaf it is. -/
def Told (j : Json) : Prop :=
  ∀ keys keys', j.HasLeaf keys → j.HasLeaf keys' → dotted keys = dotted keys' → keys = keys'

theorem HasLeaf.eq_nil (h : j.HasLeaf keys) (hleaf : j.isLeaf = true) : keys = [] := by
  obtain ⟨v, hfollow, -⟩ := h
  cases keys with
  | nil => rfl
  | cons key keys =>
    rw [follow?, member?_of_isLeaf hleaf] at hfollow
    cases hfollow

theorem HasLeaf.ne_nil (h : j.HasLeaf keys) (hleaf : j.isLeaf = false) : keys ≠ [] := by
  rintro rfl
  obtain ⟨v, hfollow, hv⟩ := h
  cases hfollow
  cases hleaf.symm.trans hv

theorem HasLeaf.of_cons (h : j.HasLeaf (key :: keys)) :
    ∃ j', j.member? key = some j' ∧ j'.HasLeaf keys := by
  obtain ⟨v, hfollow, hleaf⟩ := h
  obtain ⟨j', hj', hfollow⟩ := Option.bind_eq_some_iff.mp hfollow
  exact ⟨j', hj', v, hfollow, hleaf⟩

theorem told_leaf (h : j.isLeaf = true) : Told j :=
  fun _ _ hkeys hkeys' _ => by rw [hkeys.eq_nil h, hkeys'.eq_nil h]

/-- It is enough that the leaves under two keys are told apart. -/
theorem told_of_cons
    (h : ∀ key keys key' keys', j.HasLeaf (key :: keys) → j.HasLeaf (key' :: keys') →
      key.toList ++ dotted keys = key'.toList ++ dotted keys' →
      key :: keys = key' :: keys') : Told j := by
  intro keys keys' hkeys hkeys' heq
  cases keys with
  | nil =>
    cases keys' with
    | nil => rfl
    | cons key' keys' => cases heq
  | cons key keys =>
    cases keys' with
    | nil => cases heq
    | cons key' keys' => exact h _ _ _ _ hkeys hkeys' (List.cons.inj heq).2

/-- A record tells its leaves apart if its fields do, and no name has a dot. -/
theorem told_record (hnames : ∀ m ∈ members, '.' ∉ m.1.toList) (hfields : ∀ m ∈ members, Told m.2) :
    Told (.object members) := by
  refine told_of_cons fun key keys key' keys' hkeys hkeys' heq => ?_
  obtain ⟨j, hj, hkeys⟩ := hkeys.of_cons
  obtain ⟨j', hj', hkeys'⟩ := hkeys'.of_cons
  have hm := mem_of_member? hj
  obtain ⟨hname, hrest⟩ := eq_of_append_dotted (hnames _ hm) (hnames _ (mem_of_member? hj')) heq
  obtain rfl := String.toList_inj.mp hname
  cases hj.symm.trans hj'
  rw [hfields _ hm keys keys' hkeys hkeys' hrest]

/-- A map tells its leaves apart if there is one under every name, and under the same keys from
there. -/
theorem told_map (under : List String)
    (h : ∀ m ∈ members, ∀ keys, m.2.HasLeaf keys → keys = under) :
    Told (.object members) := by
  refine told_of_cons fun key keys key' keys' hkeys hkeys' heq => ?_
  obtain ⟨j, hj, hkeys⟩ := hkeys.of_cons
  obtain ⟨j', hj', hkeys'⟩ := hkeys'.of_cons
  obtain rfl := h _ (mem_of_member? hj) keys hkeys
  obtain rfl := h _ (mem_of_member? hj') keys' hkeys'
  rw [String.toList_inj.mp (List.append_cancel_right heq)]

end Json

namespace Report

open Json

variable {j : Json} {path : String}

/-! ## Rows by leaves -/

/-- The text of a leaf in its row. -/
def leafText : Json → String
  | .null => "-"
  | .object _ => "\x7b\x7d"
  | .string s => s
  | j => j.compact

theorem settingsAt_of_isLeaf (h : j.isLeaf = true) (path : String) :
    settingsAt path j = [(path, leafText j)] := by
  cases j with
  | object members =>
    cases members with
    | nil => rfl
    | cons m members => cases h
  | array items => cases h
  | _ => rfl

theorem settingsAt_object {members : List (String × Json)} (hne : members ≠ []) (path : String) :
    settingsAt path (.object members) = members.flatMap fun m =>
      settingsAt (memberPath path m.1) m.2 := by
  have hmembers (members : List (String × Json)) :
      memberSettings path members = members.flatMap fun m =>
        settingsAt (memberPath path m.1) m.2 := by
    induction members with
    | nil => rfl
    | cons m members ih => rw [memberSettings, ih, List.flatMap_cons]
  cases members with
  | nil => exact absurd rfl hne
  | cons m members => rw [settingsAt, hmembers]

/-- Below a path that is not empty, the keys come after it. -/
theorem settingsAt_eq (h : j.Ordered) (hpath : path ≠ "") :
    settingsAt path j = j.leaves.map fun l => (".".intercalate (path :: l.1), leafText l.2) := by
  induction h generalizing path with
  | leaf hleaf =>
    rw [settingsAt_of_isLeaf hleaf, leaves_of_isLeaf hleaf]
    rfl
  | object d hne _ ih =>
    rw [settingsAt_object hne, leaves_object hne, List.map_flatMap]
    refine List.flatMap_congr fun e he => ?_
    have hmember : path ++ "." ++ e.1 ≠ "" := by simp
    rw [memberPath, if_neg hpath, ih e he hmember, List.map_map]
    rfl

/-- At the root there is no path yet, and the keys alone make one. -/
theorem settingsAt_root (h : j.Ordered) (hnames : j.member? "" = none) :
    settingsAt "" j = j.leaves.map fun l => (".".intercalate l.1, leafText l.2) := by
  cases h with
  | leaf hleaf =>
    rw [settingsAt_of_isLeaf hleaf, leaves_of_isLeaf hleaf]
    rfl
  | object d hne h =>
    rw [settingsAt_object hne, leaves_object hne, List.map_flatMap]
    refine List.flatMap_congr fun e he => ?_
    -- An empty name would not be seen in the path.
    have hname : e.1 ≠ "" := by
      intro hempty
      rw [member?_entries, ← hempty, Dict.mem_entries_iff.mp he] at hnames
      cases hnames
    rw [memberPath, if_pos rfl, settingsAt_eq (h e he) hname, List.map_map]
    rfl

/-! ## Configurations -/

/-- A value whose leaves can be listed by the text of their keys. -/
structure Listable (j : Json) : Prop where
  tree : j.IsTree
  told : j.Told

theorem listable_leaf (h : j.isLeaf = true) : Listable j := ⟨.leaf h, told_leaf h⟩

theorem listable_record {members : List (String × Json)} (hnames : ∀ m ∈ members, '.' ∉ m.1.toList)
    (hfields : ∀ m ∈ members, Listable m.2) : Listable (.object members) :=
  ⟨.object fun m hm => (hfields m hm).tree, told_record hnames fun m hm => (hfields m hm).told⟩

theorem listable_map {α : Type} {encode : α → Json} (under : List String)
    (htree : ∀ a, (encode a).IsTree)
    (hunder : ∀ a keys, (encode a).HasLeaf keys → keys = under) (d : Dict α) :
    Listable (.ofDict encode d) where
  tree := by
    refine .object fun m hm => ?_
    obtain ⟨e, -, rfl⟩ := List.mem_map.mp hm
    exact htree e.2
  told := by
    refine told_map under fun m hm keys hkeys => ?_
    obtain ⟨e, -, rfl⟩ := List.mem_map.mp hm
    exact hunder e.2 keys hkeys

theorem isLeaf_ofOption {α : Type} {encode : α → Json} (h : ∀ a, (encode a).isLeaf = true)
    (o : Option α) :
    (Json.ofOption encode o).isLeaf = true := by
  cases o with
  | none => rfl
  | some a => exact h a

theorem listable_timeoutConfig (c : TimeoutConfig) : Listable (Exchange.encode c) := by
  refine listable_record (by simp) ?_
  have hoverrides : Listable (.ofDict Exchange.ofUInt64 c.overrides) :=
    listable_map [] (fun _ => .leaf rfl) (fun _ _ hkeys => hkeys.eq_nil rfl) c.overrides
  have hseconds (n : UInt64) : Listable (Exchange.ofUInt64 n) := listable_leaf rfl
  simp [hoverrides, hseconds]

theorem listable_retryPolicy (p : RetryPolicy) : Listable (Exchange.encode p) := by
  refine listable_record (by simp) ?_
  have hcap : Listable (.ofOption Exchange.ofUInt32 p.maxConsecutive) :=
    listable_leaf (isLeaf_ofOption (fun _ => rfl) _)
  simp [hcap]

/-- A policy has one leaf. -/
theorem eq_of_hasLeaf_retryPolicy {p : RetryPolicy} {keys : List String}
    (h : (Exchange.encode p).HasLeaf keys) :
    keys = ["max_consecutive"] := by
  cases keys with
  | nil => exact absurd rfl (h.ne_nil rfl)
  | cons key keys =>
    obtain ⟨j, hj, hkeys⟩ := h.of_cons
    obtain ⟨rfl, rfl⟩ : key = "max_consecutive" ∧
        j = .ofOption Exchange.ofUInt32 p.maxConsecutive := by
      simpa using mem_of_member? hj
    rw [hkeys.eq_nil (isLeaf_ofOption (fun _ => rfl) _)]

theorem listable_retryConfig (c : RetryConfig) : Listable (Exchange.encode c) := by
  refine listable_record (by simp) ?_
  have hrounds : Listable (.ofDict Exchange.encode c.rounds) :=
    listable_map ["max_consecutive"] (fun p => (listable_retryPolicy p).tree)
      (fun _ _ => eq_of_hasLeaf_retryPolicy)
      c.rounds
  simp [hrounds, listable_retryPolicy]

theorem listable_engineSection (c : EngineSection) : Listable (Exchange.encode c) := by
  refine listable_record (by simp) ?_
  have hstring (o : Option String) : Listable (.ofOption .string o) :=
    listable_leaf (isLeaf_ofOption (fun _ => rfl) o)
  have hcount (n : UInt64) : Listable (Exchange.ofUInt64 n) := listable_leaf rfl
  simp [hstring, hcount]

theorem listable_logging (c : Logging) : Listable (Exchange.encode c) := by
  refine listable_record (by simp) ?_
  have hlevel : Listable (.string c.level) := listable_leaf rfl
  have hjson : Listable (.bool c.json) := listable_leaf rfl
  simp [hlevel, hjson]

theorem listable_configuration (c : Configuration) : Listable (Exchange.encode c) := by
  refine listable_record (by simp) ?_
  simp [listable_engineSection, listable_timeoutConfig, listable_retryConfig, listable_logging]

/-- A configuration has one setting for every leaf of its JSON form, in order, under the keys that
lead to the leaf with dots between; and whatever names there are in it, no two settings have the
same path. -/
theorem settings_exact (c : Configuration) :
    ∃ leaves, (Exchange.encode c).ListsLeaves leaves ∧
      settings c = leaves.map (fun l => (".".intercalate l.1, leafText l.2)) ∧
      ((settings c).map Prod.fst).Nodup := by
  obtain ⟨htree, htold⟩ := listable_configuration c
  have hleaves := htree.listsLeaves
  have hsettings : settings c = (Exchange.encode c).sorted.leaves.map fun l =>
    (".".intercalate l.1, leafText l.2) :=
    settingsAt_root htree.ordered_sorted (by rw [member?_sorted]; rfl)
  refine ⟨_, hleaves, hsettings, ?_⟩
  have hpaths : (settings c).map Prod.fst =
      ((Exchange.encode c).sorted.leaves.map Prod.fst).map (".".intercalate ·) := by
    rw [hsettings, List.map_map, List.map_map]
    rfl
  rw [hpaths]
  refine List.Nodup.map_on (fun keys hkeys keys' hkeys' heq => ?_) hleaves.nodup
  obtain ⟨⟨_, v⟩, hv, rfl⟩ := List.mem_map.mp hkeys
  obtain ⟨⟨_, v'⟩, hv', rfl⟩ := List.mem_map.mp hkeys'
  have hleaf : (Exchange.encode c).HasLeaf _ := ⟨v, (hleaves.mem_iff _ _).mp hv⟩
  have hleaf' : (Exchange.encode c).HasLeaf _ := ⟨v', (hleaves.mem_iff _ _).mp hv'⟩
  refine htold _ _ hleaf hleaf' ?_
  rw [dotted_eq (hleaf.ne_nil rfl), dotted_eq (hleaf'.ne_nil rfl), heq]

theorem leaves_ne_nil (h : j.Ordered) : j.leaves ≠ [] := by
  induction h with
  | leaf hleaf =>
    rw [leaves_of_isLeaf hleaf]
    exact List.cons_ne_nil _ _
  | object d hne _ ih =>
    obtain ⟨e, es, hes⟩ := List.exists_cons_of_ne_nil hne
    have hfirst := ih e (hes ▸ List.mem_cons_self)
    rw [leaves_object hne, hes, List.flatMap_cons]
    exact List.append_ne_nil_of_left_ne_nil (mt List.map_eq_nil_iff.mp hfirst) _

/-- A configuration is written as a grid with a row for every setting, its path before its text. -/
theorem configurationText_grid (c : Configuration) :
    configurationText .grid c =
      Grid.text (["setting", "value"] :: (settings c).map fun s => [s.1, s.2]) := by
  have hordered := (listable_configuration c).tree.ordered_sorted
  have hsome : settings c ≠ [] := by
    rw [settings, settingsAt_root hordered (by rw [member?_sorted]; rfl)]
    exact mt List.map_eq_nil_iff.mp (leaves_ne_nil hordered)
  obtain ⟨s, rest, hs⟩ := List.exists_cons_of_ne_nil hsome
  rw [configurationText, hs, List.map_cons, gridText, List.map_cons, List.map_map, List.map_cons]
  rfl

/-- Names with dots, blanks and nothing in them. -/
def oddlyNamed : Configuration :=
  { Configuration.standard with
    timeouts :=
      { TimeoutConfig.standard with overrides := .ofList [("round_secs.", 1), ("", 2), (" x", 3)] }
    retry := ⟨⟨none⟩, .ofList [("x.max_consecutive", ⟨some 1⟩), ("x", ⟨none⟩)]⟩ }

example : (settings oddlyNamed).map Prod.fst =
    ["engine.history_capacity", "engine.notification_capacity", "engine.specification",
      "engine.start_state", "logging.json", "logging.level", "retry.default.max_consecutive",
      "retry.rounds.x.max_consecutive", "retry.rounds.x.max_consecutive.max_consecutive",
      "timeouts.check_secs", "timeouts.finalize_secs", "timeouts.overrides.",
      "timeouts.overrides. x", "timeouts.overrides.round_secs.", "timeouts.reset_and_pause_secs",
      "timeouts.reset_secs", "timeouts.round_secs", "timeouts.validate_secs"] := by
  cbv

end Report

end RoundWorkflow
