import RoundWorkflow.Error
import RoundWorkflow.Text.Blank
import RoundWorkflow.Text.AsciiCase

/-!
# Settings of single rounds

A configuration has maps from names of rounds to settings.  A name may have blanks
around it and any case of its ASCII letters, because some sources of a configuration
fold case.  So one round may have several settings; the one whose name comes last in
the order of the map counts.  A name of no round is refused, and quoted as it stands.
-/

namespace RoundWorkflow

/-- The round that a name in a configuration means. -/
def Round.ofSettingName? (s : String) : Option Round :=
  Round.all.find? fun r => Text.sameUpToCase r.name (Text.trimmed s)

/-- Settings of rounds, in the order in which they were made. -/
abbrev RoundSettings (α : Type) := List (Round × α)

/-- The settings of a map, in the order of its keys; the first unknown name is reported. -/
def RoundSettings.ofEntries {α : Type} : List (String × α) → Except Error (RoundSettings α)
  | [] => .ok []
  | (name, a) :: rest =>
    match Round.ofSettingName? name with
    | none => .error (.configuration (.unknownRoundName name))
    | some r => (RoundSettings.ofEntries rest).map ((r, a) :: ·)

/-- The setting of a round that counts: the last one. -/
def RoundSettings.get? {α : Type} (settings : RoundSettings α) (r : Round) : Option α :=
  (settings.reverse.find? fun s => s.1 = r).map Prod.snd

/-- The settings that count, in the order of the rounds. -/
def RoundSettings.effective {α : Type} (settings : RoundSettings α) : List (Round × α) :=
  Round.all.filterMap fun r => (settings.get? r).map fun a => (r, a)

end RoundWorkflow
