import RoundWorkflow.Report.Grid
import RoundWorkflow.Yaml.Writer
import RoundWorkflow.Table
import RoundWorkflow.History
import RoundWorkflow.Exchange

/-!
# Reports

A report is a list of rows with the same columns.  It is printed as a grid, as JSON or
as YAML; a grid without rows says that there are none.  A configuration is reported as
a value in JSON and YAML, and in a grid as one row for every setting (`settings`),
named by the path that leads to it.
-/

namespace RoundWorkflow

/-- The layout of a report. -/
inductive Layout where
  | grid
  | json
  | yaml
  deriving DecidableEq, Repr, Inhabited

/-- A row of a report: the names of its columns and their values. -/
abbrev Row := List (String × Json)

namespace Report

/-- The text of a value in a cell. -/
def cellText : Json → String
  | .string s => s
  | j => j.compact

/-- The grid of rows, under the names of their columns. -/
def gridText : List Row → String
  | [] => "No results\n"
  | row :: rows =>
    Grid.text (row.map Prod.fst :: (row :: rows).map fun r => r.map fun c => cellText c.2)

/-- A value as a document. -/
def documentText (layout : Layout) (j : Json) : String :=
  match layout with
  | .yaml => Yaml.text j
  | _ => j.pretty ++ "\n"

/-- The text of a report. -/
def text (layout : Layout) (rows : List Row) : String :=
  match layout with
  | .grid => gridText rows
  | _ => documentText layout (.array (rows.map .object))

/-! ## Rows -/

/-- The row of a round of a table. -/
def roundRow (t : Table) (r : Round) : Row :=
  [("round", .string r.name), ("start", .bool (t.isStart r)), ("exits", .nat (t.outgoing r).length),
    ("timeout", .string ((r.timeoutEvent.map Event.name).getD "-"))]

/-- The row of a transition. -/
def recordRow (r : Record) : Row :=
  [("step", .nat r.step), ("period", .nat r.period), ("from", .string r.source.name),
    ("event", .string r.event.name), ("to", .string r.target.name)]

/-- The path to a member of what another path leads to. -/
def memberPath (path name : String) : String := if path = "" then name else path ++ "." ++ name

mutual

/-- The settings of a value that a path leads to, with their paths. -/
def settingsAt (path : String) : Json → List (String × String)
  | .object (m :: members) => memberSettings path (m :: members)
  | .object [] => [(path, "\x7b\x7d")]
  | .null => [(path, "-")]
  | j => [(path, cellText j)]

/-- The settings of the members of an object. -/
def memberSettings (path : String) : List (String × Json) → List (String × String)
  | [] => []
  | (name, j) :: rest => settingsAt (memberPath path name) j ++ memberSettings path rest

end

/-- The settings of a configuration, the names at each level in ascending order. -/
def settings (c : Configuration) : List (String × String) :=
  settingsAt "" (Exchange.encode c).sorted

/-- The row of a setting. -/
def settingRow (s : String × String) : Row := [("setting", .string s.1), ("value", .string s.2)]

/-- The text of a configuration. -/
def configurationText (layout : Layout) (c : Configuration) : String :=
  match layout with
  | .grid => gridText ((settings c).map settingRow)
  | _ => documentText layout (Exchange.encode c)

end Report

end RoundWorkflow
