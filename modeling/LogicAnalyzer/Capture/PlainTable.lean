import LogicAnalyzer.Capture.Table
import LogicAnalyzer.Decimal.Shortest

/-!
# Plain tables

The programs run with a library that does no more than they need.  Written down, a table has a line
of column names and a line per row, with commas between the fields.

## Main definitions

* `TableError`: why the library refused something
* `Column.timeLayout`: how times are written
* `TableLibrary.plain`: the library
* `Files.willing`, `Files.refusing`: files that can all be written, or none
-/

namespace LogicAnalyzer

/-- Why a table could not be made, read or written. -/
inductive TableError where
  /-- Two columns have the same name. -/
  | nameRepeats
  /-- Two columns have different heights. -/
  | heightsDiffer
  | noColumn (name : String)
  /-- A column of times has no levels. -/
  | noLevels
  /-- The system refused a file. -/
  | noFile (report : String)
deriving DecidableEq, Repr

namespace Column

/-- Times from a hundred thousandth of a second up are written without exponent, and have a
digit behind the point. -/
def timeLayout : DecimalLayout := ⟨-5, 16, 'e'⟩

/-- How a level is written. -/
def levelText (level : Bool) : String := if level then "true" else "false"

/-- The fields of a column, written down. -/
def fields : Column → List String
  | times values => values.map timeLayout.renderDouble
  | levels values => values.map levelText

end Column

namespace SampleTable

/-- Columns assembled to a table, unless names repeat or heights differ. -/
def ofColumns (columns : List (String × Column)) : Except TableError SampleTable :=
  if ¬(columns.map Prod.fst).Nodup then .error .nameRepeats
  else match columns with
    | [] => .ok ⟨0, []⟩
    | first :: rest =>
      if rest.all fun column => column.2.height = first.2.height then
        .ok ⟨first.2.height, first :: rest⟩
      else .error .heightsDiffer

/-- The first `height` rows of columns of texts. -/
def rows : (height : Nat) → List (List String) → List (List String)
  | 0, _ => []
  | height + 1, columns =>
    columns.map (fun column => column.headD "") :: rows height (columns.map List.tail)

/-- A table written down: the names, then the rows. -/
def csv (t : SampleTable) : String :=
  Text.ofLines (t.names :: rows t.height (t.columns.map fun column => column.2.fields))

end SampleTable

/-- **A library that does no more than is needed.** -/
def TableLibrary.plain : TableLibrary TableError where
  assemble := SampleTable.ofColumns
  column t name :=
    match t.columns.lookup name with
    | some column => .ok column
    | none => .error (.noColumn name)
  levels column :=
    match column.levels? with
    | some values => .ok values
    | none => .error .noLevels
  text t := .ok t.csv

/-- Files that can all be written. -/
def Files.willing : Files TableError where
  create _ := .ok ()
  write _ _ := .ok ()

/-- Files of which none can be made. -/
def Files.refusing (report : String) : Files TableError where
  create _ := .error (.noFile report)
  write _ _ := .error (.noFile report)

end LogicAnalyzer
