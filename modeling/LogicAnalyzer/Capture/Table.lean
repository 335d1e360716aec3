import LogicAnalyzer.Capture.Recording

/-!
# Captures as tables

A recording is exported as a table with one row per sample: the time since the start of the
capture, and the level of every recorded channel.  Tables are made and read by a library, and files
are the system's.  Both are at hand only as the answers that they give: any request may fail.

## Main definitions

* `Column`, `SampleTable`: named columns of equal height
* `Text.ofLines`: fields written line by line
* `TableLibrary`, `Files`: a library of tables, and the files of a system
* `Recording.table`: the table of a recording
* `Recording.save`: a recording written to a file
-/

namespace LogicAnalyzer

/-- The fields of a column. -/
inductive Column where
  | times (values : List Float)
  | levels (values : List Bool)

/-- Named columns. -/
structure SampleTable where
  /-- How many rows there are. -/
  height : Nat
  /-- The columns with their names, from left to right. -/
  columns : List (String × Column)

namespace Column

/-- The column name of times. -/
def timeName : String := "time"

/-- How many fields a column has. -/
def height : Column → Nat
  | times values => values.length
  | levels values => values.length

/-- The levels of a column of levels. -/
def levels? : Column → Option (List Bool)
  | times _ => none
  | levels values => some values

end Column

/-- The names of the columns. -/
def SampleTable.names (t : SampleTable) : List String := t.columns.map Prod.fst

/-- A line of fields. -/
def Text.line (fields : List String) : String := ",".intercalate fields ++ "\n"

/-- Lines of fields, one after another. -/
def Text.ofLines (lines : List (List String)) : String := String.join (lines.map line)

/-- **A library of tables**, as far as it is used. -/
structure TableLibrary (ε : Type) where
  /-- Assembles named columns. -/
  assemble : List (String × Column) → Except ε SampleTable
  /-- The column under a name. -/
  column : SampleTable → String → Except ε Column
  /-- The fields of a column, if they are levels. -/
  levels : Column → Except ε (List Bool)
  /-- The text of a table, with the names in front. -/
  text : SampleTable → Except ε String

/-- **The files of a system**, as far as they are used. -/
structure Files (ε : Type) where
  /-- Makes an empty file at a path. -/
  create : (path : String) → Except ε Unit
  /-- Writes a text to the file that was made there. -/
  write : (path text : String) → Except ε Unit

/-- The time between two samples, in seconds; none passes if there is no rate. -/
def samplePeriod (rate : UInt64) : Float := if rate = 0 then 0 else 1 / rate.toFloat

namespace Recording

/-- The times of the samples. -/
def times (header : StreamHeader) (samples : List UInt64) : List Float :=
  (List.range samples.length).map fun index => index.toFloat * samplePeriod header.sampleRate

/-- The columns of some samples: one of times, then one for each recorded channel in ascending
order. -/
def columns (header : StreamHeader) (samples : List UInt64) : List (String × Column) :=
  (Column.timeName, .times (times header samples)) ::
    header.channels.toList.map fun channel =>
      (header.model.channelName channel, .levels (samples.map (levelOf · channel)))

variable {ε : Type} (library : TableLibrary ε)

/-- **The table of a recording.**  Without a header there is nothing to assemble. -/
def table (r : Recording) : Except ε SampleTable :=
  match r.header with
  | none => .ok ⟨0, []⟩
  | some header => library.assemble (columns header r.samples)

/-- **Writes a recording to a file**, and gives the text that is in it then.  The file is made once
there is a table. -/
def save (files : Files ε) (r : Recording) (path : String) : Except ε String := do
  let table ← r.table library
  files.create path
  let text ← library.text table
  files.write path text
  return text

end Recording

end LogicAnalyzer
