import LogicAnalyzer.Proofs.Channel.Listing
import LogicAnalyzer.Proofs.Text.Fields
import Mathlib

/-!
# Reading tables

A table has a column of levels for every recorded channel, under the name of the channel.  It is
read by these names, row by row, and so is its text, line by line.  The levels in a row put the
sample together again from which the row was made, as far as its channels were recorded.

## Main definitions

* `TableLibrary.Lawful`: what a library of tables is relied on for
* `SampleTable.row?`, `Text.row?`: the level under a name, in a row of a table or a line of its text
* `Model.recombine`, `SampleTable.samples`, `Text.samples`: samples, from levels put together
* `Model.Spells`: rows that have the levels of a sample
* `SampleTable.Tells`: tables of some samples, and their texts
* `Recording.Exports`: what a recording is exported as

## Main results

* `Model.channelName_inj`: channels are told apart by their names
* `Model.recombine_of_spells`: a sample is put together again
* `SampleTable.Lists.row?_eq`: a line of the text says what the row of the table does
* `Recording.tells_sheet`: the table of some samples tells of them
* `Recording.exists_exports`: a recording with a header is exported
-/

namespace LogicAnalyzer

open Text (IsCell IsBare)

/-! ## The library -/

/-- **A field of a row, written down**: a level is spelled out, and of a time nothing is known but
that it stands between commas. -/
inductive Column.Writes : Column → (row : Nat) → (field : String) → Prop where
  | time {values : List Float} {row : Nat} {field : String} (hrow : row < values.length)
      (hfield : IsCell field) : Writes (.times values) row field
  | high {values : List Bool} {row : Nat} (hlevel : values[row]? = some true) :
      Writes (.levels values) row "true"
  | low {values : List Bool} {row : Nat} (hlevel : values[row]? = some false) :
      Writes (.levels values) row "false"

/-- **Rows of fields that list a table**, with a field for each column. -/
structure SampleTable.Lists (t : SampleTable) (rows : List (List String)) : Prop where
  height : rows.length = t.height
  fields : ∀ (row : Nat) fields, rows[row]? = some fields →
    List.Forall₂ (fun column => column.2.Writes row) t.columns fields

/-- **What a library of tables is relied on for.** -/
structure TableLibrary.Lawful {ε : Type} (library : TableLibrary ε) : Prop where
  /-- Columns are assembled if there are any, their names differ and their heights do not. -/
  assemble : ∀ columns height, columns ≠ [] → (columns.map Prod.fst).Nodup →
    (∀ column ∈ columns, column.2.height = height) →
      library.assemble columns = .ok ⟨height, columns⟩
  /-- A column is found under its name, if the names differ. -/
  column : ∀ (t : SampleTable) name column, t.names.Nodup → (name, column) ∈ t.columns →
    library.column t name = .ok column
  /-- A column of levels has its levels. -/
  levels : ∀ values, library.levels (.levels values) = .ok values
  /-- A table of columns of equal height is written line by line, the names and then the rows, if no
  name needs quotes. -/
  text : ∀ t : SampleTable, t.columns ≠ [] → (∀ column ∈ t.columns, column.2.height = t.height) →
    (∀ name ∈ t.names, IsBare name) →
      ∃ rows, library.text t = .ok (Text.ofLines (t.names :: rows)) ∧ t.Lists rows

/-! ## Columns under names -/

/-- What is listed under a name of its own is found under it. -/
theorem lookup_map_key {α β : Type} [DecidableEq α] {name : α → String} {a : α} {entries : List α}
    (hname : ∀ b ∈ entries, name b = name a → b = a) (f : α → β) :
    (entries.map fun b => (name b, f b)).lookup (name a) =
      if a ∈ entries then some (f a) else none := by
  induction entries with
  | nil => rfl
  | cons b rest ih =>
    rw [List.map_cons, List.lookup_cons, ih fun b hb => hname b (List.mem_cons_of_mem _ hb)]
    by_cases heq : name a = name b
    · obtain rfl := hname b List.mem_cons_self heq.symm
      simp
    · have hne : a ≠ b := fun h => heq (congrArg name h)
      rw [beq_eq_false_iff_ne.mpr heq]
      simp [hne]

/-- What belongs to the entries, one by one, is found under the same names. -/
theorem rel_lookup_zip {α β : Type} {R : α → β → Prop} {entries : List (String × α)}
    {values : List β} (h : List.Forall₂ (fun entry => R entry.2) entries values) (name : String) :
    Option.Rel R (entries.lookup name) (((entries.map Prod.fst).zip values).lookup name) := by
  induction h with
  | nil => exact .none
  | @cons entry value rest values hentry hrest ih =>
    rw [List.map_cons, List.zip_cons_cons, List.lookup_cons, List.lookup_cons]
    cases name == entry.1 with
    | true => exact .some hentry
    | false => exact ih

namespace Column

/-- The level that a field spells, if it spells one. -/
def readLevel? (field : String) : Option Bool :=
  if field = "true" then some true
  else if field = "false" then some false
  else none

/-- A written field spells the level that is in its row. -/
theorem Writes.readLevel?_eq {values : List Bool} {row : Nat} {field : String}
    (h : Writes (.levels values) row field) : readLevel? field = values[row]? := by
  cases h with
  | high hlevel => rw [hlevel]; rfl
  | low hlevel => rw [hlevel]; rfl

/-- Written fields have neither commas nor newlines. -/
theorem Writes.isCell {column : Column} {row : Nat} {field : String}
    (h : column.Writes row field) : IsCell field := by
  cases h with
  | time _ hfield => exact hfield
  | high _ => simp [IsCell, Text.IsPlain]
  | low _ => simp [IsCell, Text.IsPlain]

end Column

namespace SampleTable

variable {t : SampleTable} {name : String} {row : Nat}

/-- **The levels under a name**, if there is a column of levels of this name. -/
def levels? (t : SampleTable) (name : String) : Option (List Bool) :=
  (t.columns.lookup name).bind Column.levels?

/-- **The level under a name** in one row. -/
def row? (t : SampleTable) (row : Nat) (name : String) : Option Bool :=
  (t.levels? name).bind (·[row]?)

end SampleTable

/-- **The level under a name** in a line of fields. -/
def Text.row? (names fields : List String) (name : String) : Option Bool :=
  ((names.zip fields).lookup name).bind Column.readLevel?

/-! ## Samples from rows -/

namespace Model

variable {m : Model} {channels : ChannelSet} {sample : UInt64} {row : String → Option Bool}

/-- The name of a channel has its number, counted from one. -/
theorem channelName_eq (m : Model) {channel : Nat} (h : channel < ChannelSet.capacity) :
    m.channelName channel = "CH" ++ (channel + 1).repr := by
  have hlt : channel < 64 := h
  have hnumber : (UInt64.ofNat channel + 1).toNat = channel + 1 := by
    rw [UInt64.toNat_add, UInt64.toNat_ofNat']
    simp only [UInt64.toNat_one]
    omega
  simp [channelName, hnumber, toString]

/-- **Channels are told apart by their names**, -/
theorem channelName_inj (m : Model) {a b : Nat} (ha : a < ChannelSet.capacity)
    (hb : b < ChannelSet.capacity) (h : m.channelName a = m.channelName b) : a = b := by
  rw [channelName_eq m ha, channelName_eq m hb, String.append_right_inj, Nat.repr_inj] at h
  exact Nat.succ.inj h

/-- and from times. -/
theorem channelName_ne_timeName (m : Model) {channel : Nat} (h : channel < ChannelSet.capacity) :
    m.channelName channel ≠ Column.timeName := by
  intro heq
  rw [channelName_eq m h] at heq
  have hfirst := congrArg (fun text : String => text.toList.head?) heq
  simp [Column.timeName] at hfirst

theorem isBare_channelName (m : Model) (channel : Nat) : IsBare (m.channelName channel) := by
  have hletters : IsBare "CH" := ⟨by decide, by simp [IsCell, Text.IsPlain], by simp⟩
  have hname : m.channelName channel = "CH" ++ (UInt64.ofNat channel + 1).toNat.repr := by
    simp [channelName, toString]
  exact hname ▸ hletters.append (Text.isBare_repr _)

/-- **The sample that levels are put together to**: the channels under whose names the level is
high. -/
def recombine (m : Model) (row : String → Option Bool) : UInt64 :=
  (ChannelSet.ofList ((List.range ChannelSet.capacity).filter fun channel =>
    row (m.channelName channel) = some true)).bits

/-- **A row that spells a sample**: under the names of the recorded channels it has their levels,
and none under those of other channels. -/
def Spells (m : Model) (channels : ChannelSet) (sample : UInt64) (row : String → Option Bool) :
    Prop :=
  ∀ channel < ChannelSet.capacity, row (m.channelName channel) =
    if channels.contains channel then some (levelOf sample channel) else none

/-- **A sample is put together again**, as far as its channels were recorded. -/
theorem recombine_of_spells (h : m.Spells channels sample row) :
    m.recombine row = sample &&& channels.bits := by
  refine congrArg ChannelSet.bits
    (ChannelSet.ext_contains fun i => ?_ : _ = (ChannelSet.mk sample).inter channels)
  rw [ChannelSet.contains_ofList, ChannelSet.contains_inter]
  simp only [List.mem_filter, List.mem_range]
  by_cases hi : i < ChannelSet.capacity
  · rw [h i hi, levelOf]
    cases channels.contains i <;> simp [hi]
  · simp [hi, ChannelSet.contains]

end Model

/-- **The samples of a table**, put together row by row. -/
def SampleTable.samples (m : Model) (t : SampleTable) : List UInt64 :=
  (List.range t.height).map fun row => m.recombine (t.row? row)

/-- **The samples of a written table**, put together line by line.  The first line has the names,
and the text behind the last newline is no line. -/
def Text.samples (m : Model) (text : String) : List UInt64 :=
  match cells text with
  | [] => []
  | names :: lines => lines.dropLast.map fun fields => m.recombine (row? names fields)

/-! ## The text of a table -/

namespace SampleTable

variable {t : SampleTable} {rows : List (List String)} {fields : List String} {name : String}
  {row : Nat}

/-- **The text of a table, cut**: the names, then the fields of every row. -/
theorem Lists.cells (h : t.Lists rows) (hcolumns : t.columns ≠ [])
    (hnames : ∀ name ∈ t.names, IsBare name) :
    Text.cells (Text.ofLines (t.names :: rows)) = t.names :: rows ++ [[""]] := by
  apply Text.cells_ofLines
  · intro hmem
    rcases List.mem_cons.mp hmem with hmem | hmem
    · exact hcolumns (List.map_eq_nil_iff.mp hmem.symm)
    · obtain ⟨row, hrow⟩ := List.mem_iff_getElem?.mp hmem
      exact hcolumns (List.forall₂_nil_right_iff.mp (h.fields row [] hrow))
  · intro fields hmem field hfield
    rcases List.mem_cons.mp hmem with rfl | hmem
    · exact (hnames field hfield).isCell
    · obtain ⟨row, hrow⟩ := List.mem_iff_getElem?.mp hmem
      have hwrites := h.fields row fields hrow
      obtain ⟨place, hplace, rfl⟩ := List.mem_iff_getElem.mp hfield
      exact (hwrites.get (hwrites.length_eq ▸ hplace) hplace).isCell

/-- **A line of the text says what the row of the table does**, of columns that are not times. -/
theorem Lists.row?_eq (h : t.Lists rows) (hfields : rows[row]? = some fields)
    (htimes : ∀ values, t.columns.lookup name ≠ some (.times values)) :
    Text.row? t.names fields name = t.row? row name := by
  have hrel := rel_lookup_zip (R := fun column : Column => column.Writes row)
    (h.fields row fields hfields) name
  rw [Text.row?, row?, levels?, names]
  generalize ((t.columns.map Prod.fst).zip fields).lookup name = field? at hrel
  generalize t.columns.lookup name = column? at hrel htimes
  cases hrel with
  | none => rfl
  | @some column field hwrites =>
    cases column with
    | times values => exact absurd rfl (htimes values)
    | levels values => exact hwrites.readLevel?_eq

end SampleTable

variable {model : Model} {channels : ChannelSet} {samples : List UInt64}

/-! ## The table of some samples -/

/-- **Tables of some samples**, of which these channels were recorded, and their texts. -/
structure SampleTable.Tells (t : SampleTable) (text : String) (model : Model)
    (channels : ChannelSet) (samples : List UInt64) : Prop where
  /-- The times come first, then the recorded channels in ascending order. -/
  names : ∃ listed : List Nat, listed.Pairwise (· < ·) ∧
    (∀ channel, channel ∈ listed ↔ channels.contains channel = true) ∧
    t.names = Column.timeName :: listed.map model.channelName
  width : t.columns.length = 1 + channels.size
  height : t.height = samples.length
  full : ∀ column ∈ t.columns, column.2.height = samples.length
  /-- Every row has the levels of its sample, -/
  rows : ∀ (row : Nat) sample, samples[row]? = some sample → model.Spells channels sample (t.row? row)
  /-- so that the samples are put together again. -/
  recombined : t.samples model = samples.map (· &&& channels.bits)
  /-- The text has the names in its first line and then a line for each sample, with the levels of
  the sample. -/
  lines : ∃ lines, Text.cells text = t.names :: lines ++ [[""]] ∧
    lines.length = samples.length ∧ (∀ fields ∈ lines, fields.length = 1 + channels.size) ∧
    ∀ (row : Nat) sample fields, samples[row]? = some sample → lines[row]? = some fields →
      model.Spells channels sample (Text.row? t.names fields)
  /-- They are put together from the text, too. -/
  reread : Text.samples model text = samples.map (· &&& channels.bits)

/-- Samples are put together from rows, if every row spells its own. -/
theorem Model.map_recombine {ρ : Type} {rows : List ρ} {view : ρ → String → Option Bool}
    (hlength : rows.length = samples.length)
    (hview : ∀ (row : Nat) sample entry, samples[row]? = some sample → rows[row]? = some entry →
      model.Spells channels sample (view entry)) :
    (rows.map fun entry => model.recombine (view entry)) = samples.map (· &&& channels.bits) := by
  apply List.ext_getElem
  · simp [hlength]
  · intro row hrow hsample
    rw [List.length_map] at hrow hsample
    rw [List.getElem_map, List.getElem_map]
    exact recombine_of_spells
      (hview row _ _ (List.getElem?_eq_getElem hsample) (List.getElem?_eq_getElem hrow))

namespace Recording

variable {header : StreamHeader} {channel row : Nat}

/-- **The table of some samples.** -/
def sheet (header : StreamHeader) (samples : List UInt64) : SampleTable :=
  ⟨samples.length, columns header samples⟩

theorem columns_ne_nil (header : StreamHeader) (samples : List UInt64) :
    columns header samples ≠ [] := List.cons_ne_nil _ _

theorem names_sheet (header : StreamHeader) (samples : List UInt64) :
    (sheet header samples).names =
      Column.timeName :: header.channels.toList.map header.model.channelName := by
  rw [SampleTable.names, sheet, columns, List.map_cons, List.map_map]
  rfl

/-- The names of the columns differ, -/
theorem nodup_names (header : StreamHeader) (samples : List UInt64) :
    (sheet header samples).names.Nodup := by
  have lt_of_mem {channel : Nat} (hmem : channel ∈ header.channels.toList) :
      channel < ChannelSet.capacity := ChannelSet.lt_of_contains (ChannelSet.mem_toList.mp hmem)
  rw [names_sheet, List.nodup_cons]
  constructor
  · intro hmem
    obtain ⟨channel, hchannel, heq⟩ := List.mem_map.mp hmem
    exact header.model.channelName_ne_timeName (lt_of_mem hchannel) heq
  · exact header.channels.nodup_toList.map_on fun a ha b hb heq =>
      header.model.channelName_inj (lt_of_mem ha) (lt_of_mem hb) heq

/-- and need no quotes. -/
theorem isBare_of_mem_names (header : StreamHeader) (samples : List UInt64) :
    ∀ name ∈ (sheet header samples).names, IsBare name := by
  intro name hname
  rw [names_sheet] at hname
  rcases List.mem_cons.mp hname with rfl | hname
  · exact ⟨by decide, by simp [Column.timeName, IsCell, Text.IsPlain], by simp [Column.timeName]⟩
  · obtain ⟨channel, -, rfl⟩ := List.mem_map.mp hname
    exact header.model.isBare_channelName channel

/-- The columns are of equal height. -/
theorem height_of_mem_columns (header : StreamHeader) (samples : List UInt64) :
    ∀ column ∈ columns header samples, column.2.height = samples.length := by
  intro column hcolumn
  rcases List.mem_cons.mp hcolumn with rfl | hcolumn
  · simp [Column.height, times]
  · obtain ⟨channel, -, rfl⟩ := List.mem_map.mp hcolumn
    exact List.length_map _

/-- **The column of a channel** has its levels, if it is recorded. -/
theorem lookup_sheet (header : StreamHeader) (samples : List UInt64)
    (hchannel : channel < ChannelSet.capacity) :
    (sheet header samples).columns.lookup (header.model.channelName channel) =
      if header.channels.contains channel then some (.levels (samples.map (levelOf · channel)))
      else none := by
  have htime := beq_eq_false_iff_ne.mpr (header.model.channelName_ne_timeName hchannel)
  rw [sheet, columns, List.lookup_cons, htime]
  refine (lookup_map_key (fun b hb heq => ?_) _).trans
    (if_congr ChannelSet.mem_toList rfl rfl)
  have hlt := ChannelSet.lt_of_contains (ChannelSet.mem_toList.mp hb)
  exact header.model.channelName_inj hlt hchannel heq

theorem levels?_sheet (header : StreamHeader) (samples : List UInt64)
    (hchannel : channel < ChannelSet.capacity) :
    (sheet header samples).levels? (header.model.channelName channel) =
      if header.channels.contains channel then some (samples.map (levelOf · channel))
      else none := by
  rw [SampleTable.levels?, lookup_sheet header samples hchannel]
  split <;> rfl

/-- A row of the table has the levels of its sample, -/
theorem spells_row {sample : UInt64} (hsample : samples[row]? = some sample) :
    header.model.Spells header.channels sample ((sheet header samples).row? row) := by
  intro channel hchannel
  rw [SampleTable.row?, levels?_sheet header samples hchannel]
  split
  · simp [hsample]
  · rfl

/-- and so has the line of the text. -/
theorem spells_line {rows : List (List String)} {fields : List String} {sample : UInt64}
    (hrows : (sheet header samples).Lists rows) (hsample : samples[row]? = some sample)
    (hfields : rows[row]? = some fields) :
    header.model.Spells header.channels sample
      (Text.row? (sheet header samples).names fields) := by
  intro channel hchannel
  rw [hrows.row?_eq hfields]
  · exact spells_row hsample channel hchannel
  · intro values hvalues
    rw [lookup_sheet header samples hchannel] at hvalues
    split at hvalues <;> cases hvalues

theorem length_columns (header : StreamHeader) (samples : List UInt64) :
    (columns header samples).length = 1 + header.channels.size := by
  rw [columns, List.length_cons, List.length_map, ChannelSet.length_toList, Nat.add_comm]

/-- **The table of some samples** tells of them, and so does its text. -/
theorem tells_sheet {rows : List (List String)} (hrows : (sheet header samples).Lists rows) :
    (sheet header samples).Tells (Text.ofLines ((sheet header samples).names :: rows))
      header.model header.channels samples where
  names := ⟨_, ChannelSet.pairwise_toList _, fun _ => ChannelSet.mem_toList,
    names_sheet header samples⟩
  width := length_columns header samples
  height := rfl
  full := height_of_mem_columns header samples
  rows := fun _ _ => spells_row
  recombined := by
    refine Model.map_recombine (List.length_range) fun row sample entry hsample hentry => ?_
    obtain ⟨hlt, hget⟩ := List.getElem?_eq_some_iff.mp hentry
    rw [List.getElem_range] at hget
    exact hget ▸ spells_row hsample
  lines := by
    refine ⟨rows, hrows.cells (columns_ne_nil _ _) (isBare_of_mem_names _ _), hrows.height, ?_,
      fun row sample fields hsample hfields => spells_line hrows hsample hfields⟩
    intro fields hmem
    obtain ⟨row, hrow⟩ := List.mem_iff_getElem?.mp hmem
    exact (hrows.fields row fields hrow).length_eq.symm.trans (length_columns header samples)
  reread := by
    rw [Text.samples, hrows.cells (columns_ne_nil _ _) (isBare_of_mem_names _ _)]
    dsimp only [List.cons_append]
    rw [List.dropLast_concat]
    exact Model.map_recombine hrows.height fun row sample fields => spells_line hrows

/-! ## Exports -/

variable {ε : Type} {library : TableLibrary ε} {r : Recording}

/-- **What a recording is exported as**: a table, and a text that is refused by nothing but the
files. -/
structure Exports (library : TableLibrary ε) (r : Recording) (t : SampleTable) (text : String) :
    Prop where
  table : r.table library = .ok t
  save : ∀ (files : Files ε) (path : String), r.save library files path = do
    files.create path
    files.write path text
    return text

/-- The file is made and written, one after the other. -/
theorem Exports.save_eq {t : SampleTable} {text : String} (h : r.Exports library t text)
    (files : Files ε) (path : String) :
    r.save library files path =
      ((files.create path >>= fun _ => files.write path text) >>= fun _ => .ok text) := by
  rw [h.save]
  cases files.create path <;> rfl

/-- The table is that of the samples. -/
theorem table_eq_ok (hlibrary : library.Lawful) (hheader : r.header = some header) :
    r.table library = .ok (sheet header r.samples) := by
  rw [table, hheader]
  exact hlibrary.assemble _ _ (columns_ne_nil _ _) (nodup_names _ _) (height_of_mem_columns _ _)

/-- The column of a recorded channel is found in it. -/
theorem column_eq_ok (hlibrary : library.Lawful)
    (hchannel : header.channels.contains channel = true) :
    library.column (sheet header samples) (header.model.channelName channel) =
      .ok (.levels (samples.map (levelOf · channel))) := by
  refine hlibrary.column _ _ _ (nodup_names header samples) (List.mem_cons_of_mem _ ?_)
  exact List.mem_map.mpr ⟨channel, ChannelSet.mem_toList.mpr hchannel, rfl⟩

/-- **A recording with a header is exported**, and the export tells of its samples. -/
theorem exists_exports (hlibrary : library.Lawful) (hheader : r.header = some header) :
    ∃ text, r.Exports library (sheet header r.samples) text ∧
      (sheet header r.samples).Tells text header.model header.channels r.samples := by
  have htable := table_eq_ok hlibrary hheader
  obtain ⟨rows, htext, hrows⟩ := hlibrary.text (sheet header r.samples) (columns_ne_nil _ _)
    (height_of_mem_columns _ _) (isBare_of_mem_names _ _)
  refine ⟨_, ⟨htable, fun files path => ?_⟩, tells_sheet hrows⟩
  rw [save, htable]
  change (files.create path >>= fun _ => library.text (sheet header r.samples) >>= _) = _
  rw [htext]
  rfl

end Recording

end LogicAnalyzer
