import LogicAnalyzer.Capture.PlainTable
import LogicAnalyzer.Proofs.Capture.Tables

/-!
# The plain library

The library that does no more than is needed is one that can be relied on.  It writes times as
numbers, and a number has its digits, a point, and little else, so that it stands between commas.

## Main results

* `DecimalLayout.isCell_renderDouble`: the text of a number is a cell
* `TableLibrary.plain_lawful`: the library can be relied on
-/

namespace LogicAnalyzer

open Text (IsPlain IsCell isPlain_of_isDigit isBare_repr)

/-! ## Numbers -/

namespace DecimalLayout

/-- A number has its digits, perhaps with a sign. -/
theorem isCell_toString_int (n : Int) : IsCell (toString n) := by
  cases n with
  | ofNat n => exact (isBare_repr n).isCell
  | negSucc n => exact IsCell.append (by simp [IsCell, IsPlain]) (isBare_repr (n + 1)).isCell

variable {digits : List Char} {point : Int}

/-- A number with its point in place has its digits, zeros and the point. -/
theorem isPlain_of_mem_positional (hdigits : ∀ char ∈ digits, IsPlain char) :
    ∀ char ∈ positional digits point, IsPlain char := by
  intro char hchar
  have hzero : IsPlain '0' := by decide
  have hpoint : IsPlain '.' := by decide
  unfold positional at hchar
  split at hchar
  · simp only [List.mem_append, List.mem_cons, List.mem_replicate, List.not_mem_nil] at hchar
    grind
  · split at hchar
    · simp only [List.mem_append, List.mem_cons, List.mem_replicate, List.not_mem_nil] at hchar
      grind
    · simp only [List.mem_append, List.mem_cons, List.not_mem_nil] at hchar
      rcases hchar with (hchar | hchar | hchar) | hchar
      · exact hdigits char (List.mem_of_mem_take hchar)
      · exact hchar ▸ hpoint
      · cases hchar
      · exact hdigits char (List.mem_of_mem_drop hchar)

/-- A number with an exponent has its digits, the point, the mark and the exponent's digits. -/
theorem isPlain_of_mem_scientific {layout : DecimalLayout} (hmark : IsPlain layout.mark)
    (hdigits : ∀ char ∈ digits, IsPlain char) :
    ∀ char ∈ layout.scientific digits point, IsPlain char := by
  have hpoint : IsPlain '.' := by decide
  have hexponent := isCell_toString_int (point - 1)
  intro char hchar
  unfold scientific at hchar
  split at hchar
  · cases hchar
  · simp only [List.mem_cons] at hchar
    rcases hchar with rfl | rfl | hchar
    · exact hdigits _ List.mem_cons_self
    · exact hmark
    · exact hexponent char hchar
  · rename_i first rest _
    simp only [List.cons_append, List.mem_cons, List.mem_append] at hchar
    rcases hchar with rfl | rfl | hchar | rfl | hchar
    · exact hdigits _ List.mem_cons_self
    · exact hpoint
    · exact hdigits char (List.mem_cons_of_mem _ hchar)
    · exact hmark
    · exact hexponent char hchar

theorem isCell_render {layout : DecimalLayout} (hmark : IsPlain layout.mark) (d : Decimal) :
    IsCell (layout.render d) := by
  have hdigits : ∀ char ∈ Nat.toDigits 10 d.digits, IsPlain char := fun char hchar =>
    isPlain_of_isDigit (Nat.isDigit_of_mem_toDigits (by decide) (by decide) hchar)
  unfold render IsCell
  rw [String.toList_ofList]
  split
  · exact isPlain_of_mem_positional hdigits
  · exact isPlain_of_mem_scientific hmark hdigits

/-- **The text of a number is a cell**, whatever the number is. -/
theorem isCell_renderDouble {layout : DecimalLayout} (hmark : IsPlain layout.mark)
    (value : Float) : IsCell (layout.renderDouble value) := by
  have hsign : IsCell (if value.toBits.toNat / Nat.pow 2 63 = 1 then "-" else "") := by
    split <;> simp [IsCell, IsPlain]
  unfold renderDouble
  split
  · simp [IsCell, IsPlain]
  · dsimp only
    split
    · exact hsign.append (by simp [IsCell, IsPlain])
    · split
      · exact hsign.append (by simp [IsCell, IsPlain])
      · exact hsign.append (isCell_render hmark _)

end DecimalLayout

/-! ## Rows -/

/-- A field of a column is written as it should be. -/
theorem Column.writes_getD_fields {column : Column} {row : Nat} (hrow : row < column.height) :
    column.Writes row (column.fields.getD row "") := by
  cases column with
  | times values =>
    have hlt : row < values.length := hrow
    have hfield : (fields (.times values)).getD row "" = timeLayout.renderDouble values[row] := by
      simp [fields, hlt]
    rw [hfield]
    exact .time hlt (DecimalLayout.isCell_renderDouble (by decide) _)
  | levels values =>
    have hlt : row < values.length := hrow
    have hfield : (fields (.levels values)).getD row "" = levelText values[row] := by
      simp [fields, hlt]
    have hlevel : values[row]? = some values[row] := List.getElem?_eq_getElem hlt
    rw [hfield]
    generalize values[row] = level at hlevel
    cases level with
    | true => exact .high hlevel
    | false => exact .low hlevel

namespace SampleTable

/-- The rows are the entries at one place after another. -/
theorem rows_eq (height : Nat) (columns : List (List String)) :
    rows height columns =
      (List.range height).map fun row => columns.map fun column => column.getD row "" := by
  induction height generalizing columns with
  | zero => rfl
  | succ height ih =>
    rw [rows, ih, List.range_succ_eq_map, List.map_cons, List.map_map]
    congr 1
    · refine List.map_congr_left fun column _ => ?_
      cases column <;> rfl
    · refine List.map_congr_left fun row _ => ?_
      rw [List.map_map]
      refine List.map_congr_left fun column _ => ?_
      cases column <;> rfl

/-- **The rows list the table**, if its columns are of its height. -/
theorem lists_rows {t : SampleTable} (hheight : ∀ column ∈ t.columns, column.2.height = t.height) :
    t.Lists (rows t.height (t.columns.map fun column => column.2.fields)) where
  height := by simp [rows_eq]
  fields := by
    intro row fields hfields
    rw [rows_eq, List.getElem?_map, Option.map_eq_some_iff] at hfields
    obtain ⟨index, hindex, rfl⟩ := hfields
    obtain ⟨hlt, hget⟩ := List.getElem?_eq_some_iff.mp hindex
    rw [List.getElem_range] at hget
    rw [List.length_range] at hlt
    subst hget
    rw [List.map_map, List.forall₂_map_right_iff, List.forall₂_same]
    intro column hcolumn
    exact Column.writes_getD_fields (hheight column hcolumn ▸ hlt)

/-! ## Assembling -/

theorem ofColumns_eq_ok {columns : List (String × Column)} {height : Nat} (hne : columns ≠ [])
    (hnames : (columns.map Prod.fst).Nodup) (hheight : ∀ column ∈ columns, column.2.height = height) :
    ofColumns columns = .ok ⟨height, columns⟩ := by
  rcases columns with _ | ⟨first, rest⟩
  · exact absurd rfl hne
  · have hfirst := hheight first List.mem_cons_self
    have hrest : rest.all (fun column => column.2.height = first.2.height) = true := by
      rw [List.all_eq_true]
      intro column hmem
      rw [hheight column (List.mem_cons_of_mem _ hmem), hfirst]
      exact decide_eq_true rfl
    rw [ofColumns, if_neg (not_not_intro hnames)]
    exact hfirst ▸ if_pos hrest

end SampleTable

/-- What is listed under a name is found under it, if the names differ. -/
theorem lookup_of_mem {α : Type} {entries : List (String × α)} {name : String} {value : α}
    (hnames : (entries.map Prod.fst).Nodup) (hmem : (name, value) ∈ entries) :
    entries.lookup name = some value := by
  induction entries with
  | nil => cases hmem
  | cons entry rest ih =>
    obtain ⟨hfirst, hrest⟩ := List.nodup_cons.mp hnames
    rw [List.lookup_cons]
    rcases List.mem_cons.mp hmem with rfl | hmem
    · simp
    · have hne : name ≠ entry.1 := by
        rintro rfl
        exact hfirst (List.mem_map.mpr ⟨_, hmem, rfl⟩)
      rw [beq_eq_false_iff_ne.mpr hne]
      exact ih hrest hmem

/-! ## The library -/

/-- **The plain library can be relied on.** -/
theorem TableLibrary.plain_lawful : TableLibrary.plain.Lawful where
  assemble := fun _ _ => SampleTable.ofColumns_eq_ok
  column := by
    intro t name column hnames hmem
    simp only [plain, lookup_of_mem hnames hmem]
  levels := fun _ => rfl
  text := fun _ _ hheight _ => ⟨_, rfl, SampleTable.lists_rows hheight⟩

end LogicAnalyzer
