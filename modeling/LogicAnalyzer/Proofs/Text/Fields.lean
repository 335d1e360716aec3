import LogicAnalyzer.Capture.Table

/-!
# Lines and fields

A table is written as lines of fields, with a comma between two fields and a newline behind every
line.  The lines and the fields are found again if no field has a comma or a newline in it.

## Main definitions

* `Text.IsCell`: texts that can stand between commas
* `Text.IsBare`: texts that need no quotes there
* `Text.cells`: the lines of a text, cut at commas

## Main results

* `Text.cells_ofLines`: the fields that were written are read
* `Text.isBare_repr`: a count needs no quotes
-/

namespace LogicAnalyzer

namespace Text

/-- A mark that stands neither between fields nor behind lines. -/
def IsPlain (char : Char) : Prop := char ≠ ',' ∧ char ≠ '\n'

instance (char : Char) : Decidable (IsPlain char) := inferInstanceAs (Decidable (_ ∧ _))

/-- **A text that can stand between commas**, on a line of its own or with others. -/
def IsCell (text : String) : Prop := ∀ char ∈ text.toList, IsPlain char

/-- **A text that needs no quotes** to stand between commas. -/
structure IsBare (text : String) : Prop where
  ne_empty : text ≠ ""
  isCell : IsCell text
  unquoted : ∀ char ∈ text.toList, char ≠ '\x22' ∧ char ≠ '\r'

/-- **The lines of a text, cut at commas.**  A text that ends with a newline has another line behind
it, which is empty. -/
def cells (text : String) : List (List String) :=
  (text.toList.splitOn '\n').map fun line => (line.splitOn ',').map String.ofList

/-! ## What is written is read -/

/-- Lines with a mark behind each are lines with marks in between, the last of which is empty. -/
theorem flatMap_snoc_eq_intercalate {α : Type} (mark : α) (lines : List (List α)) :
    lines.flatMap (· ++ [mark]) = [mark].intercalate (lines ++ [[]]) := by
  induction lines with
  | nil => rfl
  | cons line rest ih =>
    rw [List.flatMap_cons, ih, List.cons_append,
      List.intercalate_cons_of_ne_nil (by simp : rest ++ [[]] ≠ [])]

theorem toList_line (fields : List String) :
    (line fields).toList = [','].intercalate (fields.map String.toList) ++ ['\n'] := by
  simp [line]

/-- The characters of a line, its newline apart, are those of its fields and commas. -/
theorem mem_intercalate {fields : List (List Char)} {char : Char}
    (h : char ∈ [','].intercalate fields) : char = ',' ∨ ∃ field ∈ fields, char ∈ field := by
  induction fields with
  | nil => simp at h
  | cons field rest ih =>
    cases rest with
    | nil =>
      rw [List.intercalate_singleton] at h
      exact .inr ⟨field, List.mem_cons_self, h⟩
    | cons next rest =>
      rw [List.intercalate_cons_cons, List.append_assoc, List.mem_append, List.mem_append] at h
      rcases h with h | h | h
      · exact .inr ⟨field, List.mem_cons_self, h⟩
      · exact .inl (List.mem_singleton.mp h)
      · rcases ih h with h | ⟨other, hmem, h⟩
        · exact .inl h
        · exact .inr ⟨other, List.mem_cons_of_mem _ hmem, h⟩

/-- A line that was joined from fields is cut into them. -/
theorem splitOn_fields {fields : List String} (hne : fields ≠ [])
    (hfields : ∀ field ∈ fields, IsCell field) :
    (([','].intercalate (fields.map String.toList)).splitOn ',').map String.ofList = fields := by
  have hcut : ([','].intercalate (fields.map String.toList)).splitOn ',' =
      fields.map String.toList := by
    refine List.splitOn_intercalate ',' ?_ (by simpa using hne)
    intro field hmem hcomma
    obtain ⟨text, htext, rfl⟩ := List.mem_map.mp hmem
    exact (hfields text htext ',' hcomma).1 rfl
  rw [hcut, List.map_map]
  exact (List.map_congr_left fun text _ => String.ofList_toList).trans (List.map_id' fields)

/-- **The fields that were written are read.** -/
theorem cells_ofLines {lines : List (List String)} (hne : [] ∉ lines)
    (hfields : ∀ fields ∈ lines, ∀ field ∈ fields, IsCell field) :
    cells (ofLines lines) = lines ++ [[""]] := by
  let body := lines.map fun fields => [','].intercalate (fields.map String.toList)
  have htext : (ofLines lines).toList = ['\n'].intercalate (body ++ [[]]) := by
    rw [ofLines, ← flatMap_snoc_eq_intercalate, String.toList_join, List.flatMap_map, List.flatMap_map]
    simp only [toList_line]
  have hcut : (['\n'].intercalate (body ++ [[]])).splitOn '\n' = body ++ [[]] := by
    refine List.splitOn_intercalate '\n' ?_ (by simp)
    intro line hline hmark
    rcases List.mem_append.mp hline with hline | hline
    · obtain ⟨fields, hmem, rfl⟩ := List.mem_map.mp hline
      rcases mem_intercalate hmark with hcomma | ⟨field, hfield, hmark⟩
      · exact absurd hcomma (by decide)
      · obtain ⟨text, htext, rfl⟩ := List.mem_map.mp hfield
        exact (hfields fields hmem text htext '\n' hmark).2 rfl
    · rw [List.mem_singleton.mp hline] at hmark
      cases hmark
  rw [cells, htext, hcut, List.map_append, List.map_map]
  congr 1
  refine (List.map_congr_left fun fields hmem => ?_).trans (List.map_id' lines)
  exact splitOn_fields (fun h => hne (h ▸ hmem)) (hfields fields hmem)

/-! ## Counts -/

theorem IsCell.append {front back : String} (hfront : IsCell front) (hback : IsCell back) :
    IsCell (front ++ back) := by
  intro char hchar
  rw [String.toList_append, List.mem_append] at hchar
  exact hchar.elim (hfront char) (hback char)

theorem IsBare.append {front back : String} (hfront : IsBare front) (hback : IsBare back) :
    IsBare (front ++ back) where
  ne_empty := by simp [hfront.ne_empty]
  isCell := hfront.isCell.append hback.isCell
  unquoted := by
    intro char hchar
    rw [String.toList_append, List.mem_append] at hchar
    exact hchar.elim (hfront.unquoted char) (hback.unquoted char)

/-- A count is written in digits, -/
theorem isDigit_of_mem_repr {n : Nat} {char : Char} (h : char ∈ n.repr.toList) :
    char.isDigit = true := by
  rw [Nat.toList_repr] at h
  exact Nat.isDigit_of_mem_toDigits (by decide) (by decide) h

/-- and digits are plain, -/
theorem isPlain_of_isDigit {char : Char} (h : char.isDigit = true) : IsPlain char := by
  constructor <;> rintro rfl <;> exact absurd h (by decide)

/-- so a count needs no quotes. -/
theorem isBare_repr (n : Nat) : IsBare n.repr where
  ne_empty := by simp [Nat.repr_ne_empty]
  isCell := fun _ hchar => isPlain_of_isDigit (isDigit_of_mem_repr hchar)
  unquoted := by
    intro char hchar
    have hdigit := isDigit_of_mem_repr hchar
    constructor <;> rintro rfl <;> exact absurd hdigit (by decide)

end Text

end LogicAnalyzer
