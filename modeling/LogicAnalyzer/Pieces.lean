/-!
# Pieces of a list

Long lists travel in pieces of bounded length.

## Main definitions

* `pieces size entries`: the list cut into pieces

## Main results

* `flatten_pieces`: the pieces make up the list
* `length_le_of_mem_pieces`: no piece is longer than asked for
-/

namespace LogicAnalyzer

variable {α : Type}

/-- The list cut into pieces of `size` entries, the last of which may be shorter.  A size of
zero cuts as a size of one does. -/
def pieces (size : Nat) (entries : List α) : List (List α) :=
  match entries with
  | [] => []
  | first :: rest => (first :: rest.take (size - 1)) :: pieces size (rest.drop (size - 1))
termination_by entries.length
decreasing_by simp only [List.length_drop, List.length_cons]; omega

@[simp]
theorem pieces_nil (size : Nat) : pieces size ([] : List α) = [] := by
  rw [pieces]

theorem pieces_cons (size : Nat) (first : α) (rest : List α) :
    pieces size (first :: rest) =
      (first :: rest.take (size - 1)) :: pieces size (rest.drop (size - 1)) := by
  rw [pieces]

/-- **The pieces make up the list.** -/
theorem flatten_pieces (size : Nat) (entries : List α) :
    (pieces size entries).flatten = entries := by
  fun_induction pieces size entries with
  | case1 => rfl
  | case2 first rest ih => simp [ih]

theorem length_le_of_mem_pieces {size : Nat} {entries piece : List α}
    (h : piece ∈ pieces size entries) : piece.length ≤ max size 1 := by
  fun_induction pieces size entries with
  | case1 => cases h
  | case2 first rest ih =>
    rcases List.mem_cons.mp h with rfl | h
    · simp only [List.length_cons, List.length_take]; omega
    · exact ih h

end LogicAnalyzer
