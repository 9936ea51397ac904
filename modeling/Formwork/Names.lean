/-! # Lists of names

Names without repetitions, and in order of their code points.
-/

namespace Formwork.Names

/-- Each name once, where it first occurs. -/
def distinct (names : List String) : List String :=
  names.foldl (fun found name => if found.contains name then found else found ++ [name]) []

/-- Names in the order of their code points. -/
def sorted (names : List String) : List String :=
  names.mergeSort fun a b => decide (a ≤ b)

private theorem mem_foldl_distinct (names found : List String) (name : String) :
    name ∈ names.foldl (fun found name =>
      if found.contains name then found else found ++ [name]) found ↔
      name ∈ found ∨ name ∈ names := by
  induction names generalizing found with
  | nil => simp
  | cons first rest ih =>
      rw [List.foldl_cons, ih]
      by_cases known : first ∈ found
      · simp only [List.contains_iff_mem.mpr known, if_true, List.mem_cons]
        grind
      · have new : found.contains first = false := by simpa using known
        simp only [new, Bool.false_eq_true, if_false, List.mem_append, List.mem_cons,
          List.not_mem_nil, or_false]
        grind

theorem mem_distinct {names : List String} {name : String} :
    name ∈ distinct names ↔ name ∈ names := by
  rw [distinct, mem_foldl_distinct]
  simp

end Formwork.Names
