import Formwork.Names
import Mathlib.Data.List.Induction
import Mathlib.Data.List.Nodup

/-! # Laws of lists of names

Names that are taken once each stand in the order in which they first occur. Names that are
sorted tell no more than which names they are and how often each of them occurs.
-/

namespace Formwork.Names

/-! ## Each name once -/

theorem distinct_concat (names : List String) (name : String) :
    distinct (names ++ [name]) =
      if name ∈ names then distinct names else distinct names ++ [name] := by
  have last : distinct (names ++ [name]) =
      if (distinct names).contains name then distinct names else distinct names ++ [name] := by
    rw [distinct, List.foldl_append]
    rfl
  simp only [last, List.contains_iff_mem, mem_distinct]

theorem pairwise_idxOf_distinct (names : List String) :
    (distinct names).Pairwise fun first second => names.idxOf first < names.idxOf second := by
  induction names using List.reverseRecOn with
  | nil => exact .nil
  | append_singleton names name ih =>
      have still {other : String} (member : other ∈ distinct names) :
          (names ++ [name]).idxOf other = names.idxOf other :=
        List.idxOf_append_of_mem (mem_distinct.mp member)
      have earlier : (distinct names).Pairwise fun first second =>
          (names ++ [name]).idxOf first < (names ++ [name]).idxOf second := by
        refine ih.imp_of_mem fun inFirst inSecond before => ?_
        rwa [still inFirst, still inSecond]
      rw [distinct_concat]
      split
      next => exact earlier
      next fresh =>
        refine List.pairwise_append.mpr ⟨earlier, List.pairwise_singleton _ _, ?_⟩
        intro first member second single
        rw [List.mem_singleton.mp single, still member, List.idxOf_append, if_neg fresh]
        have within := List.idxOf_lt_length_iff.mpr (mem_distinct.mp member)
        omega

theorem nodup_distinct (names : List String) : (distinct names).Nodup := by
  refine (pairwise_idxOf_distinct names).imp fun before same => ?_
  rw [same] at before
  exact Nat.lt_irrefl _ before

/-! ## Names in order -/

theorem perm_sorted (names : List String) : (sorted names).Perm names :=
  List.mergeSort_perm _ _

theorem pairwise_sorted (names : List String) : (sorted names).Pairwise (· ≤ ·) := by
  apply (@List.pairwise_mergeSort String (fun a b => decide (a ≤ b)) ?_ ?_ names).imp
  · simp
  · simpa using fun a b c => String.le_trans
  · simpa using String.le_total

theorem pairwise_lt_sorted {names : List String} (distinct : names.Nodup) :
    (sorted names).Pairwise (· < ·) := by
  have apart : (sorted names).Nodup := (perm_sorted names).nodup_iff.mpr distinct
  refine ((pairwise_sorted names).and apart).imp ?_
  rintro first second ⟨before, differ⟩
  by_contra notBefore
  exact differ (String.le_antisymm before (String.not_lt.mp notBefore))

theorem sorted_eq_of_perm {names others : List String} (perm : names.Perm others) :
    sorted names = sorted others := by
  apply List.Perm.eq_of_pairwise (fun _ _ _ _ => String.le_antisymm) (pairwise_sorted names)
    (pairwise_sorted others)
  exact (perm_sorted names).trans (perm.trans (perm_sorted others).symm)

end Formwork.Names
