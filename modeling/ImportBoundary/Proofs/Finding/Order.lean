import Mathlib.Data.Prod.Lex
import Mathlib.Data.String.Basic
import ImportBoundary.Finding.Order

/-!
# Findings are in a linear order of their keys

The comparison of two sort keys goes through their parts one after another. It is the lexicographic
order of the parts (`isLE_order_iff`), and so a linear order on what decides a finding's place. That
makes `arrange` a sort: it keeps every finding as often as it was there (`arrange_perm`) and leaves
them in order (`pairwise_arrange`). The sort is stable, and so it does not matter whether some of the
findings are picked before they are arranged or afterwards (`filter_arrange`).
-/

namespace ImportBoundary

/-! ## Texts

The comparison by code points is the one that strings come with, so that strings are in a linear order.
-/

namespace Text

theorem compareChars_eq (s t : List Char) : compareChars s t = compareOfLessAndEq s t := by
  induction s generalizing t with
  | nil => cases t <;> simp [compareChars, compareOfLessAndEq]
  | cons a s ih =>
      cases t with
      | nil => simp [compareChars, compareOfLessAndEq]
      | cons b t =>
          have lt_iff : a < b ↔ a.toNat < b.toNat := Iff.rfl
          have eq_iff : a = b ↔ a.toNat = b.toNat := by rw [← Char.toNat_inj]
          rw [compareChars, ih]
          rcases Nat.lt_trichotomy a.toNat b.toNat with h | h | h
          · simp [compareOfLessAndEq, Nat.compare_eq_lt.mpr h, List.cons_lt_cons_iff, lt_iff, h]
          · simp [compareOfLessAndEq, eq_iff.mpr h]
          · have ne : a ≠ b := fun same => Nat.ne_of_gt h (eq_iff.mp same)
            simp [compareOfLessAndEq, Nat.compare_eq_gt.mpr h, List.cons_lt_cons_iff, lt_iff, ne,
              Nat.not_lt.mpr (Nat.le_of_lt h)]

/-- Texts are compared as strings are. -/
theorem order_eq_compare (a b : String) : order a b = compare a b := by
  rw [order, compareChars_eq, LinearOrder.compare_eq_compareOfLessAndEq]
  simp only [compareOfLessAndEq, String.lt_iff_toList_lt, String.toList_inj]

theorem isLE_order (a b : String) : (order a b).isLE ↔ a ≤ b := by
  rw [order_eq_compare, ← compare_le_iff_le, Ordering.isLE_iff_ne_gt]

end Text

/-! ## Sort keys

A comparison that goes on only where two parts are equal is the comparison of a lexicographic product.
-/

namespace Finding

/-- What decides a finding's place, part by part: how grave it is, path, line, check, code and
message. -/
abbrev Rank := Lex (Nat × Lex (String × Lex (Nat × Lex (String × Lex (String × String)))))

def SortKey.toRank (k : SortKey) : Rank :=
  toLex (k.severity.rank, toLex (k.path, toLex (k.line, toLex (k.check, toLex (k.code, k.message)))))

def rank (f : Finding) : Rank := f.sortKey.toRank

/-- One part is compared before the others. -/
theorem isLE_then_iff {α β : Type} [LinearOrder α] [LE β] {a b : α} {x y : β} {o : Ordering}
    (rest : o.isLE ↔ x ≤ y) :
    ((compare a b).then o).isLE ↔ toLex (a, x) ≤ toLex (b, y) := by
  rw [Prod.Lex.toLex_le_toLex]
  rcases lt_trichotomy a b with h | h | h
  · simp [compare_lt_iff_lt.mpr h, h]
  · simp [h, rest]
  · simp [compare_gt_iff_gt.mpr h, h.not_gt, h.ne']

/-- Sort keys are compared as the lists of their parts are. -/
theorem isLE_order_iff (a b : SortKey) : (a.order b).isLE ↔ a.toRank ≤ b.toRank := by
  have message := Text.isLE_order a.message b.message
  rw [Text.order_eq_compare] at message
  unfold SortKey.order
  simp only [Text.order_eq_compare]
  exact isLE_then_iff <| isLE_then_iff <| isLE_then_iff <| isLE_then_iff <| isLE_then_iff message

theorem mayPrecede_iff (a b : Finding) : a.mayPrecede b ↔ a.rank ≤ b.rank :=
  isLE_order_iff a.sortKey b.sortKey

/-! ## Arranged findings

The sort is `List.mergeSort`, and what is needed of the comparison is that it is transitive and total.
-/

/-- Arranging neither loses nor adds a finding. -/
theorem arrange_perm (findings : List Finding) : (arrange findings).Perm findings :=
  List.mergeSort_perm findings _

@[simp] theorem length_arrange (findings : List Finding) :
    (arrange findings).length = findings.length :=
  (arrange_perm findings).length_eq

@[simp] theorem mem_arrange {f : Finding} {findings : List Finding} :
    f ∈ arrange findings ↔ f ∈ findings :=
  (arrange_perm findings).mem_iff

theorem mayPrecede_trans (a b c : Finding) (hab : a.mayPrecede b) (hbc : b.mayPrecede c) :
    a.mayPrecede c :=
  (mayPrecede_iff a c).mpr (((mayPrecede_iff a b).mp hab).trans ((mayPrecede_iff b c).mp hbc))

theorem mayPrecede_total (a b : Finding) : a.mayPrecede b || b.mayPrecede a := by
  rw [Bool.or_eq_true]
  exact (le_total a.rank b.rank).imp (mayPrecede_iff a b).mpr (mayPrecede_iff b a).mpr

/-- Arranged findings are in order. -/
theorem pairwise_arrange (findings : List Finding) :
    (arrange findings).Pairwise fun a b => a.rank ≤ b.rank := by
  have sorted := List.pairwise_mergeSort mayPrecede_trans mayPrecede_total findings
  exact sorted.imp fun {a b} h => (mayPrecede_iff a b).mp h

/-- A graver finding stands before the others: arranged findings fall in severity. -/
theorem pairwise_severity_arrange (findings : List Finding) :
    (arrange findings).Pairwise fun a b => a.severity.rank ≤ b.severity.rank :=
  (pairwise_arrange findings).imp fun {_ _} h => Prod.Lex.monotone_fst _ _ h

/-! ## Findings of one rank

Two lists in order are equal if they have the same elements of every rank in the same order. To compare
arranged lists it is therefore enough to look at one rank at a time, where the sort changes nothing.
-/

/-- Lists with the same elements of each key have the same elements. -/
theorem mem_iff_of_filter_eq {α β : Type} [DecidableEq β] {key : α → β} {a b : List α}
    (same : ∀ k, a.filter (key · = k) = b.filter (key · = k)) (x : α) : x ∈ a ↔ x ∈ b := by
  have mem_filter : x ∈ a.filter (key · = key x) ↔ x ∈ b.filter (key · = key x) := by rw [same]
  simpa using mem_filter

/-- Lists in order are equal if they have the same elements of each key, in the same order. -/
theorem eq_of_filter_eq {α β : Type} [LinearOrder β] {key : α → β} {a b : List α}
    (ordered_a : a.Pairwise fun x y => key x ≤ key y)
    (ordered_b : b.Pairwise fun x y => key x ≤ key y)
    (same : ∀ k, a.filter (key · = k) = b.filter (key · = k)) : a = b := by
  have mem_iff := mem_iff_of_filter_eq same
  induction a generalizing b with
  | nil =>
      cases b with
      | nil => rfl
      | cons y rest' => cases (mem_iff y).mpr List.mem_cons_self
  | cons x rest ih =>
      cases b with
      | nil => cases (mem_iff x).mp List.mem_cons_self
      | cons y rest' =>
          obtain ⟨least, ordered_rest⟩ := List.pairwise_cons.mp ordered_a
          obtain ⟨least', ordered_rest'⟩ := List.pairwise_cons.mp ordered_b
          -- Each of the two first elements stands in the other list, so their keys are the same.
          have keys : key x = key y := by
            apply le_antisymm
            · rcases List.mem_cons.mp ((mem_iff y).mpr List.mem_cons_self) with rfl | mem
              · exact le_rfl
              · exact least y mem
            · rcases List.mem_cons.mp ((mem_iff x).mp List.mem_cons_self) with rfl | mem
              · exact le_rfl
              · exact least' x mem
          have first := same (key x)
          simp only [List.filter_cons, keys, decide_true, if_true, List.cons.injEq] at first
          obtain rfl := first.1
          have same_rest (k : β) : rest.filter (key · = k) = rest'.filter (key · = k) := by
            have here := same k
            simp only [List.filter_cons] at here
            split at here
            · exact (List.cons.inj here).2
            · exact here
          rw [ih ordered_rest ordered_rest' same_rest (mem_iff_of_filter_eq same_rest)]

/-- Findings of one rank keep their order when they are arranged. -/
theorem filter_rank_arrange (findings : List Finding) (k : Rank) :
    (arrange findings).filter (rank · = k) = findings.filter (rank · = k) := by
  have level : (findings.filter (rank · = k)).Pairwise fun a b => a.mayPrecede b := by
    refine List.pairwise_of_forall_mem_list fun a mem_a b mem_b => (mayPrecede_iff a b).mpr ?_
    rw [of_decide_eq_true (List.mem_filter.mp mem_a).2, of_decide_eq_true (List.mem_filter.mp mem_b).2]
  have sub : (findings.filter (rank · = k)).Sublist (arrange findings) :=
    List.sublist_mergeSort mayPrecede_trans mayPrecede_total level List.filter_sublist
  have sub_filter := sub.filter (rank · = k)
  rw [List.filter_filter] at sub_filter
  simp only [Bool.and_self] at sub_filter
  have length := ((arrange_perm findings).filter (rank · = k)).length_eq
  exact (sub_filter.eq_of_length length.symm).symm

/-- To pick some of the arranged findings is to arrange the ones that are picked. -/
theorem filter_arrange (picks : Finding → Bool) (findings : List Finding) :
    (arrange findings).filter picks = arrange (findings.filter picks) := by
  refine eq_of_filter_eq ((pairwise_arrange findings).filter _) (pairwise_arrange _) fun k => ?_
  calc ((arrange findings).filter picks).filter (rank · = k)
      = ((arrange findings).filter (rank · = k)).filter picks := List.filter_comm _ _ _
    _ = (findings.filter (rank · = k)).filter picks := by rw [filter_rank_arrange]
    _ = (findings.filter picks).filter (rank · = k) := List.filter_comm _ _ _
    _ = (arrange (findings.filter picks)).filter (rank · = k) := (filter_rank_arrange _ k).symm

/-! ## Cutting off -/

/-- What is cut off does not come before what is left. -/
theorem rank_le_of_mem_take_of_mem_drop {findings : List Finding} {n : Nat} {a b : Finding}
    (kept : a ∈ (arrange findings).take n) (dropped : b ∈ (arrange findings).drop n) :
    a.rank ≤ b.rank := by
  have sorted := pairwise_arrange findings
  rw [← List.take_append_drop n (arrange findings)] at sorted
  exact (List.pairwise_append.mp sorted).2.2 a kept b dropped

end Finding

end ImportBoundary
