import SourceDiagnostics.Diagnostic.Order

/-!
Editor order as an order, and what a stable sort by it keeps. `mergeSort_stable` is about any
comparison: sorting puts what is strictly greater behind and leaves the rest as it was, so a
relation that held between earlier and later values still holds between those that tie.
-/

namespace SourceDiagnostics

theorem mergeSort_stable {α : Type} {le : α → α → Bool} {before : α → α → Prop}
    (trans : ∀ a b c, le a b → le b c → le a c) (total : ∀ a b, le a b || le b a) {values : List α}
    (ordered : values.Pairwise before) :
    (values.mergeSort le).Pairwise fun a b => le a b = true ∧ (le b a = true → before a b) := by
  have sorted := List.pairwise_mergeSort (List.zipIdxLE_trans trans) (List.zipIdxLE_total total)
    values.zipIdx
  have permuted := List.mergeSort_perm values.zipIdx (List.zipIdxLE le)
  have numbered : (values.zipIdx.map Prod.snd).Nodup := by
    rw [List.zipIdx_map_snd]
    exact List.nodup_range'
  have distinct : (values.zipIdx.mergeSort (List.zipIdxLE le)).Pairwise fun a b => a.2 ≠ b.2 :=
    List.pairwise_map.mp ((permuted.map Prod.snd).nodup_iff.mpr numbered)
  rw [← List.mergeSort_zipIdx, List.pairwise_map]
  apply (sorted.and distinct).imp_of_mem
  intro first last member member' ordering
  rcases first with ⟨a, i⟩
  rcases last with ⟨b, j⟩
  rcases ordering with ⟨related, different⟩
  have at_a := List.mk_mem_zipIdx_iff_getElem?.mp (List.mem_mergeSort.mp member)
  have at_b := List.mk_mem_zipIdx_iff_getElem?.mp (List.mem_mergeSort.mp member')
  have forward : le a b = true := by
    simp only [List.zipIdxLE] at related
    split at related
    · assumption
    · cases related
  refine ⟨forward, fun backward => ?_⟩
  have earlier : i ≤ j := by simpa [List.zipIdxLE, forward, backward] using related
  have lt : i < j := Nat.lt_of_le_of_ne earlier different
  rcases List.getElem?_eq_some_iff.mp at_a with ⟨bound, rfl⟩
  rcases List.getElem?_eq_some_iff.mp at_b with ⟨bound', rfl⟩
  exact List.pairwise_iff_getElem.mp ordered i j bound bound' lt

namespace Diagnostic

instance : Std.TransCmp comparePosition :=
  inferInstanceAs (Std.TransCmp (compareLex (compareOn line) (compareOn column)))

theorem comparePosition_isLE_iff (left right : Diagnostic) :
    (comparePosition left right).isLE ↔
      left.line < right.line ∨ left.line = right.line ∧ left.column ≤ right.column := by
  change ((compare left.line right.line).then (compare left.column right.column)).isLE ↔ _
  rw [Ordering.isLE_then_iff_or, Std.compare_eq_lt, Std.compare_eq_iff_eq, Std.isLE_compare]

theorem comparePosition_isLE_trans (first second third : Diagnostic) :
    (comparePosition first second).isLE → (comparePosition second third).isLE →
      (comparePosition first third).isLE :=
  Std.TransCmp.isLE_trans

theorem comparePosition_isLE_total (left right : Diagnostic) :
    (comparePosition left right).isLE || (comparePosition right left).isLE := by
  have swapped : comparePosition right left = (comparePosition left right).swap :=
    Std.OrientedCmp.eq_swap
  rw [swapped]
  cases comparePosition left right <;> rfl

end Diagnostic

end SourceDiagnostics
