import Mathlib.Data.Fin.Tuple.Sort
import SourceDiagnostics.Proofs.Diagnostic.Stability

/-!
Editor order, said without a sort. There is one rearrangement of some diagnostics that puts none
behind one at a later position and keeps those at one position in the order given
(`isEditorOrder_iff`), and sorting is that rearrangement (`IsEditorOrder.sort_eq_rearranged`). It
goes by the numbers of the diagnostics in the list, so it tells apart even those that are alike. As
a list, the result is the only one in order that has the same diagnostics at each position, in the
order given (`eq_sort_iff`); so diagnostics that are sorted in parts come out as if sorted together.
-/

namespace SourceDiagnostics.Diagnostic

/-! The comparison. -/

theorem comparePosition_eq_lt_iff (left right : Diagnostic) :
    comparePosition left right = .lt ↔
      left.line < right.line ∨ left.line = right.line ∧ left.column < right.column := by
  change (compare left.line right.line).then (compare left.column right.column) = .lt ↔ _
  rw [Ordering.then_eq_lt, Std.compare_eq_lt, Std.compare_eq_iff_eq, Std.compare_eq_lt]

theorem comparePosition_eq_eq_iff (left right : Diagnostic) :
    comparePosition left right = .eq ↔ left.position = right.position := by
  change (compare left.line right.line).then (compare left.column right.column) = .eq ↔ _
  rw [Ordering.then_eq_eq, Std.compare_eq_iff_eq, Std.compare_eq_iff_eq, position, position,
    Position.mk.injEq]

def Ordered (diagnostics : List Diagnostic) : Prop :=
  diagnostics.Pairwise fun left right => (comparePosition left right).isLE

theorem sort_perm (diagnostics : List Diagnostic) : (sort diagnostics).Perm diagnostics :=
  List.mergeSort_perm _ _

theorem sort_ordered (diagnostics : List Diagnostic) : Ordered (sort diagnostics) :=
  List.pairwise_mergeSort comparePosition_isLE_trans comparePosition_isLE_total diagnostics

theorem sort_eq_self_iff (diagnostics : List Diagnostic) :
    sort diagnostics = diagnostics ↔ Ordered diagnostics :=
  ⟨fun same => same ▸ sort_ordered diagnostics, List.mergeSort_of_pairwise⟩

/-! The diagnostics at one position. -/

/-- The diagnostics at a position, in the order given. -/
def placedAt (here : Position) (diagnostics : List Diagnostic) : List Diagnostic :=
  diagnostics.filter (·.position = here)

theorem placedAt_ordered (here : Position) (diagnostics : List Diagnostic) :
    Ordered (placedAt here diagnostics) := by
  apply List.pairwise_of_forall_mem_list
  intro left member right member'
  have tied : left.position = right.position :=
    (of_decide_eq_true (List.mem_filter.mp member).right).trans
      (of_decide_eq_true (List.mem_filter.mp member').right).symm
  rw [(comparePosition_eq_eq_iff left right).mpr tied]
  rfl

theorem placedAt_sort (here : Position) (diagnostics : List Diagnostic) :
    placedAt here (sort diagnostics) = placedAt here diagnostics := by
  have kept : (placedAt here diagnostics).Sublist (sort diagnostics) :=
    List.sublist_mergeSort comparePosition_isLE_trans comparePosition_isLE_total
      (placedAt_ordered here diagnostics) List.filter_sublist
  have within : (placedAt here diagnostics).Sublist (placedAt here (sort diagnostics)) := by
    simpa [placedAt, List.filter_filter] using kept.filter (·.position = here)
  exact (within.eq_of_length ((sort_perm diagnostics).filter _).length_eq.symm).symm

theorem placedAt_cons (here : Position) (first : Diagnostic) (later : List Diagnostic) :
    placedAt here (first :: later) =
      if first.position = here then first :: placedAt here later else placedAt here later := by
  simp [placedAt, List.filter_cons]

theorem placedAt_append (here : Position) (front back : List Diagnostic) :
    placedAt here (front ++ back) = placedAt here front ++ placedAt here back :=
  List.filter_append front back

theorem mem_of_placedAt_eq {left right : List Diagnostic}
    (same : ∀ here, placedAt here left = placedAt here right) {diagnostic : Diagnostic}
    (member : diagnostic ∈ left) : diagnostic ∈ right := by
  have found : diagnostic ∈ placedAt diagnostic.position left :=
    List.mem_filter.mpr ⟨member, decide_eq_true rfl⟩
  rw [same] at found
  exact (List.mem_filter.mp found).left

theorem Ordered.head_isLE {first diagnostic : Diagnostic} {later : List Diagnostic}
    (ordered : Ordered (first :: later)) (member : diagnostic ∈ first :: later) :
    (comparePosition first diagnostic).isLE := by
  rcases List.mem_cons.mp member with rfl | member
  · exact Std.ReflCmp.isLE_rfl
  · exact (List.pairwise_cons.mp ordered).left diagnostic member

theorem Ordered.eq_of_placedAt_eq {left right : List Diagnostic} (ordered : Ordered left)
    (ordered' : Ordered right) (same : ∀ here, placedAt here left = placedAt here right) :
    left = right := by
  induction left generalizing right with
  | nil =>
      cases right with
      | nil => rfl
      | cons first later =>
          cases mem_of_placedAt_eq (fun here => (same here).symm) List.mem_cons_self
  | cons first later induction =>
      cases right with
      | nil => cases mem_of_placedAt_eq same List.mem_cons_self
      | cons first' later' =>
          have before := ordered.head_isLE
            (mem_of_placedAt_eq (fun here => (same here).symm) List.mem_cons_self)
          have after := ordered'.head_isLE (mem_of_placedAt_eq same List.mem_cons_self)
          have tied : first'.position = first.position :=
            ((comparePosition_eq_eq_iff ..).mp (Std.OrientedCmp.isLE_antisymm before after)).symm
          simp only [placedAt_cons, tied] at same
          have heads : first = first' := by
            have there := same first.position
            rw [if_pos rfl, if_pos rfl] at there
            exact (List.cons.inj there).left
          have tails (here : Position) : placedAt here later = placedAt here later' := by
            have there := same here
            split at there
            · exact (List.cons.inj there).right
            · exact there
          rw [heads, induction (List.pairwise_cons.mp ordered).right
            (List.pairwise_cons.mp ordered').right tails]

/-- Sorted diagnostics are those in editor order with the same diagnostics at each position. -/
theorem eq_sort_iff (sorted diagnostics : List Diagnostic) :
    sorted = sort diagnostics ↔
      Ordered sorted ∧ ∀ here, placedAt here sorted = placedAt here diagnostics := by
  constructor
  · rintro rfl
    exact ⟨sort_ordered diagnostics, fun here => placedAt_sort here diagnostics⟩
  · rintro ⟨ordered, same⟩
    exact ordered.eq_of_placedAt_eq (sort_ordered diagnostics) fun here =>
      (same here).trans (placedAt_sort here diagnostics).symm

theorem sort_append_sort (front back : List Diagnostic) :
    sort (sort front ++ sort back) = sort (front ++ back) := by
  rw [eq_sort_iff]
  refine ⟨sort_ordered _, fun here => ?_⟩
  rw [placedAt_sort, placedAt_append, placedAt_append, placedAt_sort, placedAt_sort]

/-! Diagnostics by number. -/

def rank (diagnostic : Diagnostic) : Nat ×ₗ Nat :=
  toLex (diagnostic.line.toNat, diagnostic.column.toNat)

theorem rank_le_rank_iff (left right : Diagnostic) :
    left.rank ≤ right.rank ↔ (comparePosition left right).isLE := by
  rw [comparePosition_isLE_iff, rank, rank, Prod.Lex.toLex_le_toLex, UInt32.lt_iff_toNat_lt,
    UInt32.le_iff_toNat_le, ← UInt32.toNat_inj]

theorem rank_eq_rank_iff (left right : Diagnostic) :
    left.rank = right.rank ↔ left.position = right.position := by
  simp [rank, position, UInt32.toNat_inj]

section

variable (diagnostics : List Diagnostic) (order : Equiv.Perm (Fin diagnostics.length))

def rearranged : List Diagnostic :=
  List.ofFn fun index => diagnostics[order index]

/-- An order of the numbers of some diagnostics: none stands behind one at a later position, and
those at one position stand in the order of their numbers. -/
structure IsEditorOrder : Prop where
  ordered : ∀ i j, i < j → (comparePosition diagnostics[order i] diagnostics[order j]).isLE
  stable : ∀ i j, i < j → diagnostics[order i].position = diagnostics[order j].position →
    order i < order j

theorem isEditorOrder_iff :
    IsEditorOrder diagnostics order ↔
      order = Tuple.sort fun index : Fin diagnostics.length => diagnostics[index].rank := by
  rw [Tuple.eq_sort_iff]
  simp only [rank_eq_rank_iff]
  constructor
  · intro editor
    refine ⟨fun i j le => ?_, editor.stable⟩
    rcases lt_or_eq_of_le le with lt | rfl
    · exact (rank_le_rank_iff ..).mpr (editor.ordered i j lt)
    · exact le_refl _
  · rintro ⟨monotone, stable⟩
    exact ⟨fun i j lt => (rank_le_rank_iff ..).mp (monotone lt.le), stable⟩

def numbered (index : Fin diagnostics.length) : Diagnostic × Nat :=
  (diagnostics[index], index)

def atOrBefore (left right : Diagnostic × Nat) : Bool :=
  (comparePosition left.1 right.1).isLE

/-- Whether a numbered diagnostic comes before another one: it stands at an earlier position, or at
the same one with a smaller number. -/
def Precedes (left right : Diagnostic × Nat) : Prop :=
  atOrBefore left right = true ∧ (atOrBefore right left = true → left.2 < right.2)

theorem Precedes.asymm {left right : Diagnostic × Nat} (before : Precedes left right)
    (after : Precedes right left) : False :=
  Nat.lt_asymm (before.right after.left) (after.right before.left)

theorem mergeSort_numbered_precedes :
    ((List.ofFn (numbered diagnostics)).mergeSort atOrBefore).Pairwise Precedes := by
  refine mergeSort_stable (fun first second third => ?_) (fun left right => ?_)
    (List.pairwise_ofFn.mpr fun i j lt => lt)
  · exact comparePosition_isLE_trans first.1 second.1 third.1
  · exact comparePosition_isLE_total left.1 right.1

theorem sort_eq_map_mergeSort_numbered :
    sort diagnostics =
      ((List.ofFn (numbered diagnostics)).mergeSort atOrBefore).map Prod.fst := by
  have dropped : (List.ofFn (numbered diagnostics)).map Prod.fst = diagnostics := by
    rw [List.map_ofFn]
    exact List.ofFn_getElem
  conv => lhs; rw [← dropped]
  symm
  apply List.map_mergeSort
  intros
  rfl

variable {diagnostics order}

theorem IsEditorOrder.numbered_precedes (editor : IsEditorOrder diagnostics order) :
    (List.ofFn (numbered diagnostics ∘ order)).Pairwise Precedes := by
  rw [List.pairwise_ofFn]
  intro i j lt
  have forward := editor.ordered i j lt
  refine ⟨forward, fun backward => editor.stable i j lt ?_⟩
  exact (comparePosition_eq_eq_iff ..).mp (Std.OrientedCmp.isLE_antisymm forward backward)

theorem IsEditorOrder.sort_eq_rearranged (editor : IsEditorOrder diagnostics order) :
    sort diagnostics = rearranged diagnostics order := by
  have permuted : ((List.ofFn (numbered diagnostics)).mergeSort atOrBefore).Perm
      (List.ofFn (numbered diagnostics ∘ order)) :=
    (List.mergeSort_perm _ _).trans (order.ofFn_comp_perm (numbered diagnostics)).symm
  rw [sort_eq_map_mergeSort_numbered,
    permuted.eq_of_pairwise (fun _ _ _ _ before after => (before.asymm after).elim)
      (mergeSort_numbered_precedes diagnostics) editor.numbered_precedes]
  exact List.map_ofFn

end

/-- Sorting is compositional, since its result can be said without it. There is just one order of the
numbers of some diagnostics in which none stands behind one at a later position and those at one
position stand in the order given, and sorting puts each diagnostic where that order has its number.
So diagnostics sorted in parts come out as if sorted together, sorting again changes nothing, and
what is left as it was is what was in order. The comparison is by line, then by column, as positions
are compared: reflexive, total and transitive, and two diagnostics tie only at one position. -/
theorem sort_compositional :
    (∀ diagnostics : List Diagnostic, ∃ order : Equiv.Perm (Fin diagnostics.length),
      (∀ other, IsEditorOrder diagnostics other ↔ other = order) ∧
        sort diagnostics = rearranged diagnostics order) ∧
    (∀ front back : List Diagnostic, sort (sort front ++ sort back) = sort (front ++ back)) ∧
    (∀ diagnostics : List Diagnostic, sort (sort diagnostics) = sort diagnostics ∧
      (sort diagnostics = diagnostics ↔ Ordered diagnostics)) ∧
    Std.TransCmp comparePosition ∧
    ∀ left right : Diagnostic,
      comparePosition left right = compare left.position right.position ∧
      (comparePosition left right = .lt ↔
        left.line < right.line ∨ left.line = right.line ∧ left.column < right.column) ∧
      (comparePosition left right = .eq ↔ left.position = right.position) := by
  refine ⟨fun diagnostics => ?_, sort_append_sort, fun diagnostics => ?_, inferInstance,
    fun left right => ⟨rfl, ?_, ?_⟩⟩
  · let order := Tuple.sort fun index : Fin diagnostics.length => diagnostics[index].rank
    have editor : IsEditorOrder diagnostics order := (isEditorOrder_iff diagnostics order).mpr rfl
    exact ⟨order, isEditorOrder_iff diagnostics, editor.sort_eq_rearranged⟩
  · exact ⟨(sort_eq_self_iff _).mpr (sort_ordered diagnostics), sort_eq_self_iff diagnostics⟩
  · exact comparePosition_eq_lt_iff left right
  · exact comparePosition_eq_eq_iff left right

end SourceDiagnostics.Diagnostic
