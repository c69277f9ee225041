import SourceDiagnostics.Offsets.History

/-!
How steps are nested in the log of a history. The beginning and the end of a step enclose what
happened during it like a pair of brackets. In a balanced log every bracket is closed, so the end
that belongs to a beginning can be told by counting, and a balanced part of a log has with every
beginning the end that belongs to it.
-/

namespace SourceDiagnostics.Offsets

variable {τ : Type}

def Event.change : Event τ → Int
  | .began _ => 1
  | .ended _ _ => -1
  | _ => 0

def depth : List (Event τ) → Int
  | [] => 0
  | event :: rest => event.change + depth rest

/-- A log in which every step that began has ended, and none ended that did not begin. -/
structure Balanced (log : List (Event τ)) : Prop where
  closed : depth log = 0
  opened : ∀ front, front <+: log → 0 ≤ depth front

theorem depth_append (front back : List (Event τ)) :
    depth (front ++ back) = depth front + depth back := by
  induction front with
  | nil => exact (Int.zero_add _).symm
  | cons event rest induction =>
      rw [List.cons_append, depth, depth, induction, Int.add_assoc]

namespace Balanced

theorem nil : Balanced ([] : List (Event τ)) where
  closed := rfl
  opened front within := by
    rw [List.prefix_nil.mp within]
    exact Int.le_refl 0

theorem append {front back : List (Event τ)} (first : Balanced front) (last : Balanced back) :
    Balanced (front ++ back) where
  closed := by
    rw [depth_append, first.closed, last.closed]
    rfl
  opened part within := by
    rcases within with ⟨rest, split⟩
    rcases List.append_eq_append_iff.mp split with ⟨more, same, _⟩ | ⟨more, same, same'⟩
    · exact first.opened part ⟨more, same.symm⟩
    · rw [same, depth_append, first.closed, Int.zero_add]
      exact last.opened more ⟨rest, same'.symm⟩

theorem single {event : Event τ} (flat : event.change = 0) : Balanced [event] where
  closed := by
    rw [depth, flat]
    rfl
  opened front within := by
    rcases List.prefix_cons_iff.mp within with empty | ⟨more, same, empty⟩
    · rw [empty]
      exact Int.le_refl 0
    · rw [same, List.prefix_nil.mp empty, depth, flat]
      exact Int.le_refl 0

theorem flat {log : List (Event τ)} (flat : ∀ event ∈ log, event.change = 0) : Balanced log := by
  induction log with
  | nil => exact nil
  | cons event rest induction =>
      have first := single (flat event List.mem_cons_self)
      have later := induction fun other member => flat other (List.mem_cons_of_mem _ member)
      exact append first later

theorem enclose {inner : List (Event τ)} (balanced : Balanced inner) (step : Step)
    (answer : Answer τ) : Balanced (.began step :: (inner ++ [.ended step answer])) where
  closed := by
    rw [depth, depth_append, balanced.closed]
    rfl
  opened front within := by
    rcases List.prefix_cons_iff.mp within with empty | ⟨part, same, inside⟩
    · rw [empty]
      exact Int.le_refl 0
    · have entered : depth front = 1 + depth part := by
        rw [same, depth]
        rfl
      rcases List.prefix_concat_iff.mp inside with all | some
      · have left : depth part = -1 := by
          rw [all, depth_append, balanced.closed]
          rfl
        omega
      · have opened := balanced.opened part some
        omega

end Balanced

/-! Where a step and what happened during it can be in a log that is put together. -/

theorem Balanced.closes {log before more : List (Event τ)} {step : Step} (balanced : Balanced log)
    (split : log = before ++ .began step :: more) : depth more < 0 := by
  have opened := balanced.opened before ⟨.began step :: more, split.symm⟩
  have total : depth before + (1 + depth more) = 0 := by
    rw [← balanced.closed, split, depth_append, depth]
    rfl
  omega

/-- A step that began and ended in two logs, one after the other, the first of them balanced, did
so in one of them. -/
theorem Balanced.step_of_append {first last before during after : List (Event τ)} {step : Step}
    {answer : Answer τ} (balanced : Balanced first) (inside : Balanced during)
    (split : first ++ last = before ++ .began step :: (during ++ .ended step answer :: after)) :
    (∃ rest, first = before ++ .began step :: (during ++ .ended step answer :: rest)) ∨
      ∃ earlier, before = first ++ earlier ∧
        last = earlier ++ .began step :: (during ++ .ended step answer :: after) := by
  rcases List.append_eq_append_iff.mp split with ⟨earlier, same, same'⟩ | ⟨more, same, same'⟩
  · exact .inr ⟨earlier, same, same'⟩
  rcases List.cons_eq_append_iff.mp same' with ⟨empty, later⟩ | ⟨part, started, later⟩
  · rw [empty, List.append_nil] at same
    exact .inr ⟨[], by rw [same, List.append_nil], later⟩
  -- The step begins in the first log; it cannot end behind it, as that log closes it.
  rw [started] at same
  have open_part := balanced.closes same
  rcases List.append_eq_append_iff.mp later with ⟨rest, whole, ending⟩ | ⟨rest, cut, _⟩
  · rcases List.cons_eq_append_iff.mp ending with ⟨empty, _⟩ | ⟨rest', ended, _⟩
    · rw [whole, empty, List.append_nil, inside.closed] at open_part
      cases open_part
    · rw [whole, ended] at same
      exact .inl ⟨rest', same⟩
  · have opened := inside.opened part ⟨rest, cut.symm⟩
    omega

theorem Balanced.step_of_enclosed {inner before during after : List (Event τ)} {outer step : Step}
    {answer answer' : Answer τ} (balanced : Balanced inner) (inside : Balanced during)
    (split : .began outer :: (inner ++ [.ended outer answer]) =
      before ++ .began step :: (during ++ .ended step answer' :: after)) :
    (before = [] ∧ outer = step ∧ inner = during ∧ answer = answer') ∨
      ∃ earlier rest, before = .began outer :: earlier ∧
        inner = earlier ++ .began step :: (during ++ .ended step answer' :: rest) := by
  rcases List.cons_eq_append_iff.mp split with ⟨empty, whole⟩ | ⟨earlier, started, later⟩
  · injection whole with began rest
    injection began with outermost
    subst outermost
    rcases List.append_eq_append_iff.mp rest with ⟨more, same, ending⟩ | ⟨more, same, ending⟩
    · rcases List.cons_eq_append_iff.mp ending with ⟨none, last⟩ | ⟨more', ended, _⟩
      · injection last with last _
        injection last with _ answers
        rw [none, List.append_nil] at same
        exact .inl ⟨empty, rfl, same, answers⟩
      · have opened := balanced.opened (during ++ [.ended step answer'])
          ⟨more', by rw [same, ended, List.append_assoc]; rfl⟩
        rw [depth_append, inside.closed] at opened
        cases opened
    · rcases List.cons_eq_append_iff.mp ending with ⟨none, last⟩ | ⟨more', _, last⟩
      · injection last with last _
        injection last with _ answers
        rw [none, List.append_nil] at same
        exact .inl ⟨empty, rfl, same.symm, answers.symm⟩
      · cases (List.append_eq_nil_iff.mp last.symm).right
  · rcases balanced.step_of_append inside later with ⟨rest, same⟩ | ⟨more, _, last⟩
    · exact .inr ⟨earlier, rest, started, same⟩
    · rcases List.cons_eq_append_iff.mp last with ⟨_, last⟩ | ⟨more', _, last⟩
      · cases last
      · cases (List.append_eq_nil_iff.mp last.symm).right

/-! Steps that came to an end. -/

theorem cons_of_append {first last before after : List (Event τ)} {event : Event τ}
    (split : first ++ last = before ++ event :: after) :
    (∃ rest, first = before ++ event :: rest ∧ after = rest ++ last) ∨
      ∃ earlier, before = first ++ earlier ∧ last = earlier ++ event :: after := by
  rcases List.append_eq_append_iff.mp split with ⟨earlier, same, same'⟩ | ⟨more, same, same'⟩
  · exact .inr ⟨earlier, same, same'⟩
  · rcases List.cons_eq_append_iff.mp same' with ⟨empty, later⟩ | ⟨part, started, rest⟩
    · exact .inr ⟨[], by rw [same, empty, List.append_nil, List.append_nil], later⟩
    · exact .inl ⟨part, by rw [same, started], rest⟩

/-- A step that began and ended in a log, with what came before it, during it and after it. -/
structure Took (log before : List (Event τ)) (step : Step) (during : List (Event τ))
    (answer : Answer τ) (after : List (Event τ)) : Prop where
  logged : log = before ++ .began step :: (during ++ .ended step answer :: after)
  inside : Balanced during

theorem Balanced.began_unique {before before' during during' : List (Event τ)}
    {step step' : Step} (inside : Balanced during) (inside' : Balanced during')
    (same : before ++ .began step :: during = before' ++ .began step' :: during') :
    before = before' ∧ step = step' ∧ during = during' := by
  have closed {front log log' : List (Event τ)} {opened : Step} (balanced : Balanced log)
      (balanced' : Balanced log') (nested : log = front ++ .began opened :: log') : False := by
    have start := balanced.opened front ⟨_, nested.symm⟩
    have whole := balanced.closed
    rw [nested, depth_append, depth, balanced'.closed] at whole
    change depth front + (1 + 0) = 0 at whole
    omega
  rcases List.append_eq_append_iff.mp same with ⟨earlier, rfl, rest⟩ | ⟨earlier, rfl, rest⟩
  · rcases List.cons_eq_append_iff.mp rest with ⟨rfl, rest⟩ | ⟨front, rfl, nested⟩
    · injection rest with began during
      injection began with same
      exact ⟨(List.append_nil _).symm, same, during⟩
    · exact (closed inside inside' nested).elim
  · rcases List.cons_eq_append_iff.mp rest with ⟨rfl, rest⟩ | ⟨front, rfl, nested⟩
    · injection rest with began during
      injection began with same
      exact ⟨List.append_nil _, same.symm, during.symm⟩
    · exact (closed inside' inside nested).elim

namespace Took

variable {log before during after later : List (Event τ)} {step : Step} {answer : Answer τ}

theorem append (took : Took log before step during answer after) (later : List (Event τ)) :
    Took (log ++ later) before step during answer (after ++ later) where
  logged := by
    rw [took.logged]
    simp only [List.append_assoc, List.cons_append]
  inside := took.inside

theorem of_append_quiet (took : Took (log ++ later) before step during answer after)
    (quiet : ∀ step answer, .ended step answer ∉ later) :
    ∃ rest, after = rest ++ later ∧ Took log before step during answer rest := by
  have split : log ++ later = (before ++ .began step :: during) ++ .ended step answer :: after := by
    rw [took.logged, List.append_assoc, List.cons_append]
  rcases cons_of_append split with ⟨rest, same, same'⟩ | ⟨earlier, _, late⟩
  · exact ⟨rest, same', by rw [same, List.append_assoc, List.cons_append], took.inside⟩
  · exact absurd (by rw [late]; simp) (quiet step answer)

theorem of_append_ended {before' during' : List (Event τ)} {step' : Step} {answer' : Answer τ}
    (took : Took (log ++ [.ended step' answer']) before step during answer after)
    (open_log : log = before' ++ .began step' :: during') (inside : Balanced during') :
    (∃ rest, after = rest ++ [.ended step' answer'] ∧ Took log before step during answer rest) ∨
      (after = [] ∧ step = step' ∧ during = during' ∧ answer = answer') := by
  have split : log ++ [.ended step' answer'] =
      (before ++ .began step :: during) ++ .ended step answer :: after := by
    rw [took.logged, List.append_assoc, List.cons_append]
  rcases cons_of_append split with ⟨rest, same, same'⟩ | ⟨earlier, same, last⟩
  · exact .inl ⟨rest, same', by rw [same, List.append_assoc, List.cons_append], took.inside⟩
  · rcases List.cons_eq_append_iff.mp last with ⟨rfl, last⟩ | ⟨_, _, last⟩
    · injection last with ended nothing
      injection ended with _ answers
      rw [List.append_nil, open_log] at same
      rcases took.inside.began_unique inside same with ⟨_, steps, durings⟩
      exact .inr ⟨nothing.symm, steps, durings, answers.symm⟩
    · cases (List.append_eq_nil_iff.mp last.symm).right

end Took

end SourceDiagnostics.Offsets
