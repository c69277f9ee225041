import SourceDiagnostics.Proofs.Json.Grammar

/-!
What came of a reading, apart from the proof that it made progress: one rule for each way in which
readings are put together. Of blanks it matters only which character comes after them.
-/

namespace SourceDiagnostics.Json

variable {Cause α β : Type} {input : List Char}

/-- A reading comes to a value and leaves a rest. -/
def Yields (reading : Reading Cause α input) (value : α) (rest : List Char) : Prop :=
  ∃ shorter, reading = .ok ⟨value, rest, shorter⟩

@[simp] theorem yields_ok (taken : Taken α input) (value : α) (rest : List Char) :
    Yields (.ok taken : Reading Cause α input) value rest ↔
      taken.value = value ∧ taken.rest = rest := by
  constructor
  · rintro ⟨shorter, same⟩
    cases same
    exact ⟨rfl, rfl⟩
  · rintro ⟨rfl, rfl⟩
    exact ⟨taken.shorter, rfl⟩

@[simp] theorem yields_pure (taken : Taken α input) (value : α) (rest : List Char) :
    Yields (pure taken : Reading Cause α input) value rest ↔
      taken.value = value ∧ taken.rest = rest :=
  yields_ok taken value rest

@[simp] theorem not_yields_error (fault : ReadError Cause) (value : α) (rest : List Char) :
    ¬ Yields (.error fault : Reading Cause α input) value rest :=
  nofun

theorem Yields.shorter {reading : Reading Cause α input} {value : α} {rest : List Char}
    (yields : Yields reading value rest) : rest.length < input.length :=
  yields.elim fun shorter _ => shorter

theorem Yields.unique {reading : Reading Cause α input} {value value' : α} {rest rest' : List Char}
    (first : Yields reading value rest) (second : Yields reading value' rest') :
    value = value' ∧ rest = rest' := by
  rcases first with ⟨_, first⟩
  rw [first] at second
  exact (yields_ok _ _ _).mp second

/-! One rule for each way to make a reading. -/

theorem yields_bind {γ : Type} (action : Except (ReadError Cause) γ)
    (next : γ → Reading Cause β input) (value : β) (rest : List Char) :
    Yields (action >>= next) value rest ↔
      ∃ result, action = .ok result ∧ Yields (next result) value rest := by
  cases action with
  | error fault => exact iff_of_false nofun fun ⟨_, same, _⟩ => nomatch same
  | ok result => exact ⟨fun yields => ⟨result, rfl, yields⟩, fun ⟨_, rfl, yields⟩ => yields⟩

theorem yields_if {condition : Prop} [Decidable condition]
    (first second : Reading Cause α input) (value : α) (rest : List Char) :
    Yields (if condition then first else second) value rest ↔
      condition ∧ Yields first value rest ∨ ¬ condition ∧ Yields second value rest := by
  by_cases holds : condition
  · simp [holds]
  · simp [holds]

@[simp] theorem yields_map (reading : Reading Cause α input) (convert : α → β) (value : β)
    (rest : List Char) :
    Yields (reading.map (Taken.map convert)) value rest ↔
      ∃ first, Yields reading first rest ∧ convert first = value := by
  cases reading with
  | error fault => exact iff_of_false nofun fun ⟨_, yields, _⟩ => nomatch yields
  | ok taken =>
      simp only [Except.map, yields_ok, Taken.map]
      constructor
      · rintro ⟨rfl, rfl⟩
        exact ⟨taken.value, ⟨rfl, rfl⟩, rfl⟩
      · rintro ⟨_, ⟨rfl, rfl⟩, rfl⟩
        exact ⟨rfl, rfl⟩

@[simp] theorem yields_resume {inner : List Char} (shorter : inner.length < input.length)
    (reading : Reading Cause α inner) (value : α) (rest : List Char) :
    Yields (resume shorter reading) value rest ↔ Yields reading value rest := by
  cases reading with
  | error fault => exact iff_of_false nofun nofun
  | ok taken => simp [resume, Except.map, Taken.within]

@[simp] theorem yields_andThen (reading : Reading Cause α input)
    (next : (value : α) → (rest : List Char) → rest.length < input.length → Reading Cause β rest)
    (value : β) (rest : List Char) :
    Yields (andThen reading next) value rest ↔
      ∃ first middle, Yields reading first middle ∧
        ∃ shorter, Yields (next first middle shorter) value rest := by
  cases reading with
  | error fault => exact iff_of_false nofun fun ⟨_, _, yields, _⟩ => nomatch yields
  | ok taken =>
      simp only [andThen, yields_resume, yields_ok]
      constructor
      · exact fun yields => ⟨_, _, ⟨rfl, rfl⟩, taken.shorter, yields⟩
      · rintro ⟨_, _, ⟨rfl, rfl⟩, _, yields⟩
        exact yields

theorem Yields.andThen {reading : Reading Cause α input}
    {next : (value : α) → (rest : List Char) → rest.length < input.length → Reading Cause β rest}
    {first : α} {middle : List Char} {value : β} {rest : List Char}
    (earlier : Yields reading first middle)
    (later : ∀ shorter, Yields (next first middle shorter) value rest) :
    Yields (andThen reading next) value rest :=
  (yields_andThen _ _ _ _).mpr ⟨first, middle, earlier, earlier.shorter, later _⟩

theorem yields_bind_taken {inner : List Char} (reading : Reading Cause α inner)
    (next : Taken α inner → Reading Cause β input) (value : β) (rest : List Char) :
    Yields (reading >>= next) value rest ↔
      ∃ first middle, Yields reading first middle ∧
        ∃ shorter, Yields (next ⟨first, middle, shorter⟩) value rest := by
  rw [yields_bind]
  constructor
  · rintro ⟨taken, read, yields⟩
    exact ⟨taken.value, taken.rest, ⟨taken.shorter, read⟩, taken.shorter, yields⟩
  · rintro ⟨first, middle, ⟨shorter, read⟩, _, yields⟩
    exact ⟨⟨first, middle, shorter⟩, read, yields⟩

theorem yields_checked (reading : Reading Cause α input) (check : α → Except (ReadError Cause) β)
    (value : β) (rest : List Char) :
    Yields (do
        let taken ← reading
        let result ← check taken.value
        return taken.map fun _ => result) value rest ↔
      ∃ first, Yields reading first rest ∧ check first = .ok value := by
  rw [yields_bind_taken]
  simp only [yields_bind, yields_pure, Taken.map]
  constructor
  · rintro ⟨first, _, read, _, _, checked, rfl, rfl⟩
    exact ⟨first, read, checked⟩
  · rintro ⟨first, read, checked⟩
    exact ⟨first, rest, read, read.shorter, value, checked, rfl, rfl⟩

/-! Blanks. -/

theorem blanks_skipBlank (input : List Char) : Blanks input (skipBlank input) := by
  induction input with
  | nil => exact .none []
  | cons first rest induction =>
      by_cases blank : isBlank first = true
      · rw [skipBlank, List.dropWhile_cons_of_pos blank]
        exact .more blank induction
      · rw [skipBlank, List.dropWhile_cons_of_neg blank]
        exact .none _

theorem shorter_of_blanks {text rest : List Char} {first : Char}
    (blanks : Blanks text (first :: rest)) : rest.length < text.length := by
  generalize same : first :: rest = next at blanks
  induction blanks with
  | none =>
      rw [← same]
      exact Nat.lt_succ_self _
  | more _ _ induction => exact Nat.lt_succ_of_lt (induction same)

theorem Blanks.skipBlank_eq {text rest : List Char} (blanks : Blanks text rest) :
    skipBlank text = skipBlank rest := by
  induction blanks with
  | none => rfl
  | more blank _ induction => rw [← induction, skipBlank, List.dropWhile_cons_of_pos blank, skipBlank]

theorem skipBlank_of_blanks {text rest : List Char} {first : Char}
    (blanks : Blanks text (first :: rest)) (ink : isBlank first = false) :
    skipBlank text = first :: rest := by
  rw [blanks.skipBlank_eq, skipBlank, List.dropWhile_cons_of_neg (Bool.eq_false_iff.mp ink)]

theorem blanks_nil_iff (text : List Char) : Blanks text [] ↔ (skipBlank text).isEmpty = true := by
  rw [List.isEmpty_iff]
  constructor
  · exact fun blanks => blanks.skipBlank_eq
  · intro empty
    rw [← empty]
    exact blanks_skipBlank text

theorem next?_of_blanks {text rest : List Char} {first : Char}
    (blanks : Blanks text (first :: rest)) (ink : isBlank first = false) :
    ∃ shorter, next? text = some ⟨first, rest, shorter⟩ := by
  have skipped := skipBlank_of_blanks blanks ink
  unfold next?
  split
  · next empty =>
      rw [skipped] at empty
      cases empty
  · next found =>
      rw [skipped] at found
      cases found
      exact ⟨length_lt_of_skipBlank skipped, rfl⟩

theorem next?_cases (text : List Char) :
    (next? text = none ∧ Blanks text []) ∨
      ∃ first rest shorter, next? text = some ⟨first, rest, shorter⟩ ∧
        Blanks text (first :: rest) ∧ isBlank first = false := by
  unfold next?
  split
  · next empty => exact .inl ⟨rfl, empty ▸ blanks_skipBlank text⟩
  · next first rest found =>
      refine .inr ⟨first, rest, length_lt_of_skipBlank found, rfl, found ▸ blanks_skipBlank text, ?_⟩
      have head := List.head?_dropWhile_not isBlank text
      rw [← skipBlank, found] at head
      simpa using head

theorem blanks_of_next? {text rest : List Char} {first : Char}
    {shorter : rest.length < text.length} (next : next? text = some ⟨first, rest, shorter⟩) :
    Blanks text (first :: rest) ∧ isBlank first = false := by
  rcases next?_cases text with ⟨ended, -⟩ | ⟨_, _, _, found, blanks, ink⟩
  · rw [next] at ended
    cases ended
  · rw [next] at found
    cases found
    exact ⟨blanks, ink⟩

theorem Blanks.cons_iff {text later rest : List Char} {first mark : Char}
    (blanks : Blanks text (first :: later)) (ink : isBlank first = false)
    (markInk : isBlank mark = false) :
    Blanks text (mark :: rest) ↔ first = mark ∧ later = rest := by
  constructor
  · intro marked
    have same := (skipBlank_of_blanks blanks ink).symm.trans (skipBlank_of_blanks marked markInk)
    exact List.cons.inj same
  · rintro ⟨rfl, rfl⟩
    exact blanks

theorem Blanks.not_cons {text rest : List Char} {mark : Char} (ended : Blanks text [])
    (ink : isBlank mark = false) : ¬ Blanks text (mark :: rest) := fun marked => by
  have same := ended.skipBlank_eq.symm.trans (skipBlank_of_blanks marked ink)
  cases same

theorem yields_readMark {mark : Char} (ink : isBlank mark = false) (rest : List Char) :
    Yields (readMark mark input : Reading Cause Unit input) () rest ↔
      Blanks input (mark :: rest) := by
  rw [readMark]
  rcases next?_cases input with ⟨next, ended⟩ | ⟨first, later, shorter, next, blanks, firstInk⟩
  · rw [next]
    exact iff_of_false (not_yields_error _ _ _) (ended.not_cons ink)
  · rw [next, blanks.cons_iff firstInk ink]
    by_cases same : first = mark
    · simp [same]
    · simp [same]

end SourceDiagnostics.Json
