import SourceDiagnostics.Json.Skip
import SourceDiagnostics.Proofs.Json.Numbers
import SourceDiagnostics.Proofs.Json.Strings

/-!
A value that is skipped is any value of the grammar, to any depth, and every value of the grammar
can be skipped, wherever a comma, a bracket, a blank or the end follows.
-/

namespace SourceDiagnostics.Json

variable {Cause α : Type}

/-! Brackets and commas. -/

theorem yields_match_next? (text : List Char) (closing : Char) (ink : isBlank closing = false)
    (no_comma : closing ≠ ',') (others : (later : List Char) → Reading Cause α later) (result : α)
    (value : α) (rest : List Char) :
    Yields (match next? text with
      | none => .error .truncated
      | some ⟨first, later, shorter⟩ =>
          if first = ',' then resume shorter (others later)
          else if first = closing then .ok ⟨result, later, shorter⟩
          else .error .malformed : Reading Cause α text) value rest ↔
      (∃ later, Blanks text (',' :: later) ∧ Yields (others later) value rest) ∨
        result = value ∧ Blanks text (closing :: rest) := by
  have comma : isBlank ',' = false := rfl
  rcases next?_cases text with ⟨next, ended⟩ | ⟨first, later, shorter, next, blanks, firstInk⟩
  · rw [next]
    refine iff_of_false (not_yields_error _ _ _) ?_
    rintro (⟨_, marked, _⟩ | ⟨_, marked⟩)
    · exact ended.not_cons comma marked
    · exact ended.not_cons ink marked
  · rw [next]
    simp only [blanks.cons_iff firstInk comma, blanks.cons_iff firstInk ink, yields_if,
      yields_resume, yields_ok, not_yields_error, and_false, or_false]
    constructor
    · rintro (⟨rfl, yields⟩ | ⟨_, rfl, rfl, rfl⟩)
      · exact .inl ⟨later, ⟨rfl, rfl⟩, yields⟩
      · exact .inr ⟨rfl, rfl, rfl⟩
    · rintro (⟨_, ⟨rfl, rfl⟩, yields⟩ | ⟨rfl, rfl, rfl⟩)
      · exact .inl ⟨rfl, yields⟩
      · exact .inr ⟨no_comma, rfl, rfl, rfl⟩

theorem closes?_cases (text : List Char) {closing : Char} (ink : isBlank closing = false) :
    (closes? closing text = none ∧ ∀ rest, ¬ Blanks text (closing :: rest)) ∨
      ∃ rest shorter, closes? closing text = some ⟨(), rest, shorter⟩ ∧
        Blanks text (closing :: rest) := by
  unfold closes?
  rcases next?_cases text with ⟨next, ended⟩ | ⟨first, later, shorter, next, blanks, firstInk⟩
  · rw [next]
    exact .inl ⟨rfl, fun rest => ended.not_cons ink⟩
  · rw [next]
    by_cases same : first = closing
    · exact .inr ⟨later, shorter, if_pos same, same ▸ blanks⟩
    · refine .inl ⟨if_neg same, fun rest closed => ?_⟩
      exact same ((blanks.cons_iff firstInk ink).mp closed).left

/-! What is skipped is a value. -/

mutual

theorem isValue_of_skipValue {text rest : List Char}
    (yields : Yields (skipValue text : Reading Cause Unit text) () rest) :
    ∃ start value, Blanks text start ∧ IsValue start value rest := by
  unfold skipValue at yields
  split at yields
  · exact absurd yields (not_yields_error _ _ _)
  · next first later shorter next =>
      have blanks := (blanks_of_next? next).left
      split at yields
      · rcases (yields_readName _ _ _ _ _).mp yields with ⟨-, rfl⟩
        exact ⟨_, _, blanks, .null rest⟩
      · rcases (yields_readName _ _ _ _ _).mp yields with ⟨-, rfl⟩
        exact ⟨_, _, blanks, .yes rest⟩
      · rcases (yields_readName _ _ _ _ _).mp yields with ⟨-, rfl⟩
        exact ⟨_, _, blanks, .no rest⟩
      · rw [yields_resume, yields_map] at yields
        rcases yields with ⟨characters, string, -⟩
        rcases exists_pieces_of_readString string with ⟨pieces, spelled, -⟩
        exact ⟨_, _, blanks, .string spelled⟩
      · rw [yields_resume] at yields
        rcases closes?_cases later (rfl : isBlank ']' = false) with ⟨none, _⟩ | ⟨last, _, some, closed⟩
        · rw [none] at yields
          rcases isElements_of_skipElements yields with ⟨elements, spelled⟩
          exact ⟨_, _, blanks, .array spelled⟩
        · rw [some] at yields
          rcases (yields_ok _ _ _).mp yields with ⟨-, rfl⟩
          exact ⟨_, _, blanks, .emptyArray closed⟩
      · rw [yields_resume] at yields
        rcases closes?_cases later (rfl : isBlank '}' = false) with ⟨none, _⟩ | ⟨last, _, some, closed⟩
        · rw [none] at yields
          rcases isMembers_of_skipMembers yields with ⟨members, spelled⟩
          exact ⟨_, _, blanks, .object spelled⟩
        · rw [some] at yields
          rcases (yields_ok _ _ _).mp yields with ⟨-, rfl⟩
          exact ⟨_, _, blanks, .emptyObject closed⟩
      · simp only [yields_if, yields_map, not_yields_error, and_false, or_false] at yields
        rcases yields with ⟨_, number, yields, _⟩
        rcases isNumber_of_readNumber yields with ⟨start, before, spelled⟩
        exact ⟨start, _, before, .number spelled⟩
termination_by (text.length, 0)

theorem isElements_of_skipElements {text rest : List Char}
    (yields : Yields (skipElements text : Reading Cause Unit text) () rest) :
    ∃ elements, IsElements text elements rest := by
  unfold skipElements at yields
  rw [yields_andThen] at yields
  rcases yields with ⟨_, after, skipped, shorter, yields⟩
  rcases isValue_of_skipValue skipped with ⟨start, value, blanks, element⟩
  rcases (yields_match_next? after ']' rfl (by decide) _ _ _ _).mp yields with
    ⟨later, comma, yields⟩ | ⟨_, close⟩
  · have inside := shorter_of_blanks comma
    rcases isElements_of_skipElements yields with ⟨elements, others⟩
    exact ⟨_, .more blanks element comma others⟩
  · exact ⟨_, .last blanks element close⟩
termination_by (text.length, 1)

theorem isMembers_of_skipMembers {text rest : List Char}
    (yields : Yields (skipMembers text : Reading Cause Unit text) () rest) :
    ∃ members, IsMembers text members rest := by
  unfold skipMembers at yields
  simp only [yields_andThen] at yields
  rcases yields with ⟨_, quoted, quote, quotedShorter, _, named, string, namedShorter,
    _, assigned, colon, assignedShorter, _, after, skipped, afterShorter, yields⟩
  rcases exists_pieces_of_readString string with ⟨pieces, spelled, -⟩
  rcases isValue_of_skipValue skipped with ⟨start, value, blanks, member⟩
  have key : IsKey text pieces start :=
    .of ((yields_readMark rfl _).mp quote) spelled ((yields_readMark rfl _).mp colon) blanks
  rcases (yields_match_next? after '}' rfl (by decide) _ _ _ _).mp yields with
    ⟨later, comma, yields⟩ | ⟨_, close⟩
  · have inside := shorter_of_blanks comma
    rcases isMembers_of_skipMembers yields with ⟨members, others⟩
    exact ⟨_, .more key member comma others⟩
  · exact ⟨_, .last key member close⟩
termination_by (text.length, 1)

end

/-! Every value can be skipped. -/

theorem IsValue.exists_head {text rest : List Char} {value : Value}
    (spelled : IsValue text value rest) :
    ∃ first tail, text = first :: tail ∧ isBlank first = false ∧ first ≠ ']' := by
  cases spelled with
  | number spelled =>
      rcases spelled.exists_head with ⟨first, tail, same, starts⟩
      refine ⟨first, tail, same, not_isBlank_of_startsNumber starts, ?_⟩
      rintro rfl
      cases starts
  | _ => exact ⟨_, _, rfl, rfl, by decide⟩

theorem IsElements.exists_head {text rest : List Char} {elements : List Value}
    (spelled : IsElements text elements rest) :
    ∃ first tail, Blanks text (first :: tail) ∧ isBlank first = false ∧ first ≠ ']' := by
  rcases spelled with ⟨blanks, element, -⟩ | ⟨blanks, element, -, -⟩
  all_goals
    rcases element.exists_head with ⟨first, tail, rfl, ink, no_close⟩
    exact ⟨first, tail, blanks, ink, no_close⟩

theorem IsElements.not_close {text after : List Char} {elements : List Value}
    (spelled : IsElements text elements after) (rest : List Char) :
    ¬ Blanks text (']' :: rest) := fun close => by
  rcases spelled.exists_head with ⟨first, tail, blanks, ink, no_close⟩
  exact no_close ((blanks.cons_iff ink rfl).mp close).left

theorem IsKey.not_close {text after : List Char} {pieces : List Piece}
    (spelled : IsKey text pieces after) (rest : List Char) : ¬ Blanks text ('}' :: rest) :=
  fun close => by
    rcases spelled with ⟨before, -, -, -⟩
    have same := ((before.cons_iff rfl rfl).mp close).left
    cases same

theorem IsMembers.not_close {text after : List Char} {members : List (List Piece × Value)}
    (spelled : IsMembers text members after) (rest : List Char) :
    ¬ Blanks text ('}' :: rest) := by
  cases spelled with
  | last key => exact key.not_close rest
  | more key => exact key.not_close rest

theorem closes?_eq_none {text : List Char} {closing : Char} (ink : isBlank closing = false)
    (open' : ∀ rest, ¬ Blanks text (closing :: rest)) : closes? closing text = none := by
  rcases closes?_cases text ink with ⟨none, -⟩ | ⟨rest, _, -, closed⟩
  · exact none
  · exact absurd closed (open' rest)

theorem closes?_eq_some {text rest : List Char} {closing : Char} (ink : isBlank closing = false)
    (closed : Blanks text (closing :: rest)) :
    ∃ shorter, closes? closing text = some ⟨(), rest, shorter⟩ := by
  rcases closes?_cases text ink with ⟨-, open'⟩ | ⟨rest', shorter, some, closed'⟩
  · exact absurd closed (open' rest)
  · rcases (closed'.cons_iff ink ink).mp closed with ⟨-, rfl⟩
    exact ⟨shorter, some⟩

theorem Blanks.delimited {text rest : List Char} {first : Char} (blanks : Blanks text (first :: rest))
    (delimiter : first ∈ delimiters) : StartsIn delimiters text :=
  blanks.startsIn_delimiters (.of_cons delimiter rest)

mutual

theorem IsValue.skip {text start rest : List Char} {value : Value} (blanks : Blanks text start) :
    IsValue start value rest → StartsIn delimiters rest →
      Yields (skipValue text : Reading Cause Unit text) () rest
  | .null rest, _ => by
      rcases next?_of_blanks blanks rfl with ⟨_, next⟩
      rw [skipValue, next]
      exact (yields_readName _ _ _ _ _).mpr ⟨rfl, rfl⟩
  | .yes rest, _ => by
      rcases next?_of_blanks blanks rfl with ⟨_, next⟩
      rw [skipValue, next]
      exact (yields_readName _ _ _ _ _).mpr ⟨rfl, rfl⟩
  | .no rest, _ => by
      rcases next?_of_blanks blanks rfl with ⟨_, next⟩
      rw [skipValue, next]
      exact (yields_readName _ _ _ _ _).mpr ⟨rfl, rfl⟩
  | .string spelled, _ => by
      rcases next?_of_blanks blanks rfl with ⟨_, next⟩
      rcases spelled.skipped with ⟨characters, string⟩
      rw [skipValue, next]
      exact (yields_resume _ _ _ _).mpr ((yields_map _ _ _ _).mpr ⟨characters, string, rfl⟩)
  | .number spelled, delimited => by
      rcases spelled.exists_head with ⟨first, tail, rfl, starts⟩
      rcases next?_of_blanks blanks (not_isBlank_of_startsNumber starts) with ⟨_, next⟩
      have number := spelled.read blanks delimited (.malformed : ReadError Cause)
      rw [skipValue, next]
      dsimp only
      split
      all_goals first
        | cases starts
        | exact (yields_if _ _ _ _).mpr (.inl ⟨starts, (yields_map _ _ _ _).mpr ⟨_, number, rfl⟩⟩)
  | .emptyArray close, _ => by
      rcases next?_of_blanks blanks rfl with ⟨_, next⟩
      rcases closes?_eq_some rfl close with ⟨shorter, closed⟩
      rw [skipValue, next]
      simp only [yields_resume, closed, yields_ok, and_self]
  | .array spelled, _ => by
      rcases next?_of_blanks blanks rfl with ⟨_, next⟩
      rw [skipValue, next]
      simp only [yields_resume, closes?_eq_none rfl spelled.not_close]
      exact spelled.skip
  | .emptyObject close, _ => by
      rcases next?_of_blanks blanks rfl with ⟨_, next⟩
      rcases closes?_eq_some rfl close with ⟨shorter, closed⟩
      rw [skipValue, next]
      simp only [yields_resume, closed, yields_ok, and_self]
  | .object spelled, _ => by
      rcases next?_of_blanks blanks rfl with ⟨_, next⟩
      rw [skipValue, next]
      simp only [yields_resume, closes?_eq_none rfl spelled.not_close]
      exact spelled.skip

theorem IsElements.skip {text rest : List Char} {elements : List Value} :
    IsElements text elements rest → Yields (skipElements text : Reading Cause Unit text) () rest
  | .last blanks element close => by
      rw [skipElements]
      refine (element.skip blanks (close.delimited (by decide))).andThen fun _ => ?_
      exact (yields_match_next? _ ']' rfl (by decide) _ _ _ _).mpr (.inr ⟨rfl, close⟩)
  | .more blanks element comma others => by
      rw [skipElements]
      refine (element.skip blanks (comma.delimited (by decide))).andThen fun _ => ?_
      exact (yields_match_next? _ ']' rfl (by decide) _ _ _ _).mpr (.inl ⟨_, comma, others.skip⟩)

theorem IsMembers.skip {text rest : List Char} {members : List (List Piece × Value)} :
    IsMembers text members rest → Yields (skipMembers text : Reading Cause Unit text) () rest
  | .last (.of before key between blanks) member close => by
      rcases key.skipped with ⟨characters, string⟩
      rw [skipMembers]
      refine ((yields_readMark rfl _).mpr before).andThen fun _ => string.andThen fun _ => ?_
      refine ((yields_readMark rfl _).mpr between).andThen fun _ => ?_
      refine (member.skip blanks (close.delimited (by decide))).andThen fun _ => ?_
      exact (yields_match_next? _ '}' rfl (by decide) _ _ _ _).mpr (.inr ⟨rfl, close⟩)
  | .more (.of before key between blanks) member comma others => by
      rcases key.skipped with ⟨characters, string⟩
      rw [skipMembers]
      refine ((yields_readMark rfl _).mpr before).andThen fun _ => string.andThen fun _ => ?_
      refine ((yields_readMark rfl _).mpr between).andThen fun _ => ?_
      refine (member.skip blanks (comma.delimited (by decide))).andThen fun _ => ?_
      exact (yields_match_next? _ '}' rfl (by decide) _ _ _ _).mpr (.inl ⟨_, comma, others.skip⟩)

end

end SourceDiagnostics.Json
