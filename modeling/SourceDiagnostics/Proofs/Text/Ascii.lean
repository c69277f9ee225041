import SourceDiagnostics.Proofs.Text.Utf8

/-!
ASCII in UTF-8. An ASCII byte stands for its character and for nothing else, in well-formed bytes
(`count_encodeChars`) and in any others (`count_items`): a character of several bytes has no ASCII
byte among them, and bytes that form no character are not read as an ASCII one.
-/

namespace SourceDiagnostics.Text.Utf8

def asciiChar (byte : UInt8) : Char :=
  Char.ofNat byte.toNat

theorem utf8EncodeChar_asciiChar {byte : UInt8} (ascii : byte < 0x80) :
    String.utf8EncodeChar (asciiChar byte) = [byte] := by
  have small : byte.toNat < 0x80 := UInt8.lt_iff_toNat_lt.mp ascii
  rw [utf8EncodeChar_eq_one_iff]
  exact ⟨small, toNat_ofNat (.inl (Nat.lt_trans small (by decide)))⟩

theorem asciiChar_inj {left right : UInt8} (ascii : left < 0x80) (ascii' : right < 0x80) :
    asciiChar left = asciiChar right ↔ left = right := by
  constructor
  · intro same
    have encoded := utf8EncodeChar_asciiChar ascii
    rw [same, utf8EncodeChar_asciiChar ascii'] at encoded
    exact (List.singleton_inj.mp encoded).symm
  · exact congrArg asciiChar

theorem eq_asciiChar_of_mem {byte : UInt8} (ascii : byte < 0x80) {character : Char}
    (member : byte ∈ String.utf8EncodeChar character) : character = asciiChar byte := by
  have read : items (String.utf8EncodeChar character) = [some character] := by
    simpa [items, encodeChars] using scan_encodeChars [character]
  rcases List.append_of_mem member with ⟨front, back, split⟩
  rw [split, items_append_ascii front back ascii] at read
  rcases List.append_eq_singleton_iff.mp read with ⟨-, only⟩ | ⟨-, nothing⟩
  · exact (Option.some.inj (List.cons.inj only).left).symm
  · cases nothing

theorem count_utf8EncodeChar {byte : UInt8} (ascii : byte < 0x80) (character : Char) :
    (String.utf8EncodeChar character).count byte = if character = asciiChar byte then 1 else 0 := by
  split
  · next same => rw [same, utf8EncodeChar_asciiChar ascii, List.count_singleton_self]
  · next other => exact List.count_eq_zero.mpr (mt (eq_asciiChar_of_mem ascii) other)

theorem count_encodeChars {byte : UInt8} (ascii : byte < 0x80) (characters : List Char) :
    (encodeChars characters).count byte = characters.count (asciiChar byte) := by
  induction characters with
  | nil => rfl
  | cons character characters induction =>
      have split : encodeChars (character :: characters) =
          String.utf8EncodeChar character ++ encodeChars characters := List.flatMap_cons
      rw [split, List.count_append, count_utf8EncodeChar ascii, induction, List.count_cons,
        Nat.add_comm]
      simp only [beq_iff_eq]

/-! Bytes that need not be well-formed. -/

/-- A state of the machine that some bytes lead to, none of them if nothing is under way: what
forms a character from there on forms it together with these bytes. -/
inductive Reached : Option Pending → Prop
  | initial : Reached none
  | underWay {pending : Pending} (front : Bytes) (nonempty : front ≠ [])
      (leads : ∀ later character, Forms (some pending) later character →
        Forms none (front ++ later) character) : Reached (some pending)

theorem start_cases {byte : UInt8} (other : ¬ byte < 0x80) :
    start byte = ([none], none) ∨ ∃ pending, start byte = ([], some pending) := by
  have large : ¬ byte.toNat < 0x80 := fun small => other (UInt8.lt_iff_toNat_lt.mpr small)
  rcases lead_cases byte with ascii | lead | lead | lead | no_lead
  · exact absurd ascii large
  · exact .inr ⟨_, start_two lead⟩
  · exact .inr ((start_three lead).imp fun _ started => started.left)
  · exact .inr ((start_four lead).imp fun _ started => started.left)
  · exact .inl (start_gap no_lead)

theorem step_of_not_admits {pending : Pending} {byte : UInt8} (outside : ¬ pending.Admits byte) :
    step (some pending) byte = (none :: (start byte).1, (start byte).2) := by
  unfold Pending.Admits at outside
  rw [step, if_neg outside]

theorem Reached.of_start {byte : UInt8} (other : ¬ byte < 0x80) : Reached (start byte).2 := by
  rcases start_cases other with gap | ⟨pending, started⟩
  · rw [gap]
    exact .initial
  · rw [started]
    exact .underWay [byte] (List.cons_ne_nil byte []) fun _ _ forms => .more started forms

theorem not_mem_start {byte : UInt8} (other : ¬ byte < 0x80) (character : Char) :
    some character ∉ (start byte).1 := by
  rcases start_cases other with gap | ⟨pending, started⟩
  · simp [gap]
  · simp [started]

theorem Reached.step {state : Option Pending} (reached : Reached state) {byte : UInt8}
    (other : ¬ byte < 0x80) : Reached (step state byte).2 := by
  cases reached with
  | initial => exact .of_start other
  | @underWay pending front nonempty leads =>
      by_cases admits : pending.Admits byte
      · cases later : pending.later with
        | zero =>
            rw [step_last later admits]
            exact .initial
        | succ more =>
            rw [step_more later admits]
            refine .underWay (front ++ [byte]) (by simp) fun others character forms => ?_
            rw [List.append_assoc]
            exact leads _ _ (.more (step_more later admits) forms)
      · rw [step_of_not_admits admits]
        exact .of_start other

theorem Reached.not_mem_step {state : Option Pending} (reached : Reached state) {byte : UInt8}
    (other : ¬ byte < 0x80) {ascii : UInt8} (small : ascii < 0x80) :
    some (asciiChar ascii) ∉ (Utf8.step state byte).1 := by
  cases reached with
  | initial => exact not_mem_start other _
  | @underWay pending front nonempty leads =>
      by_cases admits : pending.Admits byte
      · cases later : pending.later with
        | zero =>
            rw [step_last later admits, List.mem_singleton, Option.some.injEq]
            intro same
            have encoded := (leads [byte] _ (.last (step_last later admits))).eq_utf8EncodeChar
            rw [← same, utf8EncodeChar_asciiChar small, eq_comm,
              List.append_eq_singleton_iff] at encoded
            exact encoded.elim (fun empty => nonempty empty.left) fun full => nomatch full.right
        | succ more =>
            rw [step_more later admits]
            exact List.not_mem_nil
      · rw [step_of_not_admits admits]
        exact List.not_mem_cons_of_ne_of_not_mem nofun (not_mem_start other _)

theorem count_scan_nil (state : Option Pending) (character : Char) :
    (scan state []).count (some character) = 0 := by
  cases state <;> simp [scan]

theorem count_scan {ascii : UInt8} (small : ascii < 0x80) {state : Option Pending}
    (reached : Reached state) (bytes : Bytes) :
    (scan state bytes).count (some (asciiChar ascii)) = bytes.count ascii := by
  induction bytes generalizing state with
  | nil => exact count_scan_nil state _
  | cons byte bytes induction =>
      rw [scan_cons, List.count_append]
      by_cases small' : byte < 0x80
      · have read : step state byte = (scan state [] ++ [some (asciiChar byte)], none) :=
          step_ascii state small'
        rw [read, List.count_append, count_scan_nil, induction .initial, List.count_singleton,
          List.count_cons, Nat.zero_add, Nat.add_comm]
        simp only [beq_iff_eq, Option.some.injEq, asciiChar_inj small' small]
      · have different : byte ≠ ascii := by
          rintro rfl
          exact small' small
        rw [List.count_eq_zero.mpr (reached.not_mem_step small' small),
          induction (reached.step small'), Nat.zero_add, List.count_cons_of_ne different]

/-- An ASCII character is read as often as its byte is there. -/
theorem count_items {ascii : UInt8} (small : ascii < 0x80) (bytes : Bytes) :
    (items bytes).count (some (asciiChar ascii)) = bytes.count ascii :=
  count_scan small .initial bytes

end SourceDiagnostics.Text.Utf8
