import SourceDiagnostics.Text.Utf8

/-!
A byte list is the encoding of some text just if it is read without a gap, and then it is read as
that text. From wherever the machine is, bytes either form a character, after which nothing is
under way, or they do not; the arithmetic of the encoding comes in only when it is said which bytes
form which character.
-/

namespace SourceDiagnostics.Text.Utf8

/-! The bytes of a character, by their number. -/

theorem toNat_bounds (character : Char) :
    character.toNat < 0xD800 ∨ 0xDFFF < character.toNat ∧ character.toNat < 0x110000 :=
  character.valid

theorem utf8EncodeChar_eq (character : Char) :
    String.utf8EncodeChar character =
      if character.toNat ≤ 0x7F then [UInt8.ofNat character.toNat]
      else if character.toNat ≤ 0x7FF then
        [UInt8.ofNat (character.toNat / 64 % 0x20 + 0xC0), UInt8.ofNat (character.toNat % 64 + 0x80)]
      else if character.toNat ≤ 0xFFFF then
        [UInt8.ofNat (character.toNat / 4096 % 0x10 + 0xE0),
          UInt8.ofNat (character.toNat / 64 % 64 + 0x80), UInt8.ofNat (character.toNat % 64 + 0x80)]
      else
        [UInt8.ofNat (character.toNat / 262144 % 8 + 0xF0),
          UInt8.ofNat (character.toNat / 4096 % 64 + 0x80),
          UInt8.ofNat (character.toNat / 64 % 64 + 0x80),
          UInt8.ofNat (character.toNat % 64 + 0x80)] :=
  rfl

def IsContinuation (byte : UInt8) : Prop :=
  0x80 ≤ byte.toNat ∧ byte.toNat ≤ 0xBF

theorem utf8EncodeChar_eq_one_iff (character : Char) (first : UInt8) :
    String.utf8EncodeChar character = [first] ↔
      first.toNat < 0x80 ∧ character.toNat = first.toNat := by
  rw [utf8EncodeChar_eq]
  generalize character.toNat = number
  constructor
  · intro encoded
    split at encoded
    · simp only [List.cons.injEq, and_true] at encoded
      rw [← encoded, UInt8.toNat_ofNat']
      omega
    · repeat' split at encoded
      all_goals cases encoded
  · rintro ⟨small, rfl⟩
    rw [if_pos (by omega), UInt8.ofNat_toNat]

theorem utf8EncodeChar_eq_two_iff (character : Char) (first second : UInt8) :
    String.utf8EncodeChar character = [first, second] ↔
      (0xC2 ≤ first.toNat ∧ first.toNat < 0xE0) ∧ IsContinuation second ∧
        character.toNat = (first.toNat - 0xC0) * 64 + (second.toNat - 0x80) := by
  rw [utf8EncodeChar_eq, IsContinuation]
  generalize character.toNat = number
  constructor
  · intro encoded
    repeat' split at encoded
    all_goals simp only [List.cons.injEq, and_true, reduceCtorEq, and_false] at encoded
    rcases encoded with ⟨rfl, rfl⟩
    simp only [UInt8.toNat_ofNat']
    omega
  · rintro ⟨lead, continues, same⟩
    rw [if_neg (by omega), if_pos (by omega)]
    simp only [List.cons.injEq, and_true, ← UInt8.toNat_inj, UInt8.toNat_ofNat']
    omega

theorem utf8EncodeChar_eq_three_iff (character : Char) (first second third : UInt8) :
    String.utf8EncodeChar character = [first, second, third] ↔
      (0xE0 ≤ first.toNat ∧ first.toNat < 0xF0) ∧
        (IsContinuation second ∧ (first.toNat = 0xE0 → 0xA0 ≤ second.toNat) ∧
          (first.toNat = 0xED → second.toNat ≤ 0x9F)) ∧ IsContinuation third ∧
        character.toNat = ((first.toNat - 0xE0) * 64 + (second.toNat - 0x80)) * 64 +
          (third.toNat - 0x80) := by
  have bounds := toNat_bounds character
  rw [utf8EncodeChar_eq, IsContinuation, IsContinuation]
  generalize character.toNat = number at *
  constructor
  · intro encoded
    split at encoded
    · cases encoded
    split at encoded
    · cases encoded
    split at encoded
    · simp only [List.cons.injEq, and_true] at encoded
      rcases encoded with ⟨rfl, rfl, rfl⟩
      simp only [UInt8.toNat_ofNat']
      omega
    · cases encoded
  · rintro ⟨lead, continues, continues', same⟩
    rw [if_neg (by omega), if_neg (by omega), if_pos (by omega)]
    simp only [List.cons.injEq, and_true, ← UInt8.toNat_inj, UInt8.toNat_ofNat']
    omega

theorem utf8EncodeChar_eq_four_iff (character : Char) (first second third fourth : UInt8) :
    String.utf8EncodeChar character = [first, second, third, fourth] ↔
      (0xF0 ≤ first.toNat ∧ first.toNat < 0xF5) ∧
        (IsContinuation second ∧ (first.toNat = 0xF0 → 0x90 ≤ second.toNat) ∧
          (first.toNat = 0xF4 → second.toNat ≤ 0x8F)) ∧ IsContinuation third ∧
        IsContinuation fourth ∧
        character.toNat = (((first.toNat - 0xF0) * 64 + (second.toNat - 0x80)) * 64 +
          (third.toNat - 0x80)) * 64 + (fourth.toNat - 0x80) := by
  have bounds := toNat_bounds character
  rw [utf8EncodeChar_eq, IsContinuation, IsContinuation, IsContinuation]
  generalize character.toNat = number at *
  constructor
  · intro encoded
    split at encoded
    · cases encoded
    split at encoded
    · cases encoded
    split at encoded
    · cases encoded
    · simp only [List.cons.injEq, and_true] at encoded
      rcases encoded with ⟨rfl, rfl, rfl, rfl⟩
      simp only [UInt8.toNat_ofNat']
      omega
  · rintro ⟨lead, continues, continues', continues'', same⟩
    rw [if_neg (by omega), if_neg (by omega), if_neg (by omega)]
    simp only [List.cons.injEq, and_true, ← UInt8.toNat_inj, UInt8.toNat_ofNat']
    omega

/-! The states of the machine within a character. -/

theorem least_continuation_above_ascii : (0x80 : UInt8) ≤ 0x80 :=
  UInt8.le_refl 0x80

def continuing (value later : Nat) : Pending :=
  { value, low := 0x80, high := 0xBF, later, above_ascii := least_continuation_above_ascii }

def Pending.Admits (pending : Pending) (byte : UInt8) : Prop :=
  pending.low ≤ byte ∧ byte ≤ pending.high

def Pending.next (pending : Pending) (byte : UInt8) : Nat :=
  pending.value * 64 + (byte.toNat - 0x80)

theorem continuing_admits_iff (value later : Nat) (byte : UInt8) :
    (continuing value later).Admits byte ↔ IsContinuation byte := by
  simp [Pending.Admits, continuing, IsContinuation, UInt8.le_iff_toNat_le]

theorem step_last {pending : Pending} (last : pending.later = 0) {byte : UInt8}
    (admits : pending.Admits byte) :
    step (some pending) byte = ([some (Char.ofNat (pending.next byte))], none) := by
  unfold Pending.Admits at admits
  rw [step, if_pos admits]
  split
  · rfl
  · next more => cases last.symm.trans more

theorem step_more {pending : Pending} {later : Nat} (more : pending.later = later + 1)
    {byte : UInt8} (admits : pending.Admits byte) :
    step (some pending) byte = ([], some (continuing (pending.next byte) later)) := by
  unfold Pending.Admits at admits
  rw [step, if_pos admits]
  split
  · next last => cases more.symm.trans last
  · next same =>
      cases more.symm.trans same
      rfl

theorem none_mem_step {pending : Pending} {byte : UInt8} (outside : ¬ pending.Admits byte) :
    none ∈ (step (some pending) byte).1 := by
  unfold Pending.Admits at outside
  rw [step, if_neg outside]
  exact List.mem_cons_self

/-! What a first byte begins. -/

theorem start_ascii {byte : UInt8} (ascii : byte.toNat < 0x80) :
    start byte = ([some (Char.ofNat byte.toNat)], none) :=
  if_pos (UInt8.lt_iff_toNat_lt.mpr ascii)

theorem start_two {byte : UInt8} (lead : 0xC2 ≤ byte.toNat ∧ byte.toNat < 0xE0) :
    start byte = ([], some (continuing (byte.toNat - 0xC0) 0)) := by
  simp only [start, UInt8.lt_iff_toNat_lt, UInt8.reduceToNat]
  rw [if_neg (by omega), if_neg (by omega), if_pos (by omega)]
  rfl

theorem start_three {byte : UInt8} (lead : 0xE0 ≤ byte.toNat ∧ byte.toNat < 0xF0) :
    ∃ pending : Pending, start byte = ([], some pending) ∧ pending.value = byte.toNat - 0xE0 ∧
      pending.later = 1 ∧ ∀ second, pending.Admits second ↔
        IsContinuation second ∧ (byte.toNat = 0xE0 → 0xA0 ≤ second.toNat) ∧
          (byte.toNat = 0xED → second.toNat ≤ 0x9F) := by
  simp only [start, UInt8.lt_iff_toNat_lt, UInt8.reduceToNat, ← UInt8.toNat_inj]
  rw [if_neg (by omega), if_neg (by omega), if_neg (by omega)]
  simp only [Pending.Admits, IsContinuation, UInt8.le_iff_toNat_le]
  split
  · next same =>
      refine ⟨_, rfl, (by rw [same] : 0 = byte.toNat - 0xE0), rfl, fun second => ?_⟩
      simp only [UInt8.reduceToNat]
      omega
  split
  · next same =>
      refine ⟨_, rfl, (by rw [same] : 0xD = byte.toNat - 0xE0), rfl, fun second => ?_⟩
      simp only [UInt8.reduceToNat]
      omega
  · rw [if_pos lead.right]
    refine ⟨_, rfl, rfl, rfl, fun second => ?_⟩
    simp only [UInt8.reduceToNat]
    omega

theorem start_four {byte : UInt8} (lead : 0xF0 ≤ byte.toNat ∧ byte.toNat < 0xF5) :
    ∃ pending : Pending, start byte = ([], some pending) ∧ pending.value = byte.toNat - 0xF0 ∧
      pending.later = 2 ∧ ∀ second, pending.Admits second ↔
        IsContinuation second ∧ (byte.toNat = 0xF0 → 0x90 ≤ second.toNat) ∧
          (byte.toNat = 0xF4 → second.toNat ≤ 0x8F) := by
  simp only [start, UInt8.lt_iff_toNat_lt, UInt8.reduceToNat, ← UInt8.toNat_inj]
  rw [if_neg (by omega), if_neg (by omega), if_neg (by omega), if_neg (by omega),
    if_neg (by omega), if_neg (by omega)]
  simp only [Pending.Admits, IsContinuation, UInt8.le_iff_toNat_le]
  split
  · next same =>
      refine ⟨_, rfl, (by rw [same] : 0 = byte.toNat - 0xF0), rfl, fun second => ?_⟩
      simp only [UInt8.reduceToNat]
      omega
  split
  · refine ⟨_, rfl, rfl, rfl, fun second => ?_⟩
    simp only [UInt8.reduceToNat]
    omega
  · have same : byte.toNat = 0xF4 := by omega
    rw [if_pos same]
    refine ⟨_, rfl, (by rw [same] : 4 = byte.toNat - 0xF0), rfl, fun second => ?_⟩
    simp only [UInt8.reduceToNat]
    omega

theorem start_gap {byte : UInt8}
    (no_lead : 0x80 ≤ byte.toNat ∧ byte.toNat < 0xC2 ∨ 0xF5 ≤ byte.toNat) :
    start byte = ([none], none) := by
  simp only [start, UInt8.lt_iff_toNat_lt, UInt8.reduceToNat, ← UInt8.toNat_inj]
  rw [if_neg (by omega)]
  by_cases small : byte.toNat < 0xC2
  · rw [if_pos small]
  · rw [if_neg small, if_neg (by omega), if_neg (by omega), if_neg (by omega), if_neg (by omega),
      if_neg (by omega), if_neg (by omega), if_neg (by omega)]

theorem lead_cases (byte : UInt8) :
    byte.toNat < 0x80 ∨ (0xC2 ≤ byte.toNat ∧ byte.toNat < 0xE0) ∨
      (0xE0 ≤ byte.toNat ∧ byte.toNat < 0xF0) ∨ (0xF0 ≤ byte.toNat ∧ byte.toNat < 0xF5) ∨
      (0x80 ≤ byte.toNat ∧ byte.toNat < 0xC2 ∨ 0xF5 ≤ byte.toNat) := by
  omega

/-! From a state of the machine to the end of a character. -/

/-- From a state of the machine on, bytes form one character and no more. -/
inductive Forms : Option Pending → Bytes → Char → Prop
  | last {state : Option Pending} {byte : UInt8} {character : Char}
      (ended : step state byte = ([some character], none)) : Forms state [byte] character
  | more {state : Option Pending} {byte : UInt8} {next : Pending} {later : Bytes}
      {character : Char} (continued : step state byte = ([], some next))
      (others : Forms (some next) later character) : Forms state (byte :: later) character

theorem Forms.cons_iff {state : Option Pending} {byte : UInt8} {bytes : Bytes}
    {character : Char} :
    Forms state (byte :: bytes) character ↔
      step state byte = ([some character], none) ∧ bytes = [] ∨
        ∃ next, step state byte = ([], some next) ∧ Forms (some next) bytes character := by
  constructor
  · rintro (ended | ⟨continued, others⟩)
    · exact .inl ⟨ended, rfl⟩
    · exact .inr ⟨_, continued, others⟩
  · rintro (⟨ended, rfl⟩ | ⟨next, continued, others⟩)
    · exact .last ended
    · exact .more continued others

theorem Forms.scan_append {state : Option Pending} {bytes : Bytes} {character : Char}
    (forms : Forms state bytes character) (rest : Bytes) :
    scan state (bytes ++ rest) = some character :: scan none rest := by
  induction forms with
  | last ended => rw [List.singleton_append, scan_cons, ended, List.singleton_append]
  | more continued _ induction => rw [List.cons_append, scan_cons, continued, List.nil_append, induction]

theorem step_cases (state : Option Pending) (byte : UInt8) :
    (∃ character, step state byte = ([some character], none)) ∨
      (∃ next, step state byte = ([], some next)) ∨ none ∈ (step state byte).1 := by
  cases state with
  | none =>
      rcases lead_cases byte with ascii | lead | lead | lead | no_lead
      · exact .inl ⟨_, start_ascii ascii⟩
      · exact .inr (.inl ⟨_, start_two lead⟩)
      · exact .inr (.inl ((start_three lead).imp fun _ started => started.left))
      · exact .inr (.inl ((start_four lead).imp fun _ started => started.left))
      · refine .inr (.inr ?_)
        rw [step, start_gap no_lead]
        exact List.mem_cons_self
  | some pending =>
      by_cases admits : pending.Admits byte
      · cases later : pending.later with
        | zero => exact .inl ⟨_, step_last later admits⟩
        | succ more => exact .inr (.inl ⟨_, step_more later admits⟩)
      · exact .inr (.inr (none_mem_step admits))

theorem exists_forms_of_scan {state : Option Pending} {bytes : Bytes} {characters : List Char}
    (read : scan state bytes = characters.map some) :
    (state = none ∧ bytes = [] ∧ characters = []) ∨
      ∃ front rest character others, bytes = front ++ rest ∧ Forms state front character ∧
        characters = character :: others ∧ scan none rest = others.map some := by
  -- Byte by byte: the state is what the bytes so far have left under way.
  induction bytes generalizing state with
  | nil =>
      cases state with
      | none => exact .inl ⟨rfl, rfl, List.map_eq_nil_iff.mp read.symm⟩
      | some pending =>
          have gap : none ∈ characters.map some := read ▸ List.mem_singleton_self none
          simp at gap
  | cons byte bytes induction =>
      refine .inr ?_
      rw [scan_cons] at read
      rcases step_cases state byte with ⟨character, ended⟩ | ⟨next, continued⟩ | gap
      · rw [ended] at read
        rcases List.map_eq_cons_iff.mp read.symm with ⟨_, others, rfl, ⟨⟩, rest⟩
        exact ⟨[byte], bytes, character, others, rfl, .last ended, rfl, rest.symm⟩
      · rw [continued, List.nil_append] at read
        rcases induction read with ⟨⟨⟩, -, -⟩ | ⟨front, rest, character, others, rfl, forms, rfl, later⟩
        exact ⟨byte :: front, rest, character, others, rfl, .more continued forms, rfl, later⟩
      · have inside : none ∈ characters.map some := read ▸ List.mem_append_left _ gap
        simp at inside

theorem Forms.admits {pending : Pending} {bytes : Bytes} {character : Char}
    (forms : Forms (some pending) bytes character) :
    ∃ byte others, bytes = byte :: others ∧ pending.Admits byte := by
  have admits {byte : UInt8} (noGap : none ∉ (step (some pending) byte).1) :
      pending.Admits byte :=
    Classical.byContradiction fun outside => noGap (none_mem_step outside)
  cases forms with
  | last ended => exact ⟨_, [], rfl, admits (by simp [ended])⟩
  | more continued => exact ⟨_, _, rfl, admits (by simp [continued])⟩

theorem Forms.of_started {first : UInt8} {pending : Pending} {bytes : Bytes} {character : Char}
    (forms : Forms none (first :: bytes) character) (started : start first = ([], some pending)) :
    Forms (some pending) bytes character := by
  simpa [Forms.cons_iff, step, started] using forms

theorem Forms.of_last {pending : Pending} (last : pending.later = 0) {bytes : Bytes}
    {character : Char} (forms : Forms (some pending) bytes character) :
    ∃ byte, pending.Admits byte ∧ bytes = [byte] ∧
      character = Char.ofNat (pending.next byte) := by
  rcases forms.admits with ⟨byte, others, rfl, admits⟩
  simp only [Forms.cons_iff, step_last last admits, Prod.mk.injEq, List.cons.injEq,
    Option.some.injEq, reduceCtorEq, and_true, false_and, exists_false, or_false] at forms
  rcases forms with ⟨same, rfl⟩
  exact ⟨byte, admits, rfl, same.symm⟩

theorem Forms.of_more {pending : Pending} {later : Nat} (more : pending.later = later + 1)
    {bytes : Bytes} {character : Char} (forms : Forms (some pending) bytes character) :
    ∃ byte others, pending.Admits byte ∧ bytes = byte :: others ∧
      Forms (some (continuing (pending.next byte) later)) others character := by
  rcases forms.admits with ⟨byte, others, rfl, admits⟩
  simp only [Forms.cons_iff, step_more more admits, Prod.mk.injEq, Option.some.injEq,
    reduceCtorEq, false_and, true_and, exists_eq_left', false_or] at forms
  exact ⟨byte, others, admits, rfl, forms⟩

/-! Which bytes form which character. -/

theorem utf8EncodeChar_cases (character : Char) :
    (∃ first, String.utf8EncodeChar character = [first]) ∨
      (∃ first second, String.utf8EncodeChar character = [first, second]) ∨
      (∃ first second third, String.utf8EncodeChar character = [first, second, third]) ∨
      ∃ first second third fourth,
        String.utf8EncodeChar character = [first, second, third, fourth] := by
  rw [utf8EncodeChar_eq]
  repeat' split
  · exact .inl ⟨_, rfl⟩
  · exact .inr (.inl ⟨_, _, rfl⟩)
  · exact .inr (.inr (.inl ⟨_, _, _, rfl⟩))
  · exact .inr (.inr (.inr ⟨_, _, _, _, rfl⟩))

theorem forms_continuing_zero {value : Nat} {byte : UInt8} {character : Char}
    (continues : IsContinuation byte) (same : character.toNat = value * 64 + (byte.toNat - 0x80)) :
    Forms (some (continuing value 0)) [byte] character := by
  have admits := (continuing_admits_iff value 0 byte).mpr continues
  have number : (continuing value 0).next byte = character.toNat := same.symm
  refine .last ((step_last rfl admits).trans ?_)
  rw [number, Char.ofNat_toNat]

theorem forms_utf8EncodeChar (character : Char) :
    Forms none (String.utf8EncodeChar character) character := by
  rcases utf8EncodeChar_cases character with ⟨first, encoded⟩ | ⟨first, second, encoded⟩ |
    ⟨first, second, third, encoded⟩ | ⟨first, second, third, fourth, encoded⟩
  · rcases (utf8EncodeChar_eq_one_iff _ _).mp encoded with ⟨ascii, same⟩
    rw [encoded]
    refine .last ((start_ascii ascii).trans ?_)
    rw [← same, Char.ofNat_toNat]
  · rcases (utf8EncodeChar_eq_two_iff _ _ _).mp encoded with ⟨lead, continues, same⟩
    rw [encoded]
    exact .more (start_two lead) (forms_continuing_zero continues same)
  · rcases (utf8EncodeChar_eq_three_iff _ _ _ _).mp encoded with
      ⟨lead, admits, continues, same⟩
    rcases start_three lead with ⟨pending, started, value, later, admitted⟩
    rw [encoded]
    refine .more started (.more (step_more later ((admitted second).mpr admits)) ?_)
    rw [← value] at same
    exact forms_continuing_zero continues same
  · rcases (utf8EncodeChar_eq_four_iff _ _ _ _ _).mp encoded with
      ⟨lead, admits, continues, continues', same⟩
    rcases start_four lead with ⟨pending, started, value, later, admitted⟩
    rw [encoded]
    refine .more started (.more (step_more later ((admitted second).mpr admits)) ?_)
    refine .more (step_more rfl ((continuing_admits_iff _ _ third).mpr continues)) ?_
    rw [← value] at same
    exact forms_continuing_zero continues' same

theorem toNat_ofNat {number : Nat}
    (valid : number < 0xD800 ∨ 0xDFFF < number ∧ number < 0x110000) :
    (Char.ofNat number).toNat = number := by
  rw [Char.ofNat, dif_pos valid]
  rfl

theorem continuing_next (value later : Nat) (byte : UInt8) :
    (continuing value later).next byte = value * 64 + (byte.toNat - 0x80) :=
  rfl

section Sequences

variable {first : UInt8} {bytes : Bytes} {character : Char}

theorem Forms.encodes_two (forms : Forms none (first :: bytes) character)
    (lead : 0xC2 ≤ first.toNat ∧ first.toNat < 0xE0) :
    String.utf8EncodeChar character = first :: bytes := by
  have others := forms.of_started (start_two lead)
  rcases others.of_last rfl with ⟨second, admits, rfl, same⟩
  have continues := (continuing_admits_iff _ _ _).mp admits
  rw [utf8EncodeChar_eq_two_iff]
  refine ⟨lead, continues, ?_⟩
  rw [IsContinuation] at continues
  rw [same, continuing_next, toNat_ofNat]
  omega

theorem Forms.encodes_three (forms : Forms none (first :: bytes) character)
    (lead : 0xE0 ≤ first.toNat ∧ first.toNat < 0xF0) :
    String.utf8EncodeChar character = first :: bytes := by
  rcases start_three lead with ⟨pending, started, value, later, admitted⟩
  rcases (forms.of_started started).of_more later with ⟨second, rest, admits, rfl, others⟩
  rcases others.of_last rfl with ⟨third, admits', rfl, same⟩
  have range := (admitted second).mp admits
  have continues := (continuing_admits_iff _ _ _).mp admits'
  rw [utf8EncodeChar_eq_three_iff]
  refine ⟨lead, range, continues, ?_⟩
  have number : pending.next second = (first.toNat - 0xE0) * 64 + (second.toNat - 0x80) := by
    rw [← value]
    rfl
  rw [IsContinuation] at continues range
  rw [same, continuing_next, number, toNat_ofNat]
  omega

theorem Forms.encodes_four (forms : Forms none (first :: bytes) character)
    (lead : 0xF0 ≤ first.toNat ∧ first.toNat < 0xF5) :
    String.utf8EncodeChar character = first :: bytes := by
  rcases start_four lead with ⟨pending, started, value, later, admitted⟩
  rcases (forms.of_started started).of_more later with ⟨second, rest, admits, rfl, others⟩
  have oneLater : (continuing (pending.next second) 1).later = 0 + 1 := rfl
  rcases others.of_more oneLater with ⟨third, rest, admits', rfl, lastOnes⟩
  rcases lastOnes.of_last rfl with ⟨fourth, admits'', rfl, same⟩
  have range := (admitted second).mp admits
  have continues := (continuing_admits_iff _ _ _).mp admits'
  have continues' := (continuing_admits_iff _ _ _).mp admits''
  rw [utf8EncodeChar_eq_four_iff]
  refine ⟨lead, range, continues, continues', ?_⟩
  have number : pending.next second = (first.toNat - 0xF0) * 64 + (second.toNat - 0x80) := by
    rw [← value]
    rfl
  rw [IsContinuation] at continues continues' range
  rw [same, continuing_next, continuing_next, number, toNat_ofNat]
  omega

theorem Forms.encodes_ascii (forms : Forms none (first :: bytes) character)
    (ascii : first.toNat < 0x80) : String.utf8EncodeChar character = first :: bytes := by
  simp only [Forms.cons_iff, step, start_ascii ascii, Prod.mk.injEq, List.cons.injEq,
    Option.some.injEq, reduceCtorEq, and_true, false_and, exists_false, or_false] at forms
  rcases forms with ⟨same, rfl⟩
  rw [utf8EncodeChar_eq_one_iff, ← same]
  exact ⟨ascii, toNat_ofNat (.inl (Nat.lt_trans ascii (by decide)))⟩

theorem not_forms_gap
    (no_lead : 0x80 ≤ first.toNat ∧ first.toNat < 0xC2 ∨ 0xF5 ≤ first.toNat) :
    ¬ Forms none (first :: bytes) character := by
  simp [Forms.cons_iff, step, start_gap no_lead]

end Sequences

theorem Forms.eq_utf8EncodeChar {bytes : Bytes} {character : Char}
    (forms : Forms none bytes character) : String.utf8EncodeChar character = bytes := by
  cases bytes with
  | nil => cases forms
  | cons first bytes =>
      rcases lead_cases first with ascii | lead | lead | lead | no_lead
      · exact forms.encodes_ascii ascii
      · exact forms.encodes_two lead
      · exact forms.encodes_three lead
      · exact forms.encodes_four lead
      · exact absurd forms (not_forms_gap no_lead)

/-! Texts. -/

theorem scan_encodeChars (characters : List Char) :
    scan none (encodeChars characters) = characters.map some := by
  induction characters with
  | nil => rfl
  | cons character characters induction =>
      have split : encodeChars (character :: characters) =
          String.utf8EncodeChar character ++ encodeChars characters := List.flatMap_cons
      rw [split, (forms_utf8EncodeChar character).scan_append, induction, List.map_cons]

theorem eq_encodeChars_of_scan {bytes : Bytes} {characters : List Char}
    (read : scan none bytes = characters.map some) : bytes = encodeChars characters := by
  induction characters generalizing bytes with
  | nil =>
      rcases exists_forms_of_scan read with ⟨-, rfl, -⟩ | ⟨_, _, _, _, -, -, ⟨⟩, -⟩
      rfl
  | cons character characters induction =>
      rcases exists_forms_of_scan read with ⟨-, -, ⟨⟩⟩ | ⟨front, rest, _, _, rfl, forms, ⟨⟩, later⟩
      rw [← forms.eq_utf8EncodeChar, induction later]
      rfl

theorem eq_map_some_of_mapM {items : List Item} {characters : List Char}
    (gathered : items.mapM id = some characters) : items = characters.map some := by
  induction items generalizing characters with
  | nil =>
      cases gathered
      rfl
  | cons item items induction =>
      simp only [List.mapM_cons, id, Option.bind_eq_bind, Option.pure_def,
        Option.bind_eq_some_iff, Option.some.injEq] at gathered
      rcases gathered with ⟨character, rfl, others, gathered, rfl⟩
      rw [induction gathered, List.map_cons]

/-- Bytes are read strictly as a text if and only if they are its encoding. -/
theorem decode?_eq_some_iff (bytes : Bytes) (text : String) :
    decode? bytes = some text ↔ bytes = encode text := by
  constructor
  · intro decoded
    rcases Option.map_eq_some_iff.mp decoded with ⟨characters, gathered, rfl⟩
    rw [encode, String.toList_ofList]
    exact eq_encodeChars_of_scan (eq_map_some_of_mapM gathered)
  · rintro rfl
    have gathered : (text.toList.map some).mapM id = some text.toList := by
      rw [List.mapM_map]
      exact List.mapM_pure.trans (congrArg some (List.map_id' text.toList))
    rw [decode?, items, encode, scan_encodeChars, gathered, Option.map_some, String.ofList_toList]

theorem encode_inj {left right : String} : encode left = encode right ↔ left = right := by
  refine ⟨fun same => ?_, congrArg encode⟩
  have decoded := (decode?_eq_some_iff (encode left) left).mpr rfl
  rw [same, (decode?_eq_some_iff (encode right) right).mpr rfl] at decoded
  exact (Option.some.inj decoded).symm

end SourceDiagnostics.Text.Utf8
