import Mathlib.Data.List.Nodup
import SourceDiagnostics.Proofs.Json.Scalars

/-!
The shape of a record. A value gives some of its fields, an object by name and an array by
position; a field that is given holds what its value says, and every other field holds its default.
The readers go through a text and change the record step by step, so their work is said first in
terms of what is given from some point on: that is filled into the record as it is by then.
-/

namespace SourceDiagnostics.Json

def valuesOf (members : List (List Piece × Value)) (name : String) : List Value :=
  (members.filter fun member => Piece.Spells member.1 name).map Prod.snd

def valuesAt (names : List String) (elements : List Value) (name : String) : List Value :=
  ((names.zip elements).lookup name).toList

/-- A value gives values for some of the names: an object by its keys, each of which has to spell a
text, and an array by position, where there may be fewer values than names but not more. -/
inductive Gives (names : List String) : Value → (String → List Value) → Prop
  | object {members : List (List Piece × Value)}
      (keys : ∀ member ∈ members, ∃ key, Piece.Spells member.1 key) :
      Gives names (.object members) (valuesOf members)
  | array {elements : List Value} (few : elements.length ≤ names.length) :
      Gives names (.array elements) (valuesAt names elements)

/-- What a field holds: what the one value given for it says, or else its default. -/
inductive Holds {α : Type} (Shape : Value → α → Prop) (default : α) : List Value → α → Prop
  | absent : Holds Shape default [] default
  | given {value : Value} {result : α} (fits : Shape value result) :
      Holds Shape default [value] result

/-- A part of a record: its name, how it is read, which values it takes, and where in the record
its content is. -/
structure Part (ρ : Type) where
  name : String
  Content : Type
  read : (input : List Char) → Reading Mismatch Content input
  Shape : Value → Content → Prop
  get : ρ → Content
  put : Content → ρ → ρ
  reads : Reads read Shape
  get_put : ∀ content record, get (put content record) = content

/-- A record type as a list of parts that do not overlap and leave nothing out. -/
structure Layout (ρ : Type) where
  title : String
  parts : List (Part ρ)
  blank : ρ
  distinct : (parts.map Part.name).Nodup
  apart : ∀ part ∈ parts, ∀ other ∈ parts, part.name ≠ other.name →
    ∀ content record, part.get (other.put content record) = part.get record
  whole : ∀ record record', (∀ part ∈ parts, part.get record = part.get record') → record = record'

namespace Layout

variable {ρ : Type} (layout : Layout ρ)

def field (part : Part ρ) : Field ρ :=
  .of part.name part.read part.put

def format : RecordFormat ρ where
  title := layout.title
  fields := layout.parts.map field
  blank := layout.blank

/-- What is given, when filled into a record, makes it the result: each part holds what is given
for it. -/
def Fills (record : ρ) (given : String → List Value) (result : ρ) : Prop :=
  ∀ part ∈ layout.parts, Holds part.Shape (part.get record) (given part.name) (part.get result)

def Shape (value : Value) (result : ρ) : Prop :=
  ∃ given, Gives (layout.parts.map Part.name) value given ∧ layout.Fills layout.blank given result

variable {layout}

theorem eq_of_name_eq {part other : Part ρ} (member : part ∈ layout.parts)
    (otherMember : other ∈ layout.parts) (same : part.name = other.name) : part = other :=
  List.inj_on_of_nodup_map layout.distinct member otherMember same

theorem holds_nil_iff {α : Type} {Shape : Value → α → Prop} {default result : α} :
    Holds Shape default [] result ↔ result = default := by
  constructor
  · rintro ⟨⟩
    rfl
  · rintro rfl
    exact .absent

theorem holds_cons_iff {α : Type} {Shape : Value → α → Prop} {default result : α} {value : Value}
    {others : List Value} :
    Holds Shape default (value :: others) result ↔ others = [] ∧ Shape value result := by
  constructor
  · rintro (_ | fits)
    exact ⟨rfl, fits⟩
  · rintro ⟨rfl, fits⟩
    exact .given fits

theorem fills_nil_iff {record result : ρ} {given : String → List Value}
    (nothing : ∀ part ∈ layout.parts, given part.name = []) :
    layout.Fills record given result ↔ result = record := by
  constructor
  · intro fills
    refine layout.whole result record fun part member => ?_
    have holds := fills part member
    rw [nothing part member] at holds
    exact holds_nil_iff.mp holds
  · rintro rfl part member
    rw [nothing part member]
    exact .absent

theorem fills_cons_iff {record result : ρ} {given : String → List Value}
    (others : String → List Value) {part : Part ρ} {value : Value} (member : part ∈ layout.parts)
    (this : given part.name = value :: others part.name)
    (rest : ∀ other ∈ layout.parts, other.name ≠ part.name → given other.name = others other.name) :
    layout.Fills record given result ↔
      others part.name = [] ∧
        ∃ content, part.Shape value content ∧ layout.Fills (part.put content record) others result := by
  constructor
  · intro fills
    have holds := fills part member
    rw [this, holds_cons_iff] at holds
    rcases holds with ⟨nothing, fits⟩
    refine ⟨nothing, part.get result, fits, fun other otherMember => ?_⟩
    by_cases same : other.name = part.name
    · cases eq_of_name_eq otherMember member same
      rw [nothing, part.get_put]
      exact .absent
    · have holds := fills other otherMember
      rwa [rest other otherMember same,
        ← layout.apart other otherMember part member same (part.get result) record] at holds
  · rintro ⟨nothing, content, fits, fills⟩ other otherMember
    have holds := fills other otherMember
    by_cases same : other.name = part.name
    · cases eq_of_name_eq otherMember member same
      rw [nothing, part.get_put, holds_nil_iff] at holds
      rw [this, nothing, holds]
      exact .given fits
    · rw [layout.apart other otherMember part member same] at holds
      rwa [rest other otherMember same]

theorem yields_field (part : Part ρ) (text : List Char) (update : ρ → ρ) (rest : List Char) :
    Yields ((field part).read text) update rest ↔
      ∃ content, Yields (part.read text) content rest ∧ part.put content = update := by
  simp only [field, Field.of, yields_bind_taken, yields_pure, Taken.map]
  constructor
  · rintro ⟨content, _, read, _, same, rfl⟩
    exact ⟨content, read, same⟩
  · rintro ⟨content, read, same⟩
    exact ⟨content, rest, read, read.shorter, same, rfl⟩

/-! Arrays. -/

inductive IsRest : (isFirst : Bool) → (text : List Char) → (elements : List Value) →
    (rest : List Char) → Prop
  | close {isFirst : Bool} {text rest : List Char} (close : Blanks text (']' :: rest)) :
      IsRest isFirst text [] rest
  | first {text rest : List Char} {elements : List Value}
      (spelled : IsElements text elements rest) : IsRest true text elements rest
  | later {text later rest : List Char} {elements : List Value} (comma : Blanks text (',' :: later))
      (spelled : IsElements later elements rest) : IsRest false text elements rest

theorem isElements_cons_iff {text rest : List Char} {value : Value} {elements : List Value} :
    IsElements text (value :: elements) rest ↔
      ∃ start after, Blanks text start ∧ IsValue start value after ∧
        IsRest false after elements rest := by
  constructor
  · rintro (⟨blanks, element, close⟩ | ⟨blanks, element, comma, others⟩)
    · exact ⟨_, _, blanks, element, .close close⟩
    · exact ⟨_, _, blanks, element, .later comma others⟩
  · rintro ⟨start, after, blanks, element, close | _ | ⟨comma, others⟩⟩
    · exact .last blanks element close
    · exact .more blanks element comma others

theorem IsRest.delimited {text rest : List Char} {elements : List Value}
    (left : IsRest false text elements rest) : StartsIn delimiters text := by
  cases left with
  | close close => exact close.delimited (by decide)
  | later comma => exact comma.delimited (by decide)

theorem valuesAt_nil (names : List String) (name : String) : valuesAt names [] name = [] := by
  simp [valuesAt]

theorem valuesAt_of_not_mem {names : List String} (elements : List Value) {name : String}
    (other : name ∉ names) : valuesAt names elements name = [] := by
  have missing : (names.zip elements).lookup name = none := by
    rw [List.lookup_eq_none_iff]
    intro pair member
    have differ : name ≠ pair.1 := fun same => other (same ▸ (List.of_mem_zip member).left)
    simpa using differ
  rw [valuesAt, missing, Option.toList_none]

theorem valuesAt_head (name : String) (names : List String) (value : Value)
    (elements : List Value) : valuesAt (name :: names) (value :: elements) name = [value] := by
  simp [valuesAt]

theorem valuesAt_tail {name head : String} (other : name ≠ head) (names : List String)
    (value : Value) (elements : List Value) :
    valuesAt (head :: names) (value :: elements) name = valuesAt names elements name := by
  have differ : (name == head) = false := beq_false_of_ne other
  simp [valuesAt, List.lookup_cons, differ]

theorem fills_valuesAt_cons_iff {record result : ρ} {part : Part ρ} {names : List String}
    {value : Value} {elements : List Value} (member : part ∈ layout.parts)
    (distinct : part.name ∉ names) :
    layout.Fills record (valuesAt (part.name :: names) (value :: elements)) result ↔
      ∃ content, part.Shape value content ∧
        layout.Fills (part.put content record) (valuesAt names elements) result := by
  have absent := valuesAt_of_not_mem elements distinct
  have head : valuesAt (part.name :: names) (value :: elements) part.name =
      value :: valuesAt names elements part.name := by
    rw [valuesAt_head, absent]
  rw [fills_cons_iff (valuesAt names elements) member head fun other _ apart =>
    valuesAt_tail apart names value elements]
  exact and_iff_right absent

theorem exists_rest_of_readElements {isFirst : Bool} {parts : List (Part ρ)} {record result : ρ}
    {text rest : List Char} (subset : parts ⊆ layout.parts)
    (distinct : (parts.map Part.name).Nodup)
    (yields : Yields (readElements isFirst record (parts.map field) text) result rest) :
    ∃ elements, IsRest isFirst text elements rest ∧ elements.length ≤ parts.length ∧
      layout.Fills record (valuesAt (parts.map Part.name) elements) result := by
  induction parts generalizing isFirst record text with
  | nil =>
      rw [List.map_nil, readElements, yields_map] at yields
      rcases yields with ⟨_, close, rfl⟩
      refine ⟨[], .close ((yields_readMark rfl _).mp close), Nat.le_refl _, ?_⟩
      exact (fills_nil_iff fun part _ => valuesAt_nil [] part.name).mpr rfl
  | cons part parts induction =>
      rcases List.cons_subset.mp subset with ⟨member, laterSubset⟩
      rcases List.nodup_cons.mp distinct with ⟨headDistinct, laterDistinct⟩
      -- An element is read alike at the start of an array and behind a comma.
      have element {start : List Char} (read : Yields
          (andThen ((field part).read start) fun store unread _ =>
            readElements false (store record) (parts.map field) unread) result rest) :
          ∃ elements, IsElements start elements rest ∧ elements.length ≤ (part :: parts).length ∧
            layout.Fills record (valuesAt ((part :: parts).map Part.name) elements) result := by
        rw [yields_andThen] at read
        rcases read with ⟨store, unread, stored, _, others⟩
        rcases (yields_field part _ _ _).mp stored with ⟨content, contentRead, rfl⟩
        rcases part.reads.sound contentRead with ⟨start, value, blanks, spelled, fits⟩
        rcases induction laterSubset laterDistinct others with ⟨elements, left, few, fills⟩
        exact ⟨value :: elements, isElements_cons_iff.mpr ⟨start, unread, blanks, spelled, left⟩,
          Nat.succ_le_succ few, (fills_valuesAt_cons_iff member headDistinct).mpr ⟨content, fits, fills⟩⟩
      rw [List.map_cons, readElements] at yields
      rcases next?_cases text with ⟨next, ended⟩ | ⟨first, after, shorter, next, blanks, ink⟩
      · rw [next] at yields
        exact absurd yields (not_yields_error _ _ _)
      · rw [next] at yields
        simp only [yields_if, yields_ok, yields_resume, not_yields_error, and_false, or_false]
          at yields
        rcases yields with ⟨rfl, rfl, rfl⟩ | ⟨_, ⟨rfl, read⟩ | ⟨notFirst, rfl, read⟩⟩
        · exact ⟨[], .close blanks, Nat.zero_le _,
            (fills_nil_iff fun part _ => valuesAt_nil _ part.name).mpr rfl⟩
        · rcases element read with ⟨elements, spelled, few, fills⟩
          exact ⟨elements, .first spelled, few, fills⟩
        · rcases element read with ⟨elements, spelled, few, fills⟩
          rw [Bool.not_eq_true] at notFirst
          exact ⟨elements, notFirst ▸ .later blanks spelled, few, fills⟩

theorem IsRest.yields_readElements {isFirst : Bool} {parts : List (Part ρ)} {record result : ρ}
    {text rest : List Char} {elements : List Value} (subset : parts ⊆ layout.parts)
    (distinct : (parts.map Part.name).Nodup) (left : IsRest isFirst text elements rest)
    (few : elements.length ≤ parts.length)
    (fills : layout.Fills record (valuesAt (parts.map Part.name) elements) result) :
    Yields (readElements isFirst record (parts.map field) text) result rest := by
  induction parts generalizing isFirst record text elements with
  | nil =>
      cases List.length_eq_zero_iff.mp (Nat.le_zero.mp few)
      cases (fills_nil_iff fun part _ => valuesAt_nil [] part.name).mp fills
      rcases left with close | ⟨⟨⟩⟩ | ⟨_, ⟨⟩⟩
      rw [List.map_nil, readElements, yields_map]
      exact ⟨(), (yields_readMark rfl _).mpr close, rfl⟩
  | cons part parts induction =>
      rcases List.cons_subset.mp subset with ⟨member, laterSubset⟩
      rcases List.nodup_cons.mp distinct with ⟨headDistinct, laterDistinct⟩
      have element {start : List Char} (spelled : IsElements start elements rest) : Yields
          (andThen ((field part).read start) fun store unread _ =>
            readElements false (store record) (parts.map field) unread) result rest := by
        cases elements with
        | nil => cases spelled
        | cons value elements =>
            rcases isElements_cons_iff.mp spelled with ⟨_, after, blanks, spelled, left⟩
            rcases (fills_valuesAt_cons_iff member headDistinct).mp fills with
              ⟨content, fits, others⟩
            have read := part.reads.complete blanks spelled left.delimited fits
            refine ((yields_field part _ _ _).mpr ⟨content, read, rfl⟩).andThen fun _ => ?_
            exact induction laterSubset laterDistinct left (Nat.le_of_succ_le_succ few) others
      rw [List.map_cons, readElements]
      cases left with
      | close close =>
          cases (fills_nil_iff fun part _ => valuesAt_nil _ part.name).mp fills
          rcases next?_of_blanks close rfl with ⟨_, next⟩
          simp [next]
      | first spelled =>
          rcases spelled.exists_head with ⟨first, after, blanks, ink, open'⟩
          rcases next?_of_blanks blanks ink with ⟨_, next⟩
          simp [next, open', element spelled]
      | later comma spelled =>
          rcases next?_of_blanks comma rfl with ⟨_, next⟩
          simp [next, element spelled]

/-! Objects. -/

/-- What a member does to a record, and which names have been given after it: nothing if its key
names no part, and otherwise it puts in its value for a part that has not been given before. -/
inductive TakesIn (layout : Layout ρ) (given : List String) (record : ρ) (key : String)
    (value : Value) : List String × ρ → Prop
  | unknown (other : key ∉ layout.parts.map Part.name) :
      TakesIn layout given record key value (given, record)
  | known {part : Part ρ} {content : part.Content} (member : part ∈ layout.parts)
      (named : part.name = key) (new : key ∉ given) (fits : part.Shape value content) :
      TakesIn layout given record key value (key :: given, part.put content record)

theorem find?_fields_eq_none {key : String} (other : key ∉ layout.parts.map Part.name) :
    (layout.parts.map field).find? (·.name == key) = none := by
  rw [List.find?_eq_none]
  intro known member same
  rcases List.mem_map.mp member with ⟨part, partMember, rfl⟩
  exact other (List.mem_map.mpr ⟨part, partMember, eq_of_beq same⟩)

theorem find?_fields_eq_some {part : Part ρ} (member : part ∈ layout.parts) :
    (layout.parts.map field).find? (·.name == part.name) = some (field part) := by
  cases found : (layout.parts.map field).find? (·.name == part.name) with
  | none =>
      have differs := List.find?_eq_none.mp found (field part) (List.mem_map_of_mem member)
      exact absurd (beq_self_eq_true part.name) differs
  | some other =>
      rcases List.mem_map.mp (List.mem_of_find?_eq_some found) with ⟨part', otherMember, rfl⟩
      have same := List.find?_some found
      rw [eq_of_name_eq otherMember member (eq_of_beq same)]

theorem exists_member_of_readMember {given : List String} {record : ρ}
    {result : List String × ρ} {text rest : List Char}
    (yields : Yields (readMember (layout.parts.map field) given record text) result rest) :
    ∃ pieces start value key, IsKey text pieces start ∧ IsValue start value rest ∧
      Piece.Spells pieces key ∧ TakesIn layout given record key value result := by
  simp only [readMember, yields_andThen] at yields
  rcases yields with ⟨_, quoted, quote, _, characters, named, string, _, yields⟩
  rcases (yields_readString_asText _ _ _).mp string with ⟨pieces, spelled, spells⟩
  have before := (yields_readMark rfl _).mp quote
  have key : Piece.Spells pieces (String.ofList characters) := by
    rw [Piece.Spells, spells, String.toList_ofList]
  by_cases known : String.ofList characters ∈ layout.parts.map Part.name
  · rcases List.mem_map.mp known with ⟨part, member, same⟩
    rw [← same, find?_fields_eq_some member] at yields
    simp only [yields_if, not_yields_error, and_false, false_or, yields_andThen, yields_map,
      yields_field] at yields
    rcases yields with ⟨new, _, assigned, colon, _, _, ⟨content, read, rfl⟩, rfl⟩
    rcases part.reads.sound read with ⟨start, value, after, element, fits⟩
    refine ⟨pieces, start, value, _,
      .of before spelled ((yields_readMark rfl _).mp colon) after, element, key, ?_⟩
    rw [same] at new ⊢
    exact .known member same (fun given => new (List.contains_iff_mem.mpr given)) fits
  · rw [find?_fields_eq_none known] at yields
    simp only [yields_andThen, yields_map] at yields
    rcases yields with ⟨_, assigned, colon, _, _, skipped, rfl⟩
    rcases isValue_of_skipValue skipped with ⟨start, value, after, element⟩
    exact ⟨pieces, start, value, _,
      .of before spelled ((yields_readMark rfl _).mp colon) after, element, key, .unknown known⟩

theorem yields_readMember {given : List String} {record : ρ} {result : List String × ρ}
    {text start rest : List Char} {pieces : List Piece} {value : Value} {key : String}
    (spelledKey : IsKey text pieces start) (spelled : IsValue start value rest)
    (delimited : StartsIn delimiters rest) (spells : Piece.Spells pieces key)
    (takes : TakesIn layout given record key value result) :
    Yields (readMember (layout.parts.map field) given record text) result rest := by
  rcases spelledKey with ⟨before, key, between, after⟩
  rw [readMember]
  refine ((yields_readMark rfl _).mpr before).andThen fun _ => ?_
  refine ((yields_readString_asText _ _ _).mpr ⟨pieces, key, spells⟩).andThen fun _ => ?_
  simp only [String.ofList_toList]
  cases takes with
  | unknown other =>
      rw [find?_fields_eq_none other]
      refine ((yields_readMark rfl _).mpr between).andThen fun _ => ?_
      exact (yields_map _ _ _ _).mpr ⟨(), spelled.skip after delimited, rfl⟩
  | @known part content member named new fits =>
      cases named
      rw [find?_fields_eq_some member]
      refine (yields_if _ _ _ _).mpr (.inr ⟨fun old => new (List.contains_iff_mem.mp old), ?_⟩)
      refine ((yields_readMark rfl _).mpr between).andThen fun _ => ?_
      exact (yields_map _ _ _ _).mpr ⟨_, (yields_field part _ _ _).mpr
        ⟨content, part.reads.complete after spelled delimited fits, rfl⟩, rfl⟩

theorem valuesOf_same {pieces : List Piece} {key : String} (spells : Piece.Spells pieces key)
    (value : Value) (members : List (List Piece × Value)) :
    valuesOf ((pieces, value) :: members) key = value :: valuesOf members key := by
  simp [valuesOf, spells]

theorem valuesOf_other {pieces : List Piece} {key name : String}
    (spells : Piece.Spells pieces key) (other : name ≠ key) (value : Value)
    (members : List (List Piece × Value)) :
    valuesOf ((pieces, value) :: members) name = valuesOf members name := by
  have silent : ¬ Piece.Spells pieces name := fun also => other (also.unique spells)
  simp [valuesOf, silent]

theorem valuesOf_unknown {pieces : List Piece} {key : String} (spells : Piece.Spells pieces key)
    (other : key ∉ layout.parts.map Part.name) (value : Value)
    (members : List (List Piece × Value)) (part : Part ρ) (member : part ∈ layout.parts) :
    valuesOf ((pieces, value) :: members) part.name = valuesOf members part.name :=
  valuesOf_other spells (fun same => other (same ▸ List.mem_map_of_mem member)) value members

/-- The members that are left of an object make a record the result: their keys are texts, none of
them is given for a second time, and what they give is filled in. -/
structure Completes (layout : Layout ρ) (given : List String) (record : ρ)
    (members : List (List Piece × Value)) (result : ρ) : Prop where
  keys : ∀ member ∈ members, ∃ key, Piece.Spells member.1 key
  once : ∀ part ∈ layout.parts, part.name ∈ given → valuesOf members part.name = []
  fills : layout.Fills record (valuesOf members) result

theorem completes_nil_iff {given : List String} {record result : ρ} :
    Completes layout given record [] result ↔ result = record := by
  have nothing : ∀ part ∈ layout.parts, valuesOf [] part.name = [] := fun _ _ => rfl
  constructor
  · exact fun completes => (fills_nil_iff nothing).mp completes.fills
  · exact fun same => ⟨nofun, fun part member _ => nothing part member, (fills_nil_iff nothing).mpr same⟩

theorem completes_cons_iff {given : List String} {record result : ρ} {pieces : List Piece}
    {value : Value} {members : List (List Piece × Value)} :
    Completes layout given record ((pieces, value) :: members) result ↔
      ∃ key taken, Piece.Spells pieces key ∧ TakesIn layout given record key value taken ∧
        Completes layout taken.1 taken.2 members result := by
  constructor
  · rintro ⟨keys, once, fills⟩
    rcases List.forall_mem_cons.mp keys with ⟨⟨key, spells⟩, laterKeys⟩
    by_cases known : key ∈ layout.parts.map Part.name
    · rcases List.mem_map.mp known with ⟨part, member, rfl⟩
      rcases (fills_cons_iff (valuesOf members) member (valuesOf_same spells value members)
        fun other _ differs => valuesOf_other spells differs value members).mp fills with
        ⟨nothing, content, fits, laterFills⟩
      -- Nothing is left for a name that was given before, but here is a value for this one.
      have new : part.name ∉ given := fun old => by
        have none := once part member old
        rw [valuesOf_same spells] at none
        cases none
      refine ⟨part.name, _, spells, .known member rfl new fits, laterKeys, ?_, laterFills⟩
      intro other otherMember old
      by_cases same : other.name = part.name
      · rw [same, nothing]
      · rw [← valuesOf_other spells same value]
        exact once other otherMember ((List.mem_cons.mp old).resolve_left same)
    · have same := valuesOf_unknown spells known value members
      refine ⟨key, _, spells, .unknown known, laterKeys, fun part member old => ?_,
        fun part member => ?_⟩
      · rw [← same part member]
        exact once part member old
      · rw [← same part member]
        exact fills part member
  · rintro ⟨key, taken, spells, takes, laterKeys, once, fills⟩
    have keys : ∀ member ∈ (pieces, value) :: members, ∃ key, Piece.Spells member.1 key :=
      List.forall_mem_cons.mpr ⟨⟨key, spells⟩, laterKeys⟩
    cases takes with
    | unknown other =>
        have same := valuesOf_unknown spells other value members
        refine ⟨keys, fun part member old => ?_, fun part member => ?_⟩
        · rw [same part member]
          exact once part member old
        · rw [same part member]
          exact fills part member
    | @known part content member named new fits =>
        cases named
        refine ⟨keys, fun other otherMember old => ?_, ?_⟩
        · have differs : other.name ≠ part.name := fun same => new (same ▸ old)
          rw [valuesOf_other spells differs]
          exact once other otherMember (List.mem_cons_of_mem _ old)
        · have nothing := once part member List.mem_cons_self
          exact (fills_cons_iff (valuesOf members) member (valuesOf_same spells value members)
            fun other _ differs => valuesOf_other spells differs value members).mpr
            ⟨nothing, content, fits, fills⟩

theorem exists_members_of_readMembers {given : List String} {record result : ρ}
    {text rest : List Char}
    (yields : Yields (readMembers (layout.parts.map field) given record text) result rest) :
    ∃ members, IsMembers text members rest ∧ Completes layout given record members result := by
  rw [readMembers, yields_andThen] at yields
  rcases yields with ⟨taken, after, read, shorter, yields⟩
  rcases exists_member_of_readMember read with ⟨pieces, start, value, key, spelledKey, member,
    spells, takes⟩
  rcases (yields_match_next? after '}' rfl (by decide) _ _ _ _).mp yields with
    ⟨later, comma, others⟩ | ⟨same, close⟩
  · have inside := shorter_of_blanks comma
    rcases exists_members_of_readMembers others with ⟨members, spelled, completes⟩
    exact ⟨_, .more spelledKey member comma spelled,
      completes_cons_iff.mpr ⟨key, taken, spells, takes, completes⟩⟩
  · exact ⟨_, .last spelledKey member close,
      completes_cons_iff.mpr ⟨key, taken, spells, takes, completes_nil_iff.mpr same.symm⟩⟩
termination_by text.length

theorem Completes.yields_readMembers {given : List String} {record result : ρ}
    {members : List (List Piece × Value)} {text rest : List Char}
    (completes : Completes layout given record members result)
    (spelled : IsMembers text members rest) :
    Yields (readMembers (layout.parts.map field) given record text) result rest := by
  induction members generalizing given record text with
  | nil => cases spelled
  | cons member members induction =>
      rcases completes_cons_iff.mp completes with ⟨key, taken, spells, takes, others⟩
      rw [readMembers]
      cases spelled with
      | last spelledKey member close =>
          refine (yields_readMember spelledKey member (close.delimited (by decide)) spells
            takes).andThen fun _ => ?_
          exact (yields_match_next? _ '}' rfl (by decide) _ _ _ _).mpr
            (.inr ⟨(completes_nil_iff.mp others).symm, close⟩)
      | more spelledKey member comma spelled =>
          refine (yields_readMember spelledKey member (comma.delimited (by decide)) spells
            takes).andThen fun _ => ?_
          exact (yields_match_next? _ '}' rfl (by decide) _ _ _ _).mpr
            (.inl ⟨_, comma, induction others spelled⟩)

/-! Records. -/

theorem completes_blank_iff {record result : ρ} {members : List (List Piece × Value)} :
    Completes layout [] record members result ↔
      (∀ member ∈ members, ∃ key, Piece.Spells member.1 key) ∧
        layout.Fills record (valuesOf members) result :=
  ⟨fun completes => ⟨completes.keys, completes.fills⟩,
    fun ⟨keys, fills⟩ => ⟨keys, fun _ _ => nofun, fills⟩⟩

/-- A record is read from the values that give its fields, and from no others. -/
theorem reads (layout : Layout ρ) : Reads layout.format.read layout.Shape where
  sound yields := by
    unfold RecordFormat.read at yields
    split at yields
    · exact absurd yields (not_yields_error _ _ _)
    · next first later shorter next =>
        have blanks := (blanks_of_next? next).left
        split at yields
        · rw [yields_resume] at yields
          rcases exists_rest_of_readElements (List.Subset.refl _) layout.distinct yields with
            ⟨elements, left, few, fills⟩
          have gives : Gives (layout.parts.map Part.name) (.array elements) _ :=
            .array (List.length_map Part.name ▸ few)
          cases left with
          | close close => exact ⟨_, _, blanks, .emptyArray close, _, gives, fills⟩
          | first spelled => exact ⟨_, _, blanks, .array spelled, _, gives, fills⟩
        · rw [yields_resume] at yields
          rcases closes?_cases later (rfl : isBlank '}' = false) with ⟨none, _⟩ | ⟨_, _, some, closed⟩
          · rw [none] at yields
            rcases exists_members_of_readMembers yields with ⟨members, spelled, completes⟩
            exact ⟨_, _, blanks, .object spelled, _, .object completes.keys, completes.fills⟩
          · rw [some] at yields
            rcases (yields_ok _ _ _).mp yields with ⟨same, rfl⟩
            rcases completes_blank_iff.mp (completes_nil_iff.mpr same.symm) with ⟨keys, fills⟩
            exact ⟨_, _, blanks, .emptyObject closed, _, .object keys, fills⟩
        · exact absurd yields (not_yields_wrongKind _ _ _ _)
  complete blanks spelled _ fits := by
    rcases fits with ⟨given, gives, fills⟩
    cases gives with
    | array few =>
        rw [List.length_map] at few
        have read {text rest : List Char} (left : IsRest true text _ rest) :=
          left.yields_readElements (List.Subset.refl _) layout.distinct few fills
        cases spelled with
        | emptyArray close =>
            rcases next?_of_blanks blanks rfl with ⟨_, next⟩
            rw [RecordFormat.read, next]
            exact (yields_resume _ _ _ _).mpr (read (.close close))
        | array spelled =>
            rcases next?_of_blanks blanks rfl with ⟨_, next⟩
            rw [RecordFormat.read, next]
            exact (yields_resume _ _ _ _).mpr (read (.first spelled))
    | object keys =>
        have completes := completes_blank_iff.mpr ⟨keys, fills⟩
        cases spelled with
        | emptyObject close =>
            rcases next?_of_blanks blanks rfl with ⟨_, next⟩
            rcases closes?_eq_some rfl close with ⟨_, closed⟩
            rw [RecordFormat.read, next]
            simp only [yields_resume, closed, yields_ok, Taken.map, and_true]
            exact (completes_nil_iff.mp completes).symm
        | object spelled =>
            rcases next?_of_blanks blanks rfl with ⟨_, next⟩
            rw [RecordFormat.read, next]
            simp only [yields_resume, closes?_eq_none rfl spelled.not_close]
            exact completes.yields_readMembers spelled

end Layout

end SourceDiagnostics.Json
