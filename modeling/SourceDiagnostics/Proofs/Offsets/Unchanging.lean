import Mathlib.Data.List.Induction
import SourceDiagnostics.LineTable
import SourceDiagnostics.Proofs.Files.Spellings
import SourceDiagnostics.Proofs.Offsets.Steps

/-!
Memory over a provider whose answers never change. A memo knows a file by the place that its path
names, while the provider below may answer two spellings of one place differently. So what a load
is given is what the provider answers for the spelling by which the table came to be remembered
(`recalled`); that is the path itself, unless another spelling of it was loaded before and not
forgotten since. Where spellings of one place are answered alike, memory cannot be told from no
memory. On disk they nearly are: of two spellings that can be read, both give the same table, but
one may be readable while the other is not.
-/

namespace SourceDiagnostics

/-- A provider whose loads end as `answer` says, in all states that it is found in, and that leaves
the memo above it alone. -/
structure Provider.Unchanging {ε σ τ : Type} (slot : Slot σ (Memo τ))
    (answer : Path → Except FileError τ) (steady : σ → Prop) (backend : Provider ε σ τ) : Prop where
  load_answers : ∀ path state, steady state →
    (backend.load path state).outcome = .ofExcept (answer path)
  load_keeps : ∀ path state, steady state → steady (backend.load path state).state ∧
    slot.get (backend.load path state).state = slot.get state
  invalidate_keeps : ∀ path state, steady state → steady (backend.invalidate path state).state ∧
    slot.get (backend.invalidate path state).state = slot.get state
  set_keeps : ∀ memo state, steady state → steady (slot.set memo state)

namespace Offsets

inductive Use where
  | load (path : Path)
  | invalidate (path : Path)
  | clear
  deriving DecidableEq, Repr

namespace Use

variable {ε σ τ : Type} {answer : Path → Except FileError τ}

/-- The spelling by which a path is remembered after a use. The first spelling that a table is
answered for stays, until it is forgotten. -/
def recalls (answer : Path → Except FileError τ) (path : Path) (known : Option Path) :
    Use → Option Path
  | load spelled =>
      match answer spelled with
      | .ok _ => if path ≈ spelled then known.or (some spelled) else known
      | .error _ => known
  | invalidate spelled => if path ≈ spelled then none else known
  | clear => none

/-- The spelling by which a path is remembered after one use after the other, with nothing
remembered at first. -/
def recalled (answer : Path → Except FileError τ) (path : Path) (uses : List Use) : Option Path :=
  uses.foldl (recalls answer path) none

theorem recalled_concat (path : Path) (uses : List Use) (use : Use) :
    recalled answer path (uses ++ [use]) = use.recalls answer path (recalled answer path uses) :=
  List.foldl_append ..

theorem spells_of_recalled {path spelled : Path} {uses : List Use}
    (known : recalled answer path uses = some spelled) :
    path ≈ spelled ∧ .load spelled ∈ uses ∧ ∃ table, answer spelled = .ok table := by
  induction uses using List.reverseRecOn with
  | nil => cases known
  | append_singleton uses use induction =>
      rw [recalled_concat] at known
      have earlier (before : recalled answer path uses = some spelled) :
          path ≈ spelled ∧ .load spelled ∈ uses ++ [use] ∧ ∃ table, answer spelled = .ok table := by
        rcases induction before with ⟨equal, loaded, answered⟩
        exact ⟨equal, List.mem_append_left _ loaded, answered⟩
      cases use with
      | load other =>
          rw [recalls] at known
          cases answered : answer other with
          | error error => exact earlier (by simpa [answered] using known)
          | ok table =>
              simp only [answered] at known
              split at known
              next equal =>
                rcases Option.or_eq_some_iff.mp known with before | ⟨_, now⟩
                · exact earlier before
                · cases now
                  exact ⟨equal, by simp, table, answered⟩
              next => exact earlier known
      | invalidate other =>
          rw [recalls] at known
          split at known
          next => cases known
          next => exact earlier known
      | clear => cases known

def Recalling (answer : Path → Except FileError τ) (uses : List Use) (memo : Memo τ) : Prop :=
  ∀ path, memo.find? path =
    (recalled answer path uses).bind fun spelled => (answer spelled).toOption

section States

variable [NoteLog ε]

/-! A memo over such a provider holds what is answered for the spellings that are recalled. -/

def after (slot : Slot σ (Memo τ)) (backend : Provider ε σ τ) (state : σ) : Use → σ
  | load path => ((Provider.remembering slot backend).load path state).state
  | invalidate path => ((Provider.remembering slot backend).invalidate path state).state
  | clear => ((Memo.clearAt slot : Action ε σ Empty Unit) state).state

def afterAll (slot : Slot σ (Memo τ)) (backend : Provider ε σ τ) (start : σ)
    (uses : List Use) : σ :=
  uses.foldl (after slot backend) start

theorem afterAll_concat (slot : Slot σ (Memo τ)) (backend : Provider ε σ τ) (start : σ)
    (uses : List Use) (use : Use) : afterAll slot backend start (uses ++ [use]) =
      use.after slot backend (afterAll slot backend start uses) :=
  List.foldl_append ..

variable {slot : Slot σ (Memo τ)} {backend : Provider ε σ τ} {steady : σ → Prop} {state : σ}
  {uses : List Use}

theorem load_of_unchanging (unchanging : backend.Unchanging slot answer steady)
    (begun : steady state) (path : Path) :
    ((Provider.remembering slot backend).load path state).outcome =
        .ofExcept (((slot.get state).find? path).elim (answer path) .ok) ∧
      steady ((load path).after slot backend state) ∧
      slot.get ((load path).after slot backend state) =
        match (slot.get state).find? path, answer path with
        | none, .ok table => (slot.get state).insert path table
        | _, _ => slot.get state := by
  have answers := unchanging.load_answers path state begun
  have keeps := unchanging.load_keeps path state begun
  rcases loaded : backend.load path state with ⟨outcome, between, log⟩
  rw [loaded] at answers keeps
  cases answers
  rw [after, Provider.load_remembering_of_loaded loaded]
  cases found : (slot.get state).find? path with
  | some table => exact ⟨rfl, begun, rfl⟩
  | none =>
      cases answered : answer path with
      | error error => exact ⟨rfl, keeps.left, keeps.right⟩
      | ok table =>
          simp only [keeps.right, if_true]
          exact ⟨rfl, unchanging.set_keeps _ _ keeps.left, slot.get_set _ _⟩

theorem Recalling.find?_eq_none {memo : Memo τ} (recalling : Recalling answer uses memo)
    (path : Path) : memo.find? path = none ↔ recalled answer path uses = none := by
  rw [recalling path]
  cases known : recalled answer path uses with
  | none => exact ⟨fun _ => rfl, fun _ => rfl⟩
  | some spelled =>
      rcases (spells_of_recalled known).right.right with ⟨table, answered⟩
      simp [answered, Except.toOption]

theorem Recalling.insert {memo : Memo τ} (recalling : Recalling answer uses memo) {path : Path}
    {table : τ} (missing : memo.find? path = none) (answered : answer path = .ok table) :
    Recalling answer (uses ++ [.load path]) (memo.insert path table) := by
  intro other
  rw [recalled_concat, recalls, Memo.find?_insert]
  simp only [answered]
  split
  next equal =>
    -- What is missing under one spelling is missing under all, so this one is the first.
    rw [← memo.find?_congr equal, recalling.find?_eq_none] at missing
    simp [missing, answered, Except.toOption]
  next => exact recalling other

theorem Recalling.keep {memo : Memo τ} (recalling : Recalling answer uses memo) {path : Path}
    (settled : ∀ table, memo.find? path = none → answer path = .ok table → False) :
    Recalling answer (uses ++ [.load path]) memo := by
  intro other
  rw [recalled_concat, recalls, recalling other]
  cases answered : answer path with
  | error error => rfl
  | ok table =>
      dsimp only
      split
      next equal =>
        have found (missing : memo.find? path = none) := settled table missing answered
        rw [← memo.find?_congr equal, recalling.find?_eq_none] at found
        rcases Option.ne_none_iff_exists'.mp found with ⟨spelled, known⟩
        rw [known, Option.some_or]
      next => rfl

theorem after_recalling (unchanging : backend.Unchanging slot answer steady)
    (begun : steady state) (recalling : Recalling answer uses (slot.get state)) (use : Use) :
    steady (use.after slot backend state) ∧
      Recalling answer (uses ++ [use]) (slot.get (use.after slot backend state)) := by
  cases use with
  | load path =>
      rcases load_of_unchanging unchanging begun path with ⟨_, steadily, left⟩
      rw [left]
      refine ⟨steadily, ?_⟩
      split
      next missing answered => exact recalling.insert missing answered
      next settled => exact recalling.keep settled
  | invalidate path =>
      have keeps := unchanging.invalidate_keeps path (slot.update (Memo.forget path) state)
        (unchanging.set_keeps _ _ begun)
      refine ⟨keeps.left, fun other => ?_⟩
      change (slot.get (backend.invalidate path (slot.update (Memo.forget path) state)).state).find?
        other = _
      rw [keeps.right, slot.get_update, recalled_concat, recalls, Memo.find?_forget,
        recalling other]
      split <;> rfl
  | clear =>
      refine ⟨unchanging.set_keeps _ _ begun, fun other => ?_⟩
      change (slot.get (slot.update Memo.clear state)).find? other = _
      rw [slot.get_update, recalled_concat]
      rfl

theorem afterAll_recalling (unchanging : backend.Unchanging slot answer steady)
    (begun : steady state) (empty : slot.get state = {}) (uses : List Use) :
    steady (afterAll slot backend state uses) ∧
      Recalling answer uses (slot.get (afterAll slot backend state uses)) := by
  induction uses using List.reverseRecOn with
  | nil =>
      refine ⟨begun, fun path => ?_⟩
      change (slot.get state).find? path = none
      rw [empty]
      rfl
  | append_singleton uses use induction =>
      rw [afterAll_concat]
      exact after_recalling unchanging induction.left induction.right use

/-- A load is given what the provider answers for the spelling that is recalled, and for the path
itself if there is none. -/
theorem load_recalled (unchanging : backend.Unchanging slot answer steady)
    (begun : steady state) (empty : slot.get state = {}) (uses : List Use) (path : Path) :
    ((Provider.remembering slot backend).load path (afterAll slot backend state uses)).outcome =
      .ofExcept (answer ((recalled answer path uses).getD path)) := by
  rcases afterAll_recalling unchanging begun empty uses with ⟨steadily, recalling⟩
  rw [(load_of_unchanging unchanging steadily path).left, recalling path]
  cases known : recalled answer path uses with
  | none => rfl
  | some spelled =>
      rcases (spells_of_recalled known).right.right with ⟨table, answered⟩
      simp [answered, Except.toOption]

end States

end Use

theorem files_unchanging {φ τ : Type} [FileStore φ] (compile : Bytes → τ) (store : φ) :
    (files compile (pure ()) : Provider (Event τ) (State φ τ) τ).Unchanging State.lowerSlot
      (fun path => (FileStore.read store path).map compile) (·.files = store) where
  load_answers path state begun := by
    rw [load_files, ← begun]
    rfl
  load_keeps path state begun := by
    rw [load_files]
    exact ⟨begun, rfl⟩
  invalidate_keeps _ _ begun := ⟨begun, rfl⟩
  set_keeps _ _ begun := begun

/-! The files of a directory tree that nobody edits. -/

def disk : Provider (Event LineTable) (State Directory LineTable) LineTable :=
  files LineTable.ofBytes (pure ())

def untouched (tree : Directory) : State Directory LineTable :=
  ⟨tree, 0, {}, {}, []⟩

def onDisk (tree : Directory) (path : Path) : Except FileError LineTable :=
  (tree.read path).map LineTable.ofBytes

theorem disk_unchanging (tree : Directory) :
    disk.Unchanging State.lowerSlot (onDisk tree) (·.files = tree) :=
  files_unchanging LineTable.ofBytes tree

def givenFromDisk (tree : Directory) (uses : List Use) (path : Path) : Outcome FileError LineTable :=
  ((Provider.remembering State.lowerSlot disk).load path
    (Use.afterAll State.lowerSlot disk (untouched tree) uses)).outcome

private theorem exists_of_onDisk {tree : Directory} {path : Path} {table : LineTable}
    (answered : onDisk tree path = .ok table) :
    ∃ contents, tree.read path = .ok contents ∧ LineTable.ofBytes contents = table := by
  unfold onDisk at answered
  cases read : tree.read path with
  | error error =>
      rw [read] at answered
      nomatch answered
  | ok contents =>
      rw [read] at answered
      exact ⟨contents, rfl, Except.ok.inj answered⟩

theorem givenFromDisk_of_readable {tree : Directory} {path : Path} {table : LineTable}
    (readable : onDisk tree path = .ok table) (uses : List Use) :
    givenFromDisk tree uses path = .returned table := by
  rw [givenFromDisk, Use.load_recalled (disk_unchanging tree) rfl rfl]
  cases known : Use.recalled (onDisk tree) path uses with
  | none => rw [Option.getD_none, readable, Outcome.ofExcept]
  | some spelled =>
      rcases Use.spells_of_recalled known with ⟨equal, _, other, answered⟩
      rcases exists_of_onDisk readable with ⟨contents, read, rfl⟩
      rcases exists_of_onDisk answered with ⟨contents', read', rfl⟩
      rw [Option.getD_some, answered, Outcome.ofExcept, Directory.read_eq_of_equiv equal read read']

/-- A load through a memory over a provider whose answers never change, after whatever the memory
was used for, is given what the provider answers for the path, unless another spelling of it is
remembered. Then it is given what the provider answers for that spelling, which is the same if the
provider answers all spellings of a place alike. From a directory tree, a path that can be read
alone is given its own table. -/
theorem load_over_unchanging_provider :
    (∀ (ε σ τ : Type) [NoteLog ε] (slot : Slot σ (Memo τ)) (answer : Path → Except FileError τ)
        (steady : σ → Prop) (backend : Provider ε σ τ), backend.Unchanging slot answer steady →
      ∀ state, steady state → slot.get state = {} → ∀ uses path,
        let given := ((Provider.remembering slot backend).load path
          (Use.afterAll slot backend state uses)).outcome
        given = .ofExcept (answer ((Use.recalled answer path uses).getD path)) ∧
          (∀ spelled, Use.recalled answer path uses = some spelled →
            path ≈ spelled ∧ .load spelled ∈ uses) ∧
          ((∀ spelled, path ≈ spelled → answer spelled = answer path) →
            given = .ofExcept (answer path))) ∧
    ∀ tree uses path,
      let alone (spelled : Path) := (disk.load spelled (untouched tree)).outcome
      givenFromDisk tree uses path =
          alone ((Use.recalled (onDisk tree) path uses).getD path) ∧
        ((∃ table, alone path = .returned table) → givenFromDisk tree uses path = alone path) := by
  refine ⟨?_, ?_⟩
  · intro ε σ τ _ slot answer steady backend unchanging state begun empty uses path given
    have recalled : given = .ofExcept (answer ((Use.recalled answer path uses).getD path)) :=
      Use.load_recalled unchanging begun empty uses path
    refine ⟨recalled, fun spelled known => ?_, fun alike => ?_⟩
    · rcases Use.spells_of_recalled known with ⟨equal, loaded, _⟩
      exact ⟨equal, loaded⟩
    · rw [recalled]
      cases known : Use.recalled answer path uses with
      | none => rfl
      | some spelled => rw [Option.getD_some, alike spelled (Use.spells_of_recalled known).left]
  · intro tree uses path alone
    have answers (spelled : Path) : alone spelled = .ofExcept (onDisk tree spelled) :=
      (disk_unchanging tree).load_answers spelled _ rfl
    refine ⟨?_, ?_⟩
    · rw [answers]
      exact Use.load_recalled (disk_unchanging tree) rfl rfl uses path
    · intro returned
      rcases returned with ⟨table, returned⟩
      rw [answers] at returned ⊢
      cases readable : onDisk tree path with
      | error error =>
          rw [readable] at returned
          cases returned
      | ok table => exact givenFromDisk_of_readable readable uses

/-- Two spellings of a file, one after the other. The second is given the table of the first. -/
theorem load_over_unchanging_provider_by_detour :
    let tree : Directory := Directory.write {} (.ofString "d/f") (.file [0x0A])
    let state : State Directory LineTable := untouched tree
    disk.Unchanging State.lowerSlot (onDisk tree) (·.files = tree) ∧ state.files = tree ∧
      State.lowerSlot.get state = {} ∧
      ((Provider.remembering State.lowerSlot disk).load (.ofString "d/f")
        (Use.afterAll State.lowerSlot disk state [.load (.ofString "d/.//f")])).outcome =
          .ofExcept (onDisk tree (.ofString "d/.//f")) := by
  intro tree state
  exact ⟨disk_unchanging tree, rfl, rfl,
    (load_over_unchanging_provider.left _ _ _ State.lowerSlot (onDisk tree) (·.files = tree) disk
      (disk_unchanging tree) state rfl rfl [.load (.ofString "d/.//f")] (.ofString "d/f")).left⟩

/-- After a file was loaded, its path with a slash after it is given the table of the file, while
the directory tree alone answers that no directory is there. -/
theorem slash_after_file_given_from_memory :
    let tree : Directory := Directory.write {} (.ofString "f") (.file [0x78])
    disk.Unchanging State.lowerSlot (onDisk tree) (·.files = tree) ∧
      (disk.load (.ofString "f/") (untouched tree)).outcome = .failed .noDirectory ∧
      givenFromDisk tree [.load (.ofString "f")] (.ofString "f/") =
        .returned (LineTable.ofBytes [0x78]) := by
  intro tree
  exact ⟨disk_unchanging tree, rfl, rfl⟩

end Offsets

end SourceDiagnostics
