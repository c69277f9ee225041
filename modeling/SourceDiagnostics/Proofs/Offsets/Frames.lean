import SourceDiagnostics.Files.Memory
import SourceDiagnostics.Proofs.Offsets.CurrentTables
import SourceDiagnostics.Proofs.Offsets.Moments

/-!
What the layers of memory may change. Loading a file leaves everything as the provider below the
layers left it, except for what the layers remember for that file (`ChangedAt`); a load that does
not succeed changes nothing at all. `LoadsOver` says so of one layer over any provider, and of a
second layer over that. Saying that a file has changed makes the layers forget that file and
nothing else (`Memo.ForgottenAt`).
-/

namespace SourceDiagnostics

structure Memo.ChangedAt {τ : Type} (path : Path) (before after : Memo τ) : Prop where
  generation : after.generation = before.generation
  elsewhere : ∀ other, ¬ other ≈ path → after.find? other = before.find? other

structure Memo.ForgottenAt {τ : Type} (path : Path) (before after : Memo τ) : Prop where
  generation : after.generation = before.generation + 1
  there : ∀ spelling, spelling ≈ path → after.find? spelling = none
  elsewhere : ∀ other, ¬ other ≈ path → after.find? other = before.find? other

namespace Memo

variable {τ : Type}

theorem ChangedAt.refl (path : Path) (memo : Memo τ) : ChangedAt path memo memo where
  generation := rfl
  elsewhere _ _ := rfl

theorem ChangedAt.trans {path : Path} {first between last : Memo τ}
    (front : ChangedAt path first between) (back : ChangedAt path between last) :
    ChangedAt path first last where
  generation := back.generation.trans front.generation
  elsewhere other different := (back.elsewhere other different).trans (front.elsewhere other different)

theorem changedAt_insert (path : Path) (table : τ) (memo : Memo τ) :
    ChangedAt path memo (memo.insert path table) where
  generation := rfl
  elsewhere other different := by rw [find?_insert, if_neg different]

theorem forgottenAt_forget (path : Path) (memo : Memo τ) :
    ForgottenAt path memo (memo.forget path) where
  generation := rfl
  there spelling equal := by rw [find?_forget, if_pos equal]
  elsewhere other different := by rw [find?_forget, if_neg different]

end Memo

namespace Offsets

variable {φ τ : Type}

structure ChangedAt (path : Path) (before after : State φ τ) : Prop where
  files : after.files = before.files
  reads : after.reads = before.reads
  held : after.held = before.held
  lower : before.lower.ChangedAt path after.lower
  upper : before.upper.ChangedAt path after.upper

namespace ChangedAt

variable {path : Path}

theorem refl (path : Path) (state : State φ τ) : ChangedAt path state state where
  files := rfl
  reads := rfl
  held := rfl
  lower := .refl path state.lower
  upper := .refl path state.upper

theorem trans {first between last : State φ τ} (front : ChangedAt path first between)
    (back : ChangedAt path between last) : ChangedAt path first last where
  files := back.files.trans front.files
  reads := back.reads.trans front.reads
  held := back.held.trans front.held
  lower := front.lower.trans back.lower
  upper := front.upper.trans back.upper

theorem insert (stacking : Stacking) (layer : Layer) (path : Path) (table : τ)
    (state : State φ τ) :
    ChangedAt path state ((State.slot stacking layer).set
      (((State.slot stacking layer).get state).insert path table) state) := by
  cases stacking <;> cases layer <;>
    exact ⟨rfl, rfl, rfl, by first | exact .refl _ _ | exact Memo.changedAt_insert _ _ _,
      by first | exact .refl _ _ | exact Memo.changedAt_insert _ _ _⟩

end ChangedAt

/-! Loads through layers of memory, one layer at a time. -/

/-- What a load through layers of memory comes to, by what the provider below them comes to: if
the layers miss the table, then to the same, except that a table may be remembered; and else to a
table that was remembered. -/
inductive LoadsOver (misses : Prop) (path : Path) (state : State φ τ)
    (below : Ran (Event τ) (State φ τ) FileError τ) :
    Ran (Event τ) (State φ τ) FileError τ → Prop
  | remembered (found : ¬ misses) {table : τ} {final : State φ τ} {log : List (Event τ)}
      (changed : ChangedAt path state final) :
      LoadsOver misses path state below ⟨.returned table, final, log⟩
  | loaded (missing : misses) {table : τ} {final : State φ τ} {log : List (Event τ)}
      (returned : below.outcome = .returned table) (changed : ChangedAt path below.state final) :
      LoadsOver misses path state below ⟨.returned table, final, log⟩
  | ended (missing : misses) (unreturned : ∀ table, below.outcome ≠ .returned table) :
      LoadsOver misses path state below below

namespace LoadsOver

variable {path : Path} {state : State φ τ} {below : Ran (Event τ) (State φ τ) FileError τ}

theorem itself (below : Ran (Event τ) (State φ τ) FileError τ) :
    LoadsOver True path state below below := by
  rcases below with ⟨table | error | message, final, log⟩
  · exact .loaded trivial rfl (.refl path final)
  · exact .ended trivial nofun
  · exact .ended trivial nofun

theorem remembering (stacking : Stacking) (layer : Layer) {misses : Prop}
    {inner : Provider (Event τ) (State φ τ) τ}
    (course : LoadsOver misses path state below (inner.load path state)) :
    LoadsOver ((memo stacking layer state).find? path = none ∧ misses) path state below
      ((Provider.remembering (State.slot stacking layer) inner).load path state) := by
  have run := Provider.load_remembering (State.slot stacking layer) inner path state
  generalize Provider.load _ path state = ran at run ⊢
  cases run with
  | hit table found =>
      refine .remembered (fun missing => ?_) (.refl path state)
      cases found.symm.trans missing.left
  | stored table between log missing loaded unmoved =>
      rw [loaded] at course
      have inserted := ChangedAt.insert stacking layer path table between
      cases course with
      | remembered found changed =>
          exact .remembered (fun both => found both.right) (changed.trans inserted)
      | loaded deeper returned changed =>
          exact .loaded ⟨missing, deeper⟩ returned (changed.trans inserted)
      | ended deeper unreturned => exact absurd rfl (unreturned table)
  | outdated table between log missing loaded moved =>
      rw [loaded] at course
      cases course with
      | remembered found changed => exact .remembered (fun both => found both.right) changed
      | loaded deeper returned changed => exact .loaded ⟨missing, deeper⟩ returned changed
      | ended deeper unreturned => exact absurd rfl (unreturned table)
  | failed error between log missing loaded =>
      rw [loaded] at course
      cases course with
      | ended deeper unreturned => exact .ended ⟨missing, deeper⟩ unreturned
  | panicked message between log missing loaded =>
      rw [loaded] at course
      cases course with
      | ended deeper unreturned => exact .ended ⟨missing, deeper⟩ unreturned

end LoadsOver

theorem misses_of_lowest {stacking : Stacking} {layer : Layer} {path : Path} {state : State φ τ}
    (lowest : stacking = .single ∨ layer = .bottom) :
    Misses stacking layer path state ↔ (memo stacking layer state).find? path = none := by
  refine ⟨fun misses => misses layer (.inl rfl), fun missing below within => ?_⟩
  have shared : stacking = .single ∨ below = layer := by
    rcases within with same | rfl
    · exact .inr same
    · exact lowest.imp_right fun bottom => nomatch bottom
  rwa [memo_of_shared shared]

theorem misses_top_iff {path : Path} {state : State φ τ} :
    Misses .double .top path state ↔
      (memo .double .top state).find? path = none ∧ Misses .double .bottom path state := by
  constructor
  · exact fun misses => ⟨misses .top (.inl rfl), fun below _ => misses below (.inr rfl)⟩
  · rintro ⟨missing, lower⟩ (_ | _) _
    · exact missing
    · exact lower .bottom (.inl rfl)

theorem layered_loadsOver (stacking : Stacking) (layer : Layer)
    (base : Provider (Event τ) (State φ τ) τ) (path : Path) (state : State φ τ) :
    LoadsOver (Misses stacking layer path state) path state (base.load path state)
      ((layered stacking layer base).load path state) := by
  have lowest (stacking : Stacking) (layer : Layer) (lowest : stacking = .single ∨ layer = .bottom) :
      LoadsOver (Misses stacking layer path state) path state (base.load path state)
        ((Provider.remembering (State.slot stacking layer) base).load path state) := by
    rw [misses_of_lowest lowest, ← and_true ((memo stacking layer state).find? path = none)]
    exact (LoadsOver.itself _).remembering stacking layer
  cases stacking with
  | single => cases layer <;> exact lowest .single _ (.inl rfl)
  | double =>
      cases layer with
      | bottom => exact lowest .double .bottom (.inr rfl)
      | top =>
          rw [misses_top_iff]
          exact (lowest .double .bottom (.inr rfl)).remembering .double .top

theorem layered_load_changedAt (stacking : Stacking) (layer : Layer)
    (base : Provider (Event τ) (State φ τ) τ) (path : Path) (state : State φ τ) :
    let below := base.load path state
    let ran := (layered stacking layer base).load path state
    (Misses stacking layer path state →
      ran.outcome = below.outcome ∧ ChangedAt path below.state ran.state ∧
        ((∀ table, below.outcome ≠ .returned table) → ran = below)) ∧
      (¬ Misses stacking layer path state →
        ∃ table, ran.outcome = .returned table ∧ ChangedAt path state ran.state) := by
  intro below ran
  have course : LoadsOver (Misses stacking layer path state) path state below ran :=
    layered_loadsOver stacking layer base path state
  clear_value below ran
  cases course with
  | remembered found changed =>
      exact ⟨fun misses => absurd misses found, fun _ => ⟨_, rfl, changed⟩⟩
  | loaded missing returned changed =>
      refine ⟨fun _ => ⟨returned.symm, changed, ?_⟩, fun found => absurd missing found⟩
      exact fun unreturned => absurd returned (unreturned _)
  | ended missing unreturned =>
      exact ⟨fun _ => ⟨rfl, .refl path _, fun _ => rfl⟩, fun found => absurd missing found⟩

/-! Layers that are told that a file has changed. -/

structure ForgottenAt (stacking : Stacking) (layer : Layer) (path : Path)
    (before after : State φ τ) : Prop where
  files : after.files = before.files
  reads : after.reads = before.reads
  held : after.held = before.held
  told : ∀ other, (Step.invalidate layer path).forgets stacking other = true →
    (memo stacking other before).ForgottenAt path (memo stacking other after)
  untold : ∀ other, (Step.invalidate layer path).forgets stacking other = false →
    memo stacking other after = memo stacking other before

theorem layered_invalidate (stacking : Stacking) (layer : Layer)
    (base : Provider (Event τ) (State φ τ) τ) (path : Path) (state : State φ τ) :
    ∃ told, (layered stacking layer base).invalidate path state = base.invalidate path told ∧
      ForgottenAt stacking layer path state told := by
  have forgotten (memo : Memo τ) := Memo.forgottenAt_forget path memo
  cases stacking <;> cases layer <;> refine ⟨_, rfl, rfl, rfl, rfl, ?_, ?_⟩ <;>
    rintro (_ | _) tells <;> first | exact forgotten _ | rfl | cases tells

variable [FileStore φ]

theorem perform_load_changedAt (compile : Bytes → τ) (stacking : Stacking) (layer : Layer)
    (path : Path) (offsets : List Offset) (during : List Step) (state : State φ τ) :
    let result := (FileStore.read state.files path).map compile
    let inside := performAll compile stacking during { state with reads := state.reads + 1 }
    let ran := (Step.load layer path offsets during).perform compile stacking state
    (Misses stacking layer path state →
      ran.outcome = .returned (.ofExcept result) ∧ ChangedAt path inside.state ran.state ∧
        ∀ error, result = .error error → ran.state = inside.state) ∧
      (¬ Misses stacking layer path state →
        ∃ table, ran.outcome = .returned (.table table) ∧ ChangedAt path state ran.state) := by
  intro result inside ran
  obtain ⟨reading, remembered⟩ := layered_load_changedAt stacking layer
    (files compile (performAll compile stacking during)) path state
  rw [load_files_of_returns compile (performAll_returns compile stacking during)] at reading
  have performed := @perform_load φ τ _ compile stacking layer path during state
  generalize (layered stacking layer
    (files compile (performAll compile stacking during))).load path state = loaded
      at reading remembered performed
  rcases loaded with ⟨outcome, final, log⟩
  constructor
  · intro misses
    obtain ⟨rfl, changed, kept⟩ := reading misses
    have ended : ran = ⟨.returned (.ofExcept result), final, log⟩ := performed rfl offsets
    rw [ended]
    refine ⟨rfl, changed, fun error failed => ?_⟩
    have unreturned (table : τ) : Outcome.ofExcept result ≠ .returned table := by
      rw [failed]
      nofun
    exact congrArg Ran.state (kept unreturned)
  · intro found
    obtain ⟨table, rfl, changed⟩ := remembered found
    have ended : ran = ⟨.returned (.table table), final, log⟩ :=
      @performed final (.ok table) log rfl offsets
    rw [ended]
    exact ⟨table, rfl, changed⟩

theorem perform_invalidate_forgottenAt (compile : Bytes → τ) (stacking : Stacking) (layer : Layer)
    (path : Path) (state : State φ τ) :
    ∃ told, (Step.invalidate layer path).perform compile stacking state =
        ⟨.returned .nothing, told, [.forgotten path]⟩ ∧
      ForgottenAt stacking layer path state told := by
  obtain ⟨told, invalidated, forgotten⟩ :=
    layered_invalidate stacking layer (files compile (pure ())) path state
  refine ⟨told, ?_, forgotten⟩
  have silent : (files compile (pure ()) : Provider (Event τ) (State φ τ) τ).invalidate path told =
      ⟨.returned (), told, [.forgotten path]⟩ := rfl
  rw [Step.perform, Action.bind_apply_of_returned (invalidated.trans silent)]
  rfl

/-! What whole histories leave alone. -/

omit [FileStore φ] in
theorem ChangedAt.find?_memo {path other : Path} {before after : State φ τ}
    (changed : ChangedAt path before after) (different : ¬ other ≈ path) (stacking : Stacking)
    (layer : Layer) :
    (memo stacking layer after).find? other = (memo stacking layer before).find? other := by
  cases stacking <;> cases layer <;>
    first | exact changed.lower.elsewhere other different
          | exact changed.upper.elsewhere other different

omit [FileStore φ] in
theorem ForgottenAt.find?_memo {issued : Layer} {path other : Path} {before after : State φ τ}
    {stacking : Stacking} (forgotten : ForgottenAt stacking issued path before after)
    (different : ¬ other ≈ path) (layer : Layer) :
    (memo stacking layer after).find? other = (memo stacking layer before).find? other := by
  cases told : (Step.invalidate issued path).forgets stacking layer with
  | true => exact (forgotten.told layer told).elsewhere other different
  | false => rw [forgotten.untold layer told]

/-- Whether a step asks for the table of a path or may make a layer forget it. What happens during
the step is left out. -/
def Step.Concerns (path : Path) : Step → Prop
  | .load _ spelling _ _ | .hold _ spelling | .invalidate _ spelling => path ≈ spelling
  | .clear _ => True
  | .edit _ | .held _ _ | .census _ => False

/-- Steps none of which concerns a path, at any depth. -/
inductive Spares (path : Path) : List Step → Prop
  | nil : Spares path []
  | cons {step : Step} {rest : List Step} (unconcerned : ¬ step.Concerns path)
      (inside : Spares path step.during) (later : Spares path rest) : Spares path (step :: rest)

def Leaves (stacking : Stacking) (path : Path) (before after : State φ τ) : Prop :=
  ∀ layer, (memo stacking layer after).find? path = (memo stacking layer before).find? path

theorem perform_load_leaves (compile : Bytes → τ) (stacking : Stacking) (layer : Layer)
    {path spelling : Path} (offsets : List Offset) {during : List Step} (different : ¬ path ≈ spelling)
    (inside : ∀ state : State φ τ,
      Leaves stacking path state (performAll compile stacking during state).state)
    (state : State φ τ) :
    Leaves stacking path state
      ((Step.load layer spelling offsets during).perform compile stacking state).state := by
  obtain ⟨reading, remembered⟩ :=
    perform_load_changedAt compile stacking layer spelling offsets during state
  intro other
  by_cases misses : Misses stacking layer spelling state
  · have counted : memo stacking other { state with reads := state.reads + 1 } =
        memo stacking other state := by
      cases stacking <;> cases other <;> rfl
    rw [(reading misses).right.left.find?_memo different, inside _ other, counted]
  · obtain ⟨table, -, changed⟩ := remembered misses
    exact changed.find?_memo different stacking other

theorem memo_perform_hold (compile : Bytes → τ) (stacking : Stacking) (layer : Layer)
    (name : String) (path : Path) (state : State φ τ) :
    memo stacking layer ((Step.hold name path).perform compile stacking state).state =
      memo stacking layer ((Step.load .top path [] []).perform compile stacking state).state := by
  have calm := layered_calm stacking .top
    (files_calm compile (performAll_returns (φ := φ) compile stacking []))
  obtain ⟨result, final, log, loaded⟩ := calm path state
  have loaded' := loaded
  rw [performAll] at loaded'
  obtain ⟨kept, performed, -, -, lower, upper⟩ := perform_hold loaded' name
  rw [performed, perform_load loaded []]
  cases stacking <;> cases layer <;> first | exact lower | exact upper

theorem take_leaves (compile : Bytes → τ) (stacking : Stacking) {path : Path} {step : Step}
    (unconcerned : ¬ step.Concerns path)
    (inside : ∀ state : State φ τ,
      Leaves stacking path state (performAll compile stacking step.during state).state)
    (state : State φ τ) :
    Leaves stacking path state (step.take compile stacking state).state := by
  have taken : (step.take compile stacking state).state =
      (step.perform compile stacking state).state := by
    rw [Step.take, Action.bind_apply, Action.emit_apply]
    dsimp only
    rw [Action.bind_apply]
    rcases step.perform compile stacking state with ⟨answer | error | message, final, log⟩ <;> rfl
  rw [taken]
  cases step with
  | load layer spelling offsets during =>
      exact perform_load_leaves compile stacking layer offsets unconcerned inside state
  | hold name spelling =>
      intro layer
      rw [memo_perform_hold]
      exact perform_load_leaves compile stacking .top [] unconcerned inside state layer
  | invalidate issued spelling =>
      intro layer
      obtain ⟨told, performed, forgotten⟩ :=
        perform_invalidate_forgottenAt compile stacking issued spelling state
      rw [performed]
      exact forgotten.find?_memo unconcerned layer
  | clear layer => exact absurd trivial unconcerned
  | edit edit =>
      intro layer
      cases stacking <;> cases layer <;> rfl
  | held name offsets => exact fun _ => rfl
  | census layer => exact fun _ => rfl

theorem performAll_leaves (compile : Bytes → τ) (stacking : Stacking) {path : Path}
    {steps : List Step} (spares : Spares path steps) :
    ∀ state : State φ τ,
      Leaves stacking path state (performAll compile stacking steps state).state := by
  induction spares with
  | nil =>
      intro state layer
      rw [performAll]
      rfl
  | @cons step rest unconcerned _ _ inside later =>
      intro state layer
      rw [performAll_cons_apply]
      exact (later _ layer).trans (take_leaves compile stacking unconcerned inside state layer)

/-- Loading a file and saying that it has changed concerns what the layers remember for that file,
and nothing else. Over any provider, and in any state: a load that the layers cannot answer comes
to what the provider comes to; if that is no table, then the layers do nothing about it at all, and
if it is one, then nothing is different but what is remembered for that file. Nor is anything else
different after a load that the layers can answer. If the file is said to have changed, then each
layer that is told forgets that file and counts that once, and the provider is told once. It is the
same with files, where loads may have other steps during them: apart from what these do, a load
that fails changes nothing, and one that does not only changes what is remembered for its file. So
a history that does not concern a file, at any depth, leaves what every layer remembers for it. -/
theorem changes_stay_at_their_path (compile : Bytes → τ) (stacking : Stacking) (layer : Layer)
    (path : Path) (state : State φ τ) :
    (∀ base : Provider (Event τ) (State φ τ) τ,
      let below := base.load path state
      let ran := (layered stacking layer base).load path state
      (Misses stacking layer path state →
        ran.outcome = below.outcome ∧ ChangedAt path below.state ran.state ∧
          ((∀ table, below.outcome ≠ .returned table) → ran = below)) ∧
      (¬ Misses stacking layer path state →
        ∃ table, ran.outcome = .returned table ∧ ChangedAt path state ran.state) ∧
      ∃ told, (layered stacking layer base).invalidate path state = base.invalidate path told ∧
        ForgottenAt stacking layer path state told) ∧
      (∀ offsets during,
        let result := (FileStore.read state.files path).map compile
        let inside := performAll compile stacking during { state with reads := state.reads + 1 }
        let ran := (Step.load layer path offsets during).perform compile stacking state
        (Misses stacking layer path state →
          ran.outcome = .returned (.ofExcept result) ∧ ChangedAt path inside.state ran.state ∧
            ∀ error, result = .error error → ran.state = inside.state) ∧
        (¬ Misses stacking layer path state →
          ∃ table, ran.outcome = .returned (.table table) ∧ ChangedAt path state ran.state)) ∧
      (∃ told, (Step.invalidate layer path).perform compile stacking state =
          ⟨.returned .nothing, told, [.forgotten path]⟩ ∧
        ForgottenAt stacking layer path state told) ∧
      ∀ other steps, Spares other steps →
        Leaves stacking other state (performAll compile stacking steps state).state := by
  refine ⟨fun base => ?_,
    fun offsets during => perform_load_changedAt compile stacking layer path offsets during state,
    perform_invalidate_forgottenAt compile stacking layer path state,
    fun other steps spares => performAll_leaves compile stacking spares state⟩
  obtain ⟨missing, remembered⟩ := layered_load_changedAt stacking layer base path state
  exact ⟨missing, remembered, layered_invalidate stacking layer base path state⟩

/-- A file that is not there is loaded through two layers, and while it is looked for another one is
loaded. Both layers remember that one, and nothing else. -/
theorem changes_stay_at_their_path_of_missing_file :
    let gone : Path := .ofString "gone"
    let other : Path := .ofString "other"
    let store : Memory := ⟨[(other, .file [0x0A])], none⟩
    let remembered : Memo Bytes := ⟨[(other.components, [0x0A])], 0⟩
    let ran := (Step.load .top gone [] [.load .top other [] []]).perform id .double
      (⟨store, 0, {}, {}, []⟩ : State Memory Bytes)
    ran.outcome = .returned (.failed Memory.missing) ∧
      ran.state.lower = remembered ∧ ran.state.upper = remembered := by
  intro gone other store remembered ran
  obtain ⟨-, loads, -⟩ := changes_stay_at_their_path id .double .top gone
    (⟨store, 0, {}, {}, []⟩ : State Memory Bytes)
  obtain ⟨failed, -, kept⟩ := (loads [] [.load .top other [] []]).left fun below _ => by
    cases below <;> rfl
  have unread : (FileStore.read store gone).map id = .error Memory.missing := rfl
  refine ⟨failed.trans (by rw [unread]; rfl), ?_⟩
  rw [kept Memory.missing unread]
  exact ⟨rfl, rfl⟩

end Offsets

end SourceDiagnostics
