import SourceDiagnostics.Files.Memory
import SourceDiagnostics.Proofs.Offsets.Freshness

/-!
Every history keeps its memos sound and hands out current tables only. `Supplies` is what a layer
needs of the provider below it; the files have it, a layer of memory over a provider that has it
has it again, and so has a second layer over that. The induction over a history, `performAll_keeps`,
is in turn what the files need to know about the steps that happen while they are read.
-/

namespace SourceDiagnostics.Offsets

variable {φ τ : Type} {stacking : Stacking} {layer : Layer} {path : Path} {table : τ}
  {state final : State φ τ}

/-! What the layers of memory do. -/

theorem memo_set (stacking : Stacking) (layer other : Layer) (part : Memo τ) (state : State φ τ) :
    memo stacking other ((State.slot stacking layer).set part state) =
      if stacking = .single ∨ other = layer then part else memo stacking other state := by
  cases stacking <;> cases layer <;> cases other <;> rfl

/-! A single layer goes by both names. -/

theorem memo_of_shared {other : Layer} (shared : stacking = .single ∨ other = layer)
    (state : State φ τ) : memo stacking other state = memo stacking layer state := by
  rcases shared with rfl | rfl
  · cases layer <;> cases other <;> rfl
  · rfl

theorem outdates_of_shared {other : Layer} {spelling : Path} {step : Step}
    (shared : stacking = .single ∨ other = layer) (equal : path ≈ spelling)
    (outdated : step.Outdates stacking other spelling) : step.Outdates stacking layer path := by
  have forgets : step.forgets stacking layer = true := by
    rcases shared with rfl | rfl
    · cases step <;> first | rfl | cases outdated.left
    · exact outdated.left
  refine ⟨forgets, ?_⟩
  cases step with
  | invalidate issued told => exact Setoid.trans equal outdated.right
  | clear issued =>
      rcases shared with rfl | rfl
      · exact fun both => Stacking.noConfusion both.left
      · exact outdated.right
  | edit | load | hold | held | census => exact outdated.right

theorem Keeps.remember {between : State φ τ} {log : List (Event τ)}
    (keeps : Keeps stacking state log between)
    (current : ∀ past, Sound stacking past state → Current stacking layer path table past log)
    (unmoved : (memo stacking layer between).generation = (memo stacking layer state).generation) :
    Keeps stacking state log
      ((State.slot stacking layer).set ((memo stacking layer between).insert path table)
        between) where
  balanced := keeps.balanced
  counted other := by
    rw [memo_set]
    split
    · next shared =>
      rw [← keeps.counted, memo_of_shared shared]
      rfl
    · exact keeps.counted other
  sound past sound := by
    intro other spelling found_table found
    rw [memo_set] at found
    split at found
    · next shared =>
      rw [Memo.find?_insert] at found
      split at found
      · next equal =>
        cases found
        have since := (current past sound).readSince (keeps.undisturbed unmoved)
        exact since.weaken (Setoid.symm equal) fun step =>
          outdates_of_shared shared (Setoid.symm equal)
      · rw [← memo_of_shared shared] at found
        exact keeps.sound past sound other spelling found_table found
    · exact keeps.sound past sound other spelling found_table found
  fresh := keeps.fresh

/-- A provider that takes part in a history as it should, and supplies a layer with tables that are
current for it. -/
structure Supplies (stacking : Stacking) (layer : Layer)
    (provider : Provider (Event τ) (State φ τ) τ) : Prop where
  keeps : ∀ path, (provider.load path).Traces (Keeps stacking)
  current : ∀ path state past table, Sound stacking past state →
    (provider.load path state).outcome = .returned table →
    Current stacking layer path table past (provider.load path state).log

theorem Current.weaken {below : Layer} {past log : List (Event τ)}
    (current : Current stacking below path table past log)
    (weaker : ∀ step : Step, step.Outdates stacking layer path →
      step.Outdates stacking below path) : Current stacking layer path table past log := by
  rcases current with since | inside
  · exact .inl (since.weaken (Setoid.refl path) weaker)
  · exact .inr inside

theorem remembering_supplies {below : Layer} {inner : Provider (Event τ) (State φ τ) τ}
    (supplied : Supplies stacking below inner)
    (weaker : ∀ path (step : Step), step.Outdates stacking layer path →
      step.Outdates stacking below path) :
    Supplies stacking layer (.remembering (State.slot stacking layer) inner) := by
  constructor
  · intro path state
    have kept := supplied.keeps path state
    have current := supplied.current path state
    have noted (note : Note) (state : State φ τ) :
        Keeps stacking state [NoteLog.note note] state :=
      .flat (by intro event member; cases List.mem_singleton.mp member; rfl) fun _ => rfl
    have run := Provider.load_remembering (State.slot stacking layer) inner path state
    generalize Provider.load _ path state = ran at run
    cases run with
    | hit table found => exact noted _ state
    | stored table between log missing loaded unmoved =>
        rw [loaded] at kept current
        exact kept.remember (fun past sound => (current past table sound rfl).weaken (weaker path))
          unmoved
    | outdated table between log missing loaded moved =>
        rw [loaded] at kept
        exact (Keeps.sequential stacking).trans kept (noted _ between)
    | failed error between log missing loaded =>
        rw [loaded] at kept
        exact kept
    | panicked message between log missing loaded =>
        rw [loaded] at kept
        exact kept
  · intro path state past table sound returned
    have current := supplied.current path state past
    have run := Provider.load_remembering (State.slot stacking layer) inner path state
    generalize Provider.load _ path state = ran at run returned ⊢
    cases run with
    | hit table' found =>
        cases returned
        exact .inl (sound layer path table found)
    | stored table' between log missing loaded unmoved =>
        cases returned
        rw [loaded] at current
        exact (current table sound rfl).weaken (weaker path)
    | outdated table' between log missing loaded moved =>
        cases returned
        rw [loaded] at current
        rcases (current table sound rfl).weaken (weaker path) with since | ⟨spelled, equal, member⟩
        · exact .inl since
        · exact .inr ⟨spelled, equal, List.mem_append_left _ member⟩
    | failed error between log missing loaded => cases returned
    | panicked message between log missing loaded => cases returned

theorem Keeps.silent (same : ∀ layer, memo stacking layer final = memo stacking layer state) :
    Keeps stacking state [] final :=
  .flat (List.forall_mem_nil _) same

theorem Keeps.flat_event {event : Event τ} (flat : event.change = 0) (state : State φ τ) :
    Keeps stacking state [event] state :=
  .flat (List.forall_mem_singleton.mpr flat) fun _ => rfl

variable [FileStore φ]

theorem files_supplies (compile : Bytes → τ) {during : Action (Event τ) (State φ τ) Empty Unit}
    (happens : during.Traces (Keeps stacking)) (layer : Layer) :
    Supplies stacking layer (files compile during) := by
  constructor
  · intro path state
    have counted : Keeps stacking state [] { state with reads := state.reads + 1 } :=
      .silent fun layer => by cases stacking <;> cases layer <;> rfl
    rw [load_files]
    exact (Keeps.sequential stacking).trans (.flat_event rfl state)
      ((Keeps.sequential stacking).trans counted (happens _))
  · intro path state past table sound returned
    rw [load_files] at returned ⊢
    refine .inr ⟨path, Setoid.refl path, ?_⟩
    dsimp only at returned ⊢
    generalize (FileStore.read state.files path).map compile = result at returned ⊢
    generalize during _ = happened at returned ⊢
    rcases happened with ⟨_ | error | message, final, log⟩
    · cases result with
      | ok found =>
          cases returned
          exact List.mem_cons_self
      | error error => cases returned
    · exact error.elim
    · cases returned

omit [FileStore φ] in
theorem layered_supplies {base : Provider (Event τ) (State φ τ) τ}
    (supplied : ∀ layer, Supplies stacking layer base) (layer : Layer) :
    Supplies stacking layer (layered stacking layer base) := by
  cases stacking with
  | single =>
      cases layer <;> exact remembering_supplies (supplied _) fun _ _ outdated => outdated
  | double =>
      have lower : Supplies .double .bottom (layered .double .bottom base) :=
        remembering_supplies (supplied .bottom) fun _ _ outdated => outdated
      cases layer with
      | bottom => exact lower
      | top =>
          apply remembering_supplies lower
          intro path step outdated
          cases step with
          | invalidate issued other =>
              refine ⟨?_, outdated.right⟩
              cases issued
              · rfl
              · cases outdated.left
          | clear issued => exact absurd ⟨rfl, rfl⟩ outdated.right
          | edit | load | hold | held | census => cases outdated.left

theorem perform_invalidate (compile : Bytes → τ) (stacking : Stacking) (issued : Layer)
    (path : Path) (state : State φ τ) :
    ∃ final, (Step.invalidate issued path).perform compile stacking state =
        ⟨.returned .nothing, final, [.forgotten path]⟩ ∧
      ∀ layer, memo stacking layer final =
        if (Step.invalidate issued path).forgets stacking layer then
          (memo stacking layer state).forget path
        else memo stacking layer state := by
  cases stacking <;> cases issued <;> refine ⟨_, rfl, ?_⟩ <;> intro layer <;> cases layer <;> rfl

theorem perform_clear (compile : Bytes → τ) (stacking : Stacking) (issued : Layer)
    (state : State φ τ) :
    ∃ final, (Step.clear issued).perform compile stacking state = ⟨.returned .nothing, final, []⟩ ∧
      ∀ layer, memo stacking layer final =
        if (Step.clear issued).forgets stacking layer then (memo stacking layer state).clear
        else memo stacking layer state := by
  cases stacking <;> cases issued <;> refine ⟨_, rfl, ?_⟩ <;> intro layer <;> cases layer <;> rfl

theorem take_keeps_of_supplied {compile : Bytes → τ} {provider : Provider (Event τ) (State φ τ) τ}
    {step : Step} {state final kept : State φ τ} {result : Except FileError τ}
    {log : List (Event τ)} (supplied : Supplies stacking layer provider)
    (loaded : provider.load path state = ⟨.ofExcept result, final, log⟩)
    (performed : step.perform compile stacking state = ⟨.returned (.ofExcept result), kept, log⟩)
    (same : ∀ layer, memo stacking layer kept = memo stacking layer final)
    (target : step.target? = some (layer, path))
    (unforgetting : ∀ layer, step.forgets stacking layer = false) :
    Keeps stacking state (step.take compile stacking state).log
      (step.take compile stacking state).state := by
  have keeps := supplied.keeps path state
  have current := supplied.current path state
  rw [loaded] at keeps current
  have put_aside := (Keeps.sequential stacking).trans keeps (.silent same)
  rw [List.append_nil] at put_aside
  rw [take_apply performed]
  apply put_aside.enclose unforgetting
  intro past table other spelling sound answered target'
  rw [target] at target'
  cases target'
  cases result with
  | ok found =>
      cases answered
      exact current past table sound rfl
  | error error => cases answered

theorem take_keeps (compile : Bytes → τ) (stacking : Stacking) (step : Step)
    (happens : (performAll compile stacking step.during :
      Action (Event τ) (State φ τ) Empty Unit).Traces (Keeps stacking)) :
    (step.take compile stacking : Action (Event τ) (State φ τ) Empty Unit).Traces
      (Keeps stacking) := by
  intro state
  have plain {other : Step} {answer : Answer τ} {final : State φ τ}
      (performed : other.perform compile stacking state = ⟨.returned answer, final, []⟩)
      (untargeted : other.target? = none)
      (unforgetting : ∀ layer, other.forgets stacking layer = false)
      (same : ∀ layer, memo stacking layer final = memo stacking layer state) :
      Keeps stacking state (other.take compile stacking state).log
        (other.take compile stacking state).state := by
    rw [take_apply performed]
    apply (Keeps.silent same).enclose unforgetting
    intro past table layer path _ _ target
    rw [untargeted] at target
    cases target
  have asking {layer : Layer} {path : Path} (asks : step.target? = some (layer, path))
      (unforgetting : ∀ layer, step.forgets stacking layer = false) :
      Keeps stacking state (step.take compile stacking state).log
        (step.take compile stacking state).state := by
    rcases layered_calm stacking layer
      (files_calm compile (performAll_returns compile stacking step.during)) path state with
      ⟨result, final, log, loaded⟩
    rcases perform_asked asks loaded with ⟨kept, performed, same⟩
    exact take_keeps_of_supplied (layered_supplies (files_supplies compile happens) layer) loaded
      performed same asks unforgetting
  cases step with
  | edit edit =>
      apply plain rfl rfl fun _ => rfl
      intro layer
      cases stacking <;> cases layer <;> rfl
  | load | hold => exact asking rfl fun _ => rfl
  | held name offsets => exact plain rfl rfl (fun _ => rfl) fun _ => rfl
  | invalidate issued path =>
      rcases perform_invalidate compile stacking issued path state with ⟨final, performed, memos⟩
      rw [take_apply performed]
      apply Keeps.of_flat_step (List.forall_mem_singleton.mpr rfl) rfl
      · intro layer
        rw [memos]
        cases Step.forgets stacking layer (.invalidate issued path) <;> rfl
      · intro layer spelling table found
        rw [memos] at found
        split at found
        · rw [Memo.find?_forget] at found
          split at found
          · cases found
          · next different => exact ⟨found, fun outdated => different outdated.right⟩
        · next unforgetting => exact ⟨found, fun outdated => unforgetting outdated.left⟩
  | clear issued =>
      rcases perform_clear compile stacking issued state with ⟨final, performed, memos⟩
      rw [take_apply performed]
      apply Keeps.of_flat_step (List.forall_mem_nil _) rfl
      · intro layer
        rw [memos]
        cases Step.forgets stacking layer (.clear issued) <;> rfl
      · intro layer spelling table found
        rw [memos] at found
        split at found
        · cases found
        · next unforgetting => exact ⟨found, fun outdated => unforgetting outdated.left⟩
  | census layer => exact plain rfl rfl (fun _ => rfl) fun _ => rfl

theorem performAll_keeps (compile : Bytes → τ) (stacking : Stacking) (steps : List Step) :
    (performAll compile stacking steps : Action (Event τ) (State φ τ) Empty Unit).Traces
      (Keeps stacking) := by
  induction steps using steps_induction with
  | nil =>
      rw [performAll]
      exact Action.Traces.pure (Keeps.sequential stacking) ()
  | cons step rest during later =>
      rw [performAll_cons]
      exact Action.Traces.bind (Keeps.sequential stacking)
        (take_keeps compile stacking step during) fun _ => later

/-- Whatever happens, and however deep the steps are nested, a load that hands out a table hands
out one that was read for its path after everything that had left such a table out of date before
the load began. -/
theorem performAll_hands_out_current (compile : Bytes → τ) (stacking : Stacking)
    (steps : List Step) (files : φ) {before during after : List (Event τ)} {step : Step}
    {layer : Layer} {path : Path} {table : τ}
    (logged : (performAll compile stacking steps (⟨files, 0, {}, {}, []⟩ : State φ τ)).log =
      before ++ .began step :: (during ++ .ended step (.table table) :: after))
    (inside : Balanced during) (target : step.target? = some (layer, path)) :
    Current stacking layer path table before during := by
  have sound : Sound stacking [] (⟨files, 0, {}, {}, []⟩ : State φ τ) := by
    intro layer path table found
    cases stacking <;> cases layer <;> cases found
  exact (performAll_keeps compile stacking steps _).fresh [] sound before step during table after
    layer path logged inside target

/-- A file under two layers is loaded. Before its table arrives, the file is said to have changed
and is loaded by another name. That table stays, so it is the one that is handed out later. -/
theorem performAll_hands_out_current_of_reload :
    let file : Path := .ofString "a"
    let again : Path := .ofString "a/."
    let told : Step := .invalidate .top file
    let inner : Step := .load .top again [] []
    let outer : Step := .load .top file [] [told, inner]
    let later : Step := .load .top file [] []
    let before : List (Event Bytes) :=
      [.began outer, .read file (.ok [0x0A]), .began told, .forgotten file, .ended told .nothing,
        .began inner, .read again (.ok [0x0A]), .ended inner (.table [0x0A]),
        .noted (.tableOutdated file), .noted (.tableOutdated file), .ended outer (.table [0x0A])]
    let during : List (Event Bytes) := [.noted (.tableRemembered file)]
    let store : Memory := ⟨[], some (.file [0x0A])⟩
    (performAll id .double [outer, later] (⟨store, 0, {}, {}, []⟩ : State Memory Bytes)).log =
        before ++ .began later :: (during ++ .ended later (.table [0x0A]) :: []) ∧
      Current .double .top file [0x0A] before during := by
  intro file again told inner outer later before during store
  have logged : (performAll id .double [outer, later]
      (⟨store, 0, {}, {}, []⟩ : State Memory Bytes)).log =
        before ++ .began later :: (during ++ .ended later (.table [0x0A]) :: []) := by
    dsimp only [before, during, store, outer, later, inner, told, again, file]
    rfl
  exact ⟨logged,
    performAll_hands_out_current id .double [outer, later] store logged (.single rfl) rfl⟩

end SourceDiagnostics.Offsets
