import SourceDiagnostics.Proofs.Offsets.Nesting
import SourceDiagnostics.Proofs.Offsets.Steps

/-!
No table that is handed out is out of date. A table may have been read before the load that hands
it out began, but then its file was not said to have changed in between. `Sound` is the invariant
that carries this: every remembered table was read since then. It is kept because the generation
of a memo counts the steps that made it forget something, so a table that was read before such a
step and arrives after it is not remembered.
-/

namespace SourceDiagnostics.Offsets

variable {φ τ : Type}

/-- Whether a step makes a layer forget something. The upper of two layers passes on to the lower
one that a file has changed. -/
def Step.forgets (stacking : Stacking) (layer : Layer) : Step → Bool
  | .invalidate issued _ => stacking == .single || issued == layer || issued == .top
  | .clear issued => stacking == .single || issued == layer
  | _ => false

/-- Whether a step, when it has ended, leaves what a layer was handed for a path before out of date.
What is cleared from the upper of two layers may still be remembered in the lower one. -/
def Step.Outdates (stacking : Stacking) (layer : Layer) (path : Path) (step : Step) : Prop :=
  step.forgets stacking layer = true ∧
    match step with
    | .invalidate _ other => path ≈ other
    | .clear _ => ¬ (stacking = .double ∧ layer = .top)
    | _ => False

def Step.target? : Step → Option (Layer × Path)
  | .load layer path _ _ => some (layer, path)
  | .hold _ path => some (.top, path)
  | _ => none

/-- A table that was read for a path, after everything in the log that leaves it out of date for a
layer. -/
def ReadSince (stacking : Stacking) (layer : Layer) (path : Path) (table : τ)
    (log : List (Event τ)) : Prop :=
  ∃ front spelled back, log = front ++ .read spelled (.ok table) :: back ∧ spelled ≈ path ∧
    ∀ step answer, .ended step answer ∈ back → ¬ step.Outdates stacking layer path

/-- A table that was read since, or while it was asked for. -/
def Current (stacking : Stacking) (layer : Layer) (path : Path) (table : τ)
    (past during : List (Event τ)) : Prop :=
  ReadSince stacking layer path table past ∨
    ∃ spelled, spelled ≈ path ∧ .read spelled (.ok table) ∈ during

def memo (stacking : Stacking) (layer : Layer) (state : State φ τ) : Memo τ :=
  (State.slot stacking layer).get state

def Sound (stacking : Stacking) (past : List (Event τ)) (state : State φ τ) : Prop :=
  ∀ layer path table, (memo stacking layer state).find? path = some table →
    ReadSince stacking layer path table past

def Fresh (stacking : Stacking) (past log : List (Event τ)) : Prop :=
  ∀ before step during table after layer path,
    log = before ++ .began step :: (during ++ .ended step (.table table) :: after) →
    Balanced during → step.target? = some (layer, path) →
    Current stacking layer path table (past ++ before) during

def Event.forgets (stacking : Stacking) (layer : Layer) : Event τ → Bool
  | .ended step _ => step.forgets stacking layer
  | _ => false

/-- What every part of a history does. -/
structure Keeps (stacking : Stacking) (state : State φ τ) (log : List (Event τ))
    (final : State φ τ) : Prop where
  balanced : Balanced log
  counted : ∀ layer, (memo stacking layer final).generation =
    (memo stacking layer state).generation + log.countP (Event.forgets stacking layer)
  sound : ∀ past, Sound stacking past state → Sound stacking (past ++ log) final
  fresh : ∀ past, Sound stacking past state → Fresh stacking past log

variable {stacking : Stacking} {layer : Layer} {path : Path} {table : τ} {state final : State φ τ}

namespace ReadSince

theorem append {log later : List (Event τ)} (since : ReadSince stacking layer path table log)
    (undisturbed : ∀ step answer, .ended step answer ∈ later →
      ¬ step.Outdates stacking layer path) :
    ReadSince stacking layer path table (log ++ later) := by
  rcases since with ⟨front, spelled, back, same, equal, calm⟩
  refine ⟨front, spelled, back ++ later, by rw [same, List.append_assoc]; rfl, equal, ?_⟩
  intro step answer member
  rcases List.mem_append.mp member with early | late
  · exact calm step answer early
  · exact undisturbed step answer late

theorem weaken {log : List (Event τ)} {other : Layer} {spelling : Path}
    (since : ReadSince stacking layer path table log) (equal : path ≈ spelling)
    (weaker : ∀ step : Step, step.Outdates stacking other spelling →
      step.Outdates stacking layer path) :
    ReadSince stacking other spelling table log := by
  rcases since with ⟨front, spelled, back, same, equal', calm⟩
  refine ⟨front, spelled, back, same, Setoid.trans equal' equal, ?_⟩
  intro step answer member outdated
  exact calm step answer member (weaker step outdated)

end ReadSince

theorem Current.readSince {past log : List (Event τ)}
    (current : Current stacking layer path table past log)
    (undisturbed : ∀ step answer, .ended step answer ∈ log →
      ¬ step.Outdates stacking layer path) :
    ReadSince stacking layer path table (past ++ log) := by
  rcases current with since | ⟨spelled, equal, member⟩
  · exact since.append undisturbed
  · rcases List.append_of_mem member with ⟨front, back, same⟩
    refine ⟨past ++ front, spelled, back, by rw [same, List.append_assoc], equal, ?_⟩
    intro step answer late
    apply undisturbed step answer
    rw [same]
    exact List.mem_append_right _ (List.mem_cons_of_mem _ late)

theorem Keeps.undisturbed {log : List (Event τ)} (keeps : Keeps stacking state log final)
    (unmoved : (memo stacking layer final).generation = (memo stacking layer state).generation) :
    ∀ step answer, .ended step answer ∈ log → ¬ step.Outdates stacking layer path := by
  intro step answer member outdated
  have counted := keeps.counted layer
  have none_forgets : log.countP (Event.forgets stacking layer) = 0 := by omega
  exact List.countP_eq_zero.mp none_forgets _ member outdated.left

/-! Logs and states that are put together. -/

theorem Fresh.append {past first last : List (Event τ)} (balanced : Balanced first)
    (front : Fresh stacking past first) (back : Fresh stacking (past ++ first) last) :
    Fresh stacking past (first ++ last) := by
  intro before step during table after layer path split inside target
  rcases balanced.step_of_append inside split with ⟨rest, same⟩ | ⟨earlier, same, same'⟩
  · exact front before step during table rest layer path same inside target
  · rw [same, ← List.append_assoc]
    exact back earlier step during table after layer path same' inside target

theorem Fresh.enclose {past inner : List (Event τ)} {step : Step} {answer : Answer τ}
    (balanced : Balanced inner) (fresh : Fresh stacking (past ++ [.began step]) inner)
    (current : ∀ table layer path, answer = .table table → step.target? = some (layer, path) →
      Current stacking layer path table past inner) :
    Fresh stacking past (.began step :: (inner ++ [.ended step answer])) := by
  intro before other during table after layer path split inside target
  rcases balanced.step_of_enclosed inside split with
    ⟨empty, rfl, rfl, same⟩ | ⟨earlier, rest, started, same⟩
  · rw [empty, List.append_nil]
    exact current table layer path same target
  · have found := fresh earlier other during table rest layer path same inside target
    rw [started]
    simpa using found

theorem Fresh.flat {past log : List (Event τ)} (flat : ∀ event ∈ log, event.change = 0) :
    Fresh stacking past log := by
  intro before step during table after layer path split
  have bracket : Event.began step ∈ log := by
    rw [split]
    exact List.mem_append_right _ List.mem_cons_self
  cases flat _ bracket

theorem Sound.append {past log : List (Event τ)} (sound : Sound stacking past state)
    (kept : ∀ layer path table, (memo stacking layer final).find? path = some table →
      (memo stacking layer state).find? path = some table ∧
        ∀ step answer, .ended step answer ∈ log → ¬ step.Outdates stacking layer path) :
    Sound stacking (past ++ log) final := by
  intro layer path table found
  rcases kept layer path table found with ⟨earlier, undisturbed⟩
  exact (sound layer path table earlier).append undisturbed

theorem Sound.began {past : List (Event τ)} (sound : Sound stacking past state) (step : Step) :
    Sound stacking (past ++ [.began step]) state := by
  apply sound.append
  intro layer path table found
  refine ⟨found, ?_⟩
  intro other answer member
  cases List.mem_singleton.mp member

theorem not_ended_of_flat {log : List (Event τ)} (flat : ∀ event ∈ log, event.change = 0)
    {step : Step} {answer : Answer τ} : .ended step answer ∉ log := by
  intro member
  cases flat _ member

theorem countP_forgets_of_flat {log : List (Event τ)} (flat : ∀ event ∈ log, event.change = 0)
    (layer : Layer) : log.countP (Event.forgets stacking layer) = 0 := by
  rw [List.countP_eq_zero]
  intro event member
  cases event with
  | ended step answer => exact absurd member (not_ended_of_flat flat)
  | began | read | forgotten | noted => exact Bool.false_ne_true

namespace Keeps

theorem sequential (stacking : Stacking) :
    Sequential (Keeps stacking : State φ τ → List (Event τ) → State φ τ → Prop) where
  refl state :=
    { balanced := .nil
      counted := fun _ => rfl
      sound := fun past sound => by rwa [List.append_nil]
      fresh := fun past _ => .flat (List.forall_mem_nil _) }
  trans front back :=
    { balanced := front.balanced.append back.balanced
      counted := fun layer => by
        rw [back.counted, front.counted, List.countP_append, Nat.add_assoc]
      sound := fun past sound => by
        rw [← List.append_assoc]
        exact back.sound _ (front.sound past sound)
      fresh := fun past sound =>
        .append front.balanced (front.fresh past sound) (back.fresh _ (front.sound past sound)) }

theorem flat {log : List (Event τ)} (flat : ∀ event ∈ log, event.change = 0)
    (same : ∀ layer, memo stacking layer final = memo stacking layer state) :
    Keeps stacking state log final where
  balanced := .flat flat
  counted layer := by
    rw [same, countP_forgets_of_flat flat]
    rfl
  sound past sound := by
    apply sound.append
    intro layer path table found
    rw [same] at found
    exact ⟨found, fun _ _ member => absurd member (not_ended_of_flat flat)⟩
  fresh _ _ := .flat flat

theorem enclose {inner : List (Event τ)} (keeps : Keeps stacking state inner final) {step : Step}
    {answer : Answer τ} (unforgetting : ∀ layer, step.forgets stacking layer = false)
    (current : ∀ past table layer path, Sound stacking past state → answer = .table table →
      step.target? = some (layer, path) → Current stacking layer path table past inner) :
    Keeps stacking state (.began step :: (inner ++ [.ended step answer])) final where
  balanced := keeps.balanced.enclose step answer
  counted layer := by
    have ending : Event.forgets stacking layer (.ended step answer : Event τ) = false :=
      unforgetting layer
    rw [keeps.counted, List.countP_cons_of_neg Bool.false_ne_true, List.countP_append,
      List.countP_singleton, ending]
    rfl
  sound past sound := by
    have ended : Sound stacking (past ++ [.began step] ++ inner ++ [.ended step answer]) final := by
      apply (keeps.sound _ (sound.began step)).append
      intro layer path table found
      refine ⟨found, fun other _ member outdated => ?_⟩
      cases List.mem_singleton.mp member
      have forgets := outdated.left
      rw [unforgetting] at forgets
      cases forgets
    simpa using ended
  fresh past sound := by
    apply Fresh.enclose keeps.balanced (keeps.fresh _ (sound.began step))
    exact fun table layer path => current past table layer path sound

theorem of_flat_step {inner : List (Event τ)} (flat : ∀ event ∈ inner, event.change = 0)
    {step : Step} {answer : Answer τ} (untargeted : step.target? = none)
    (counted : ∀ layer, (memo stacking layer final).generation =
      (memo stacking layer state).generation + (step.forgets stacking layer).toNat)
    (kept : ∀ layer path table, (memo stacking layer final).find? path = some table →
      (memo stacking layer state).find? path = some table ∧ ¬ step.Outdates stacking layer path) :
    Keeps stacking state (.began step :: (inner ++ [.ended step answer])) final where
  balanced := (Balanced.flat flat).enclose step answer
  counted layer := by
    have ending : Event.forgets stacking layer (.ended step answer : Event τ) =
        step.forgets stacking layer := rfl
    rw [counted, List.countP_cons_of_neg Bool.false_ne_true, List.countP_append,
      countP_forgets_of_flat flat, List.countP_singleton, ending]
    cases step.forgets stacking layer <;> rfl
  sound past sound := by
    apply sound.append
    intro layer path table found
    rcases kept layer path table found with ⟨earlier, current⟩
    refine ⟨earlier, fun other answer' member outdated => ?_⟩
    rcases List.mem_cons.mp member with started | later
    · cases started
    rcases List.mem_append.mp later with inside | last
    · exact not_ended_of_flat flat inside
    · cases List.mem_singleton.mp last
      exact current outdated
  fresh past sound := by
    apply Fresh.enclose (.flat flat) (.flat flat)
    intro table layer path _ target
    rw [untargeted] at target
    cases target

end Keeps

variable [FileStore φ]

/-- A step that asks for a table comes to what the load of that table comes to. If it puts the table
aside, then that changes no memo. -/
theorem perform_asked {compile : Bytes → τ} {step : Step} {result : Except FileError τ}
    {log : List (Event τ)} (asks : step.target? = some (layer, path))
    (loaded : (layered stacking layer
      (files compile (performAll compile stacking step.during))).load path state =
        ⟨.ofExcept result, final, log⟩) :
    ∃ kept, step.perform compile stacking state = ⟨.returned (.ofExcept result), kept, log⟩ ∧
      ∀ other, memo stacking other kept = memo stacking other final := by
  cases step with
  | load layer path offsets during =>
      cases asks
      exact ⟨final, perform_load loaded offsets, fun _ => rfl⟩
  | hold name path =>
      cases asks
      have alone : (Step.hold name path).during = [] := rfl
      rw [alone, performAll] at loaded
      rcases perform_hold loaded name with ⟨kept, performed, _, _, lower, upper⟩
      refine ⟨kept, performed, fun other => ?_⟩
      cases stacking <;> cases other <;> first | exact lower | exact upper
  | edit | held | invalidate | clear | census => cases asks

end SourceDiagnostics.Offsets
