import Mathlib.Data.List.Forall2
import MapStyle.Proofs.Styling.Lifting

/-!
# Tasks

A task that is not interrupted does what the evaluation with a memory does. What a task comes to
under an invariant of the memory is defined along its accesses, each of which has to keep the
invariant. It is then the same without interruption and for any order of the accesses of several
tasks, because an access of another task also keeps the invariant.
-/

namespace MapStyle.Task

variable {α β : Type}

/-! ## Without interruption -/

@[simp] theorem run_once (act : StateM Memo α) (memo : Memo) : (once act).run memo = act memo := rfl

theorem run_bind (t : Task α) (f : α → Task β) (memo : Memo) :
    (t >>= f).run memo = (f (t.run memo).1).run (t.run memo).2 := by
  induction t generalizing memo with
  | done a => rfl
  | access change next ih => exact ih memo (change memo)

/-- A task does, without interruption, what a computation on the memory does. -/
def Does (α : Type) (t : Task α) (act : StateM Memo α) : Prop := ∀ memo, t.run memo = act memo

theorem respects_does : Styling.Respects Task (StateM Memo) Does where
  pure := fun _ _ ↦ rfl
  bind := by
    intro α β t act f g ht hf memo
    rw [run_bind, ht memo]
    exact hf _ _

theorem textReferences_does (source : String) :
    Does _ (textReferences source) (Memo.onReferences (Memo.textReferences source)) := by
  intro memo
  rw [textReferences, run_bind, run_once]
  simp only [Memo.onReferences, Memo.textReferences]
  cases hfound : memo.references.get source with
  | mk found references => cases found <;> rfl

theorem allReferences_does (sources : List String) :
    Does _ (allReferences sources) (Memo.onReferences (Memo.allReferences sources)) := by
  induction sources with
  | nil => exact fun memo ↦ rfl
  | cons source rest ih =>
    intro memo
    rw [allReferences, run_bind, textReferences_does, run_bind, ih]
    rfl

/-- Two accesses, one that looks and one that stores, do what the memory does at once. -/
theorem program_does (source : String) :
    Does _ (program source) (Memo.onPrograms (Memo.program source)) := by
  intro memo
  rw [program, run_bind, run_once]
  simp only [Memo.onPrograms, Memo.program]
  cases hfound : memo.programs.get source with
  | mk found programs =>
    cases found with
    | some e => rfl
    | none =>
      dsimp only
      cases Styling.read source <;> rfl

theorem evalText_does (scope : Scope) (defines : Option (Table String)) (source : String) :
    Does _ (evalText scope defines source) (Memo.evalText scope defines source) :=
  respects_does.textWith program_does scope defines source

theorem evalStyle_does (scope : Scope) (defines : Option (Table String)) (e : StyleExpression) :
    Does _ (evalStyle scope defines e) (Memo.evalStyle scope defines e) :=
  respects_does.styleWith (evalText_does scope defines) e

/-- Interrupted nowhere, an evaluation by accesses is that of the memory. -/
theorem evalRemembered_does (scope : Scope) (defines : Option (Table String))
    (e : StyleExpression) :
    Does _ (evalRemembered scope defines e) (Memo.evalRemembered scope defines e) := by
  apply respects_does.bind (allReferences_does e.texts)
  intro references
  apply respects_does.bind (fun memo ↦ rfl)
  intro found
  cases found with
  | some v => exact respects_does.pure _
  | none =>
    apply respects_does.bind (evalStyle_does scope defines e)
    intro answer
    cases answer with
    | error fault => exact respects_does.pure _
    | ok v => exact respects_does.bind (fun memo ↦ rfl) fun _ ↦ respects_does.pure _

theorem evalField_does (scope : Scope) (defines : Option (Table String)) (style : FieldStyle) :
    Does _ (evalField scope defines style) (Memo.evalField scope defines style) := by
  unfold evalField Memo.evalField
  cases style.expression? with
  | none => exact respects_does.pure _
  | some e => exact evalRemembered_does scope defines e

theorem styleFeature_does (l : SimpleLayer) (f : Feature) :
    Does _ (styleFeature l f) (Memo.styleFeature l f) :=
  respects_does.bind (respects_does.appearancesWith fun _ _ _ _ _ ↦ evalField_does _ _ _)
    fun _ ↦ respects_does.pure _

/-! ## Under an invariant -/

/-- The accesses of a task keep an invariant of the memory, and lead it to a value. -/
def Yields (I : Memo → Prop) : Task α → α → Prop
  | done a, b => a = b
  | access change next, b => ∀ memo, I memo → I (change memo) ∧ (next memo).Yields I b

variable {I : Memo → Prop}

/-- The invariant holds between the two tasks, whatever other tasks do there. -/
theorem Yields.bind {t : Task α} {a : α} {f : α → Task β} {b : β} (ht : t.Yields I a)
    (hf : (f a).Yields I b) : (t >>= f).Yields I b := by
  induction t with
  | done a' =>
    cases ht
    exact hf
  | access change next ih =>
    intro memo hmemo
    exact ⟨(ht memo hmemo).1, ih memo (ht memo hmemo).2⟩

theorem respects_yields : Styling.Respects Task Id fun _ t a ↦ t.Yields I a where
  pure := fun _ ↦ rfl
  bind := fun ht hf ↦ ht.bind (hf _)

/-- A task that begins with an access goes on from what the access finds. -/
theorem Yields.once_bind {act : StateM Memo α} {f : α → Task β} {b : β}
    (h : ∀ memo, I memo → I (act memo).2 ∧ (f (act memo).1).Yields I b) :
    (once act >>= f).Yields I b := h

/-- Without interruption a task comes to its value and leaves the invariant. -/
theorem Yields.run {t : Task α} {a : α} (h : t.Yields I a) {memo : Memo} (hmemo : I memo) :
    (t.run memo).1 = a ∧ I (t.run memo).2 := by
  induction t generalizing memo with
  | done a' => exact ⟨h, hmemo⟩
  | access change next ih => exact ih memo (h memo hmemo).2 (h memo hmemo).1

/-! ## In any order -/

/-- An access of one of several tasks leaves all of them on the way to their values. -/
theorem Step.yields {memo memo' : Memo} {tasks tasks' : List (Task α)} {values : List α}
    (h : Step memo tasks memo' tasks') (hmemo : I memo)
    (htasks : List.Forall₂ (Yields I) tasks values) :
    I memo' ∧ List.Forall₂ (Yields I) tasks' values := by
  obtain ⟨before, after, change, next⟩ := h
  induction before generalizing values with
  | nil =>
    cases htasks with
    | cons hhead htail => exact ⟨(hhead memo hmemo).1, .cons (hhead memo hmemo).2 htail⟩
  | cons t before ih =>
    cases htasks with
    | cons hhead htail =>
      obtain ⟨hmemo', htail'⟩ := ih htail
      exact ⟨hmemo', .cons hhead htail'⟩

/-- Whatever the order of the accesses, each task stays on the way to its value. -/
theorem Steps.yields {memo memo' : Memo} {tasks tasks' : List (Task α)} {values : List α}
    (h : Steps memo tasks memo' tasks') (hmemo : I memo)
    (htasks : List.Forall₂ (Yields I) tasks values) :
    I memo' ∧ List.Forall₂ (Yields I) tasks' values := by
  induction h with
  | refl => exact ⟨hmemo, htasks⟩
  | step _ hstep ih =>
    obtain ⟨hmemo', htasks'⟩ := ih htasks
    exact hstep.yields hmemo' htasks'

/-- Tasks that have all come to a value have come to theirs. -/
theorem eq_of_yields_done {values others : List α}
    (h : List.Forall₂ (Yields I) (values.map done) others) : values = others := by
  rw [List.forall₂_map_left_iff] at h
  exact List.forall₂_eq_eq_eq (α := α) ▸ h

/-! ## One after the other -/

theorem Steps.trans {memo memo' memo'' : Memo} {tasks tasks' tasks'' : List (Task α)}
    (h : Steps memo tasks memo' tasks') (h' : Steps memo' tasks' memo'' tasks'') :
    Steps memo tasks memo'' tasks'' := by
  induction h' with
  | refl => exact h
  | step _ hstep ih => exact .step (ih h) hstep

/-- One of several tasks may be run without interruption. -/
theorem steps_run (before after : List (Task α)) (t : Task α) (memo : Memo) :
    Steps memo (before ++ t :: after) (t.run memo).2 (before ++ done (t.run memo).1 :: after) := by
  induction t generalizing memo with
  | done a => exact .refl _ _
  | access change next ih =>
    have hfirst : Steps memo (before ++ access change next :: after) (change memo)
        (before ++ next memo :: after) := .step (.refl _ _) (.access memo before after change next)
    exact hfirst.trans (ih memo (change memo))

/-- Several tasks can come to their values: one order is to run them one after the other. -/
theorem exists_steps (before : List α) (tasks : List (Task α)) (memo : Memo) :
    ∃ (memo' : Memo) (values : List α),
      Steps memo (before.map done ++ tasks) memo' (values.map done) := by
  induction tasks generalizing before memo with
  | nil => exact ⟨memo, before, by rw [List.append_nil]; exact .refl _ _⟩
  | cons t rest ih =>
    obtain ⟨memo', values, hrest⟩ := ih (before ++ [(t.run memo).1]) (t.run memo).2
    refine ⟨memo', values, (steps_run (before.map done) rest t memo).trans ?_⟩
    simpa using hrest

end MapStyle.Task
