import Mathlib.Data.List.Induction
import MapStyle.Proofs.Compute.Session

/-!
# Sequences of calls

A state is driven by calls: commands are dispatched, and outcomes of evaluations are completed. Each
call gives something back, which is kept here beside the call in the trace of a sequence. The work
that commands lead to is the same in all sequences with the same commands.
-/

namespace MapStyle

namespace ComputeState

/-- A call on the state of a computation. -/
inductive Call where
  | dispatch (command : Command)
  /-- The outcome of the evaluation of a generation is completed. -/
  | complete (generation : Nat) (outcome : Outcome)

def Call.command? : Call → Option Command
  | dispatch command => some command
  | complete _ _ => none

/-- What a call gives back: the work that a command leads to, or whether an outcome counts. -/
abbrev Reply := Effect ⊕ Bool

/-- The state after a call, and what the call gives back. -/
def call (s : ComputeState) : Call → ComputeState × Reply
  | .dispatch command => ((s.dispatch command).1, .inl (s.dispatch command).2)
  | .complete generation outcome =>
    ((s.complete generation outcome).1, .inr (s.complete generation outcome).2)

def run (s : ComputeState) (calls : List Call) : ComputeState :=
  calls.foldl (fun s c ↦ (s.call c).1) s

/-- Several calls, one after the other, each with what it gives back. -/
def trace : ComputeState → List Call → List (Call × Reply)
  | _, [] => []
  | s, c :: rest => (c, (s.call c).2) :: trace (s.call c).1 rest

/-- The work that the commands among several calls lead to. -/
def effects (s : ComputeState) (calls : List Call) : List Effect :=
  (s.trace calls).filterMap fun e ↦ e.2.getLeft?

variable {s t : ComputeState}

@[simp] theorem run_cons (s : ComputeState) (c : Call) (rest : List Call) :
    s.run (c :: rest) = (s.call c).1.run rest := rfl

theorem run_append (s : ComputeState) (calls calls' : List Call) :
    s.run (calls ++ calls') = (s.run calls).run calls' := List.foldl_append

theorem trace_append (s : ComputeState) (calls calls' : List Call) :
    s.trace (calls ++ calls') = s.trace calls ++ (s.run calls).trace calls' := by
  induction calls generalizing s with
  | nil => rfl
  | cons c rest ih => rw [List.cons_append, trace, trace, ih, run_cons, List.cons_append]

theorem effects_append (s : ComputeState) (calls calls' : List Call) :
    s.effects (calls ++ calls') = s.effects calls ++ (s.run calls).effects calls' := by
  rw [effects, trace_append, List.filterMap_append]
  rfl

/-- The commands among several calls, as calls. -/
def commandsAlone (calls : List Call) : List Call :=
  (calls.filterMap Call.command?).map .dispatch

/-- The work is that of the commands alone. -/
theorem Agree.effects_eq (h : Agree s t) (calls : List Call) :
    s.effects calls = t.effects (commandsAlone calls) := by
  induction calls generalizing s t with
  | nil => rfl
  | cons c rest ih =>
    cases c with
    | dispatch command =>
      obtain ⟨hagree, heffect⟩ := h.dispatch command
      calc
        s.effects (.dispatch command :: rest)
            = (s.dispatch command).2 :: (s.dispatch command).1.effects rest := rfl
        _ = (t.dispatch command).2 :: (t.dispatch command).1.effects (commandsAlone rest) := by
          rw [heffect, ih hagree]
        _ = t.effects (commandsAlone (.dispatch command :: rest)) := rfl
    | complete generation outcome =>
      exact ih ((s.agree_complete generation outcome).trans h)

end ComputeState

/-! ## The history of calls -/

namespace History

open ComputeState

def call (h : History) : Call → History
  | .dispatch command => h.dispatch command
  | .complete generation outcome => h.complete generation outcome

/-- The history of calls from the beginning on. -/
def after (calls : List Call) : History := calls.foldl call {}

theorem after_concat (calls : List Call) (c : Call) : after (calls ++ [c]) = (after calls).call c :=
  by simp [after]

/-- The state in the history of calls is the one that the calls lead to. -/
theorem state_after (calls : List Call) : (after calls).state = ComputeState.run {} calls := by
  induction calls using List.reverseRecOn with
  | nil => rfl
  | append_singleton calls c ih =>
    rw [after_concat, run_append, ← ih]
    cases c <;> rfl

/-- What is completed is what the calls complete. -/
theorem mem_completed_after {calls : List Call} {generation : Nat} {outcome : Outcome} :
    (generation, outcome) ∈ (after calls).completed ↔ .complete generation outcome ∈ calls := by
  induction calls using List.reverseRecOn with
  | nil => simp [after]
  | append_singleton calls c ih =>
    rw [after_concat]
    cases c with
    | dispatch command => simpa [call, dispatch] using ih
    | complete generation' outcome' => simp [call, complete, ih]

theorem out_iff {h : History} {generation : Nat} :
    h.Out generation ↔
      generation ∈ h.issued.map Job.generation ∧ generation ∉ h.completed.map (·.1) := by
  rw [Out, List.mem_map, List.mem_map, not_exists]
  exact and_congr_right fun _ ↦ forall_congr' fun _ ↦ not_and.symm

/-- Outcomes are completed only for jobs that are out, so for each job at most once. -/
inductive Orderly : List Call → Prop
  | nil : Orderly []
  | dispatch {calls : List Call} (command : Command) : Orderly calls →
      Orderly (calls ++ [.dispatch command])
  | complete {calls : List Call} {generation : Nat} (outcome : Outcome) : Orderly calls →
      (after calls).Out generation → Orderly (calls ++ [.complete generation outcome])

/-- Orderly calls lead through reachable histories only. -/
theorem Orderly.reachable {calls : List Call} (h : Orderly calls) : Reachable (after calls) := by
  induction h with
  | nil => exact .start
  | dispatch command _ ih =>
    rw [after_concat]
    exact .dispatch command ih
  | complete outcome _ hout ih =>
    rw [after_concat]
    exact .complete outcome ih hout

end History

end MapStyle
