import MapStyle.Proofs.Compute.Calls

/-!
# The order of completions

Outcomes may come back in any order, early or late. Each sequence of calls is compared with the
state that its commands alone lead to: as long as the current job is out the two agree in what
commands decide, and the outcome of the current job makes of either the same state. So once every
job is completed, the state depends on the commands and on the outcome of the last job alone.
-/

namespace MapStyle.History

open ComputeState

variable {h : History} {s : ComputeState}

/-- A history beside the state that its commands alone lead to. -/
structure Settled (h : History) (s : ComputeState) : Prop where
  /-- The two agree in what commands decide. -/
  agree : h.state.Agree s
  /-- The outcome of the current job decides the rest. -/
  outcome : ∀ o, (s.generation, o) ∈ h.completed → h.state = (s.complete s.generation o).1
  /-- Without a current job there is nothing to decide. -/
  idle : (∀ job ∈ h.issued, job.generation ≠ s.generation) → h.state = s

theorem settled_start : Settled {} {} where
  agree := ⟨rfl, rfl, rfl⟩
  outcome := by simp
  idle := fun _ ↦ rfl

/-- A command that leads to a job leaves the outcome to that job. -/
theorem Settled.dispatch_of_some (hs : Settled h s) (hc : Consistent h) {command : Command}
    {job : Job} (hjob : (h.state.dispatch command).2.job? = some job) :
    Settled (h.dispatch command) (s.dispatch command).1 := by
  have hagree := (hs.agree.dispatch command).1
  obtain ⟨hcurrent, hnext⟩ := ComputeState.dispatch_of_some hjob
  have hgeneration : job.generation = (s.dispatch command).1.generation :=
    (job?_eq_some_iff.mp hcurrent).2.trans hagree.generation
  refine ⟨hagree, fun o hmem ↦ ?_, fun hnone ↦ ?_⟩
  · exact absurd (hgeneration.symm.trans hnext) (hc.next_unanswered _ hmem)
  · exact absurd hgeneration (hnone job (by simp [dispatch, hjob]))

/-- A command that leads to no job sets a layer of which nothing is known, or changes the overrides,
which no outcome depends on. -/
theorem Settled.dispatch_of_none (hs : Settled h s) (hc : Consistent h) {command : Command}
    (hjob : (h.state.dispatch command).2.job? = none) :
    Settled (h.dispatch command) (s.dispatch command).1 := by
  have hagree := (hs.agree.dispatch command).1
  have hissued : (h.dispatch command).issued = h.issued := by simp [dispatch, hjob]
  rcases hs.agree.idle_cases hjob with ⟨layer, hstate, hstate', -⟩ | ⟨overrides, hstate, hstate'⟩
  · have hsame : (h.dispatch command).state = (s.dispatch command).1 := by
      rw [hstate', ← hs.agree.withLayer_eq]
      exact hstate
    refine ⟨hagree, fun o hmem ↦ ?_, fun _ ↦ hsame⟩
    have hgeneration : (s.dispatch command).1.generation = h.state.generation + 1 := by
      rw [hstate', hs.agree.generation]
      rfl
    exact absurd hgeneration (hc.next_unanswered _ hmem)
  · refine ⟨hagree, fun o hmem ↦ ?_, fun hnone ↦ ?_⟩
    · rw [hstate'] at hmem ⊢
      rw [complete_overrides, ← hs.outcome o hmem]
      exact hstate
    · rw [hissued, hstate'] at hnone
      rw [hstate', ← hs.idle hnone]
      exact hstate

theorem Settled.dispatch (hs : Settled h s) (hc : Consistent h) (command : Command) :
    Settled (h.dispatch command) (s.dispatch command).1 := by
  cases hjob : (h.state.dispatch command).2.job? with
  | none => exact hs.dispatch_of_none hc hjob
  | some job => exact hs.dispatch_of_some hc hjob

/-- The outcome of the current job makes of both the same state, and any other is discarded. -/
theorem Settled.complete (hs : Settled h s) {generation : Nat} (hout : h.Out generation)
    (outcome : Outcome) : Settled (h.complete generation outcome) s := by
  have hagree := (h.state.agree_complete generation outcome).trans hs.agree
  obtain ⟨⟨job, hjob, hgeneration⟩, hopen⟩ := hout
  by_cases hcurrent : generation = h.state.generation
  · have hcurrent' : generation = s.generation := hcurrent.trans hs.agree.generation
    refine ⟨hagree, fun o hmem ↦ ?_, fun hnone ↦ ?_⟩
    · rcases List.mem_append.mp hmem with hold | hnew
      · exact absurd hcurrent'.symm (hopen _ hold)
      · obtain ⟨-, rfl⟩ := Prod.mk.inj (List.mem_singleton.mp hnew)
        rw [← hcurrent']
        exact hs.agree.complete_eq hcurrent o
    · exact absurd (hgeneration.trans hcurrent') (hnone job hjob)
  · have hstate : (h.complete generation outcome).state = h.state := complete_late hcurrent outcome
    refine ⟨hagree, fun o hmem ↦ ?_, fun hnone ↦ hstate.trans (hs.idle hnone)⟩
    rcases List.mem_append.mp hmem with hold | hnew
    · exact hstate.trans (hs.outcome o hold)
    · have hsame := (Prod.mk.inj (List.mem_singleton.mp hnew)).1
      exact absurd (hsame.symm.trans hs.agree.generation.symm) hcurrent

/-- Orderly calls stay beside their commands alone. -/
theorem settled_after {calls : List Call} (h : Orderly calls) :
    Settled (after calls) (ComputeState.run {} (commandsAlone calls)) := by
  induction h with
  | nil => exact settled_start
  | @dispatch calls command horderly ih =>
    have hcommands : commandsAlone (calls ++ [.dispatch command])
        = commandsAlone calls ++ [.dispatch command] := by simp [commandsAlone, Call.command?]
    rw [after_concat, hcommands, run_append]
    exact ih.dispatch (consistent_of_reachable horderly.reachable) command
  | @complete calls generation outcome horderly hout ih =>
    have hcommands : commandsAlone (calls ++ [.complete generation outcome])
        = commandsAlone calls := by simp [commandsAlone, Call.command?]
    rw [after_concat, hcommands]
    exact ih.complete hout outcome

/-- The jobs that are handed out are those of the work that the commands lead to. -/
theorem issued_after (calls : List Call) :
    (after calls).issued = (ComputeState.effects {} calls).filterMap Effect.job? := by
  induction calls using List.reverseRecOn with
  | nil => rfl
  | append_singleton calls c ih =>
    rw [after_concat, effects_append, List.filterMap_append, ← ih]
    cases c with
    | complete generation outcome => simp [call, complete, effects, trace, ComputeState.call]
    | dispatch command =>
      have hstate := state_after calls
      cases hjob : ((after calls).state.dispatch command).2.job? <;>
        simp [call, dispatch, effects, trace, ComputeState.call, ← hstate, hjob]

/-- A job that was handed out and is no longer out has an outcome. -/
theorem exists_outcome {generation : Nat} (hissued : ∃ job ∈ h.issued, job.generation = generation)
    (hout : ¬h.Out generation) : ∃ o, (generation, o) ∈ h.completed := by
  by_contra hnone
  push Not at hnone
  refine hout ⟨hissued, fun c hc heq ↦ hnone c.2 ?_⟩
  rw [← heq]
  exact hc

/-- Two sequences with the same commands, in which every job is completed once with the same
outcome, lead to the same work and to the same state, wherever the completions stand. -/
theorem run_eq_run_of_orderly {calls calls' : List Call} (horderly : Orderly calls)
    (horderly' : Orderly calls')
    (hcommands : calls.filterMap Call.command? = calls'.filterMap Call.command?)
    (hall : ∀ generation, ¬(after calls).Out generation)
    (hall' : ∀ generation, ¬(after calls').Out generation)
    (hsame : ∀ generation outcome outcome', .complete generation outcome ∈ calls →
      .complete generation outcome' ∈ calls' → outcome = outcome') :
    effects {} calls = effects {} calls' ∧ run {} calls = run {} calls' ∧
      ∀ held, (run {} calls).view? held = (run {} calls').view? held := by
  have halone : commandsAlone calls = commandsAlone calls' := by
    rw [commandsAlone, commandsAlone, hcommands]
  have hagree : Agree {} {} := ⟨rfl, rfl, rfl⟩
  have heffects : effects {} calls = effects {} calls' := by
    rw [hagree.effects_eq calls, hagree.effects_eq calls', halone]
  have hissued : (after calls).issued = (after calls').issued := by
    rw [issued_after, issued_after, heffects]
  have hstate : run {} calls = run {} calls' := by
    rw [← state_after, ← state_after]
    have hs := settled_after horderly
    have hs' := settled_after horderly'
    rw [← halone] at hs'
    generalize run {} (commandsAlone calls) = s at hs hs'
    by_cases hjob : ∃ job ∈ (after calls).issued, job.generation = s.generation
    · obtain ⟨o, ho⟩ := exists_outcome hjob (hall _)
      obtain ⟨o', ho'⟩ := exists_outcome (hissued ▸ hjob) (hall' _)
      have heq := hsame _ o o' (mem_completed_after.mp ho) (mem_completed_after.mp ho')
      rw [hs.outcome o ho, hs'.outcome o' ho', heq]
    · push Not at hjob
      rw [hs.idle hjob, hs'.idle (hissued ▸ hjob)]
  exact ⟨heffects, hstate, fun held ↦ by rw [hstate]⟩

/-- The commands that the two sequences below have in common. -/
def setAndDelete : Command × Command :=
  (.setLayer (some (.simple { id := "A", data := some { format := "geojson" } })),
    .deleteFeatures ["a"])

/-- The first evaluation fails before the second is asked for. -/
def prompt : List Call :=
  [.dispatch setAndDelete.1, .complete 1 (.error .config), .dispatch setAndDelete.2,
    .complete 2 (.ok (some { layer := {}, features := [] }))]

/-- The second evaluation comes back before the first. -/
def reversed : List Call :=
  [.dispatch setAndDelete.1, .dispatch setAndDelete.2,
    .complete 2 (.ok (some { layer := {}, features := [] })), .complete 1 (.error .config)]

theorem orderly_prompt : Orderly prompt := by
  have hfailed : Orderly (prompt.take 2) :=
    .complete (.error .config) (.dispatch _ .nil) (out_iff.mpr (by decide))
  exact .complete _ (.dispatch setAndDelete.2 hfailed) (out_iff.mpr (by decide))

theorem orderly_reversed : Orderly reversed := by
  have hboth : Orderly (reversed.take 2) := .dispatch _ (.dispatch setAndDelete.1 .nil)
  have hsecond : Orderly (reversed.take 3) := .complete _ hboth (out_iff.mpr (by decide))
  exact .complete _ hsecond (out_iff.mpr (by decide))

theorem run_prompt_eq_run_reversed :
    (run {} (prompt.take 2)).failed = true ∧ run {} prompt = run {} reversed := by
  have hall : ∀ generation ∈ (after prompt).issued.map Job.generation,
      generation ∈ (after prompt).completed.map (·.1) := by decide
  have hall' : ∀ generation ∈ (after reversed).issued.map Job.generation,
      generation ∈ (after reversed).completed.map (·.1) := by decide
  refine ⟨rfl, (run_eq_run_of_orderly orderly_prompt orderly_reversed rfl ?_ ?_ ?_).2.1⟩
  · exact fun generation hout ↦ (out_iff.mp hout).2 (hall generation (out_iff.mp hout).1)
  · exact fun generation hout ↦ (out_iff.mp hout).2 (hall' generation (out_iff.mp hout).1)
  · intro generation outcome outcome' hmem hmem'
    simp only [prompt, reversed, List.mem_cons, List.not_mem_nil, or_false, false_or, reduceCtorEq,
      Call.complete.injEq] at hmem hmem'
    grind

end MapStyle.History
