import MapStyle.Compute.Flight
import MapStyle.Proofs.Compute.Generation
import MapStyle.Proofs.Store

/-!
# What a command does to a session

A command changes the state, the part of the store that its job belongs to, and nothing else before
the job is started. A job is finished with the features that its part holds, or else with what its
fetch gives. The layer, the overrides and the generation depend on the commands alone; evaluations
have no part in them.
-/

namespace MapStyle

/-- The part of the store that the features of a job belong to. -/
def Job.key (job : Job) : StoreKey := Store.keyOf job.layer.id job.data

/-! ## Effects -/

namespace Effect

/-- The store after the features of an effect were added or removed. -/
def changeStore : Effect → Store → Store
  | write job features, s => s.write job.layer.id job.data features
  | delete job ids, s => s.delete job.layer.id job.data ids
  | _, s => s

/-- What an effect makes of the part of the store that its job belongs to. -/
def changePart : Effect → Option Buckets → Option Buckets
  | write _ features, b => some (features.foldl Buckets.append (b.getD []))
  | delete _ ids, b => b.map (Buckets.delete · ids)
  | _, b => b

/-- An effect changes the part under the key of its job and no other. -/
theorem part?_changeStore {effect : Effect} {job : Job} (h : effect.job? = some job) (s : Store)
    (key : StoreKey) :
    (effect.changeStore s).part? key
      = if key = job.key then effect.changePart (s.part? key) else s.part? key := by
  by_cases hkey : key = job.key
  · rw [if_pos hkey, hkey]
    cases effect with
    | none => cases h
    | fetch layer data range => cases h
    | evaluate job' => rfl
    | write job' features =>
      cases h
      exact (Store.part?_write s _ _ _ features).trans (if_pos rfl)
    | delete job' ids =>
      cases h
      exact (Store.part?_delete s _ _ _ ids).trans (if_pos rfl)
  · rw [if_neg hkey]
    cases effect with
    | none => cases h
    | fetch layer data range => cases h
    | evaluate job' => rfl
    | write job' features =>
      cases h
      exact (Store.part?_write s _ _ _ features).trans (if_neg hkey)
    | delete job' ids =>
      cases h
      exact (Store.part?_delete s _ _ _ ids).trans (if_neg hkey)

end Effect

/-! ## States -/

namespace ComputeState

/-- Two states differ at most in what evaluations came to. -/
structure Agree (s t : ComputeState) : Prop where
  layer : s.layer = t.layer
  overrides : s.overrides = t.overrides
  generation : s.generation = t.generation

variable {s t : ComputeState}

theorem Agree.symm (h : Agree s t) : Agree t s :=
  ⟨h.layer.symm, h.overrides.symm, h.generation.symm⟩

theorem Agree.trans {u : ComputeState} (h : Agree s t) (h' : Agree t u) : Agree s u :=
  ⟨h.layer.trans h'.layer, h.overrides.trans h'.overrides, h.generation.trans h'.generation⟩

theorem Agree.fetchable?_eq (h : Agree s t) : s.fetchable? = t.fetchable? := by
  rw [fetchable?, fetchable?, h.layer]

theorem Agree.job?_eq (h : Agree s t) : s.job? = t.job? := by
  rw [job?, job?, h.fetchable?_eq, h.generation]

theorem Agree.withLayer_eq (h : Agree s t) (layer : Option Layer) :
    s.withLayer layer = t.withLayer layer := by
  rw [withLayer, withLayer, h.overrides, h.generation]

/-- A command changes states that agree to states that agree, and leads to the same work. -/
theorem Agree.dispatch (h : Agree s t) (command : Command) :
    Agree (s.dispatch command).1 (t.dispatch command).1 ∧
      (s.dispatch command).2 = (t.dispatch command).2 := by
  obtain ⟨hlayer, hoverrides, hgeneration⟩ := h
  have hfetchable : s.fetchable? = t.fetchable? := by rw [fetchable?, fetchable?, hlayer]
  cases command with
  | setLayer layer =>
    cases hset : layer.bind Layer.fetchable? <;>
      simp [ComputeState.dispatch, setLayer, job?, fetchable?, hset, hgeneration] <;>
      exact ⟨rfl, hoverrides, rfl⟩
  | requestFetch range =>
    cases hcurrent : t.fetchable? <;>
      simp only [ComputeState.dispatch, hfetchable, hcurrent] <;>
      exact ⟨⟨hlayer, hoverrides, hgeneration⟩, trivial⟩
  | writeFeatures features =>
    cases hcurrent : t.fetchable? <;>
      simp only [ComputeState.dispatch, changeFeatures, hfetchable, hcurrent, hgeneration] <;>
      exact ⟨⟨hlayer, hoverrides, by simp [hgeneration]⟩, trivial⟩
  | deleteFeatures ids =>
    cases hcurrent : t.fetchable? <;>
      simp only [ComputeState.dispatch, changeFeatures, hfetchable, hcurrent, hgeneration] <;>
      exact ⟨⟨hlayer, hoverrides, by simp [hgeneration]⟩, trivial⟩
  | override owner value =>
    exact ⟨⟨hlayer, by simp [ComputeState.dispatch, hoverrides], hgeneration⟩, rfl⟩

/-- What an evaluation comes to changes neither the layer nor the overrides nor the generation. -/
theorem agree_complete (s : ComputeState) (generation : Nat) (outcome : Outcome) :
    Agree (s.complete generation outcome).1 s := by
  unfold complete
  split
  · exact ⟨rfl, rfl, rfl⟩
  · cases outcome <;> exact ⟨rfl, rfl, rfl⟩

/-- The outcome of the current generation leaves nothing of what was known before. -/
theorem Agree.complete_eq (h : Agree s t) {generation : Nat}
    (hcurrent : generation = s.generation) (outcome : Outcome) :
    (s.complete generation outcome).1 = (t.complete generation outcome).1 := by
  obtain ⟨hlayer, hoverrides, hgeneration⟩ := h
  unfold complete
  rw [if_neg (not_not_intro hcurrent), if_neg (not_not_intro (hcurrent.trans hgeneration))]
  cases outcome <;> simp [hlayer, hoverrides, hgeneration]

/-- The outcome of another generation is discarded. -/
theorem complete_late {generation : Nat} (h : generation ≠ s.generation) (outcome : Outcome) :
    (s.complete generation outcome).1 = s := by
  unfold complete
  rw [if_pos h]

/-- The current job is for the layer that can be fetched, in the generation of the state. -/
theorem job?_eq_some_iff {job : Job} :
    s.job? = some job ↔
      s.fetchable? = some (job.layer, job.data) ∧ job.generation = s.generation := by
  rw [job?, Option.map_eq_some_iff]
  constructor
  · rintro ⟨pair, hpair, rfl⟩
    exact ⟨hpair, rfl⟩
  · rintro ⟨hpair, hgeneration⟩
    refine ⟨_, hpair, ?_⟩
    rw [← hgeneration]

/-- The command that leads to a job makes it the current one, and raises the generation. -/
theorem dispatch_of_some {command : Command} {job : Job}
    (hjob : (s.dispatch command).2.job? = some job) :
    (s.dispatch command).1.job? = some job ∧ job.generation = s.generation + 1 := by
  rcases s.dispatch_cases command with
    ⟨layer, rfl, hstate, hcurrent⟩ | ⟨-, -, hstate, hcurrent⟩ | ⟨-, hnone, -⟩
  · rw [hstate, ← hcurrent]
    exact ⟨hjob, (job?_eq_some_iff.mp (hcurrent ▸ hjob)).2⟩
  · rw [hstate, ← hcurrent]
    exact ⟨hjob, (job?_eq_some_iff.mp (hcurrent ▸ hjob)).2⟩
  · rw [hnone] at hjob
    contradiction

/-- A command that leads to no job sets a layer without features, or changes the overrides at
most. -/
theorem dispatch_of_none {command : Command} (hjob : (s.dispatch command).2.job? = none) :
    (∃ layer, (s.dispatch command).1 = s.withLayer layer ∧ command = .setLayer layer ∧
      (s.withLayer layer).job? = none) ∨
    (∃ overrides, (s.dispatch command).1 = { s with overrides } ∧ command.setsLayer = false) := by
  rcases s.dispatch_cases command with
    ⟨layer, rfl, hstate, hcurrent⟩ | ⟨-, hlayer, hstate, hcurrent⟩ | ⟨hsets, -, overrides, hstate⟩
  · exact .inl ⟨layer, hstate, rfl, hcurrent.symm.trans hjob⟩
  · obtain ⟨job, hsome, -⟩ := job?_eq_some (s := s.changed) hlayer
    rw [hcurrent, hsome] at hjob
    contradiction
  · exact .inr ⟨overrides, hstate, hsets⟩

/-- On states that agree, a command that leads to no job sets the same layer, one without features,
or gives both the same overrides. -/
theorem Agree.idle_cases (h : Agree s t) {command : Command}
    (hjob : (s.dispatch command).2.job? = none) :
    (∃ layer, (s.dispatch command).1 = s.withLayer layer ∧
      (t.dispatch command).1 = t.withLayer layer ∧ (s.withLayer layer).job? = none) ∨
    ∃ overrides, (s.dispatch command).1 = { s with overrides } ∧
      (t.dispatch command).1 = { t with overrides } := by
  obtain ⟨hagree, heffect⟩ := h.dispatch command
  rcases ComputeState.dispatch_of_none hjob with
    ⟨layer, hstate, rfl, hnone⟩ | ⟨overrides, hstate, hsets⟩
  · rcases ComputeState.dispatch_of_none (s := t) (heffect ▸ hjob) with
      ⟨layer', hstate', heq, -⟩ | ⟨-, -, hsets⟩
    · cases heq
      exact .inl ⟨layer, hstate, hstate', hnone⟩
    · cases hsets
  · rcases ComputeState.dispatch_of_none (s := t) (heffect ▸ hjob) with
      ⟨layer', -, rfl, -⟩ | ⟨overrides', hstate', -⟩
    · cases hsets
    · have hoverrides := hagree.overrides
      rw [hstate, hstate'] at hoverrides
      have hoverrides : overrides = overrides' := hoverrides
      exact .inr ⟨overrides, hstate, by rw [hstate', hoverrides]⟩

/-- In the first case the states are the same afterwards. -/
theorem Agree.dispatch_of_none (h : Agree s t) {command : Command}
    (hjob : (s.dispatch command).2.job? = none) :
    ((s.dispatch command).1 = (t.dispatch command).1 ∧ (s.dispatch command).1.job? = none) ∨
      ∃ overrides, (s.dispatch command).1 = { s with overrides } ∧
        (t.dispatch command).1 = { t with overrides } := by
  rcases h.idle_cases hjob with ⟨layer, hstate, hstate', hnone⟩ | hoverrides
  · exact .inl ⟨by rw [hstate, hstate', h.withLayer_eq], by rw [hstate, hnone]⟩
  · exact .inr hoverrides

/-- An outcome passes by the overrides. -/
theorem complete_overrides (s : ComputeState) (overrides : Overrides) (generation : Nat)
    (outcome : Outcome) :
    ({ s with overrides }.complete generation outcome).1
      = { (s.complete generation outcome).1 with overrides } := by
  unfold complete
  dsimp only
  split
  · rfl
  · cases outcome <;> rfl

/-- The current job evaluates the layer with the data of the layer. -/
theorem data_of_job? {job : Job} (h : s.job? = some job) : job.layer.data = some job.data := by
  obtain ⟨hpair, -⟩ := job?_eq_some_iff.mp h
  obtain ⟨layer, -, hfetchable⟩ := Option.bind_eq_some_iff.mp hpair
  cases layer with
  | group id children => cases hfetchable
  | simple l =>
    obtain ⟨data, hdata, heq⟩ := Option.map_eq_some_iff.mp hfetchable
    cases heq
    exact hdata

end ComputeState

/-! ## Sessions -/

namespace Session

variable (s : Session)

@[simp] theorem finishJob_store (job : Job) (answer : Except Fault (List Feature)) :
    (s.finishJob job answer).store = s.store := rfl

theorem agree_finishJob (job : Job) (answer : Except Fault (List Feature)) :
    (s.finishJob job answer).state.Agree s.state :=
  s.state.agree_complete job.generation _

/-- A command without a job changes the state alone. -/
theorem start_of_none {command : Command} (hcommand : ∀ range, command ≠ .requestFetch range)
    (hjob : (s.state.dispatch command).2.job? = none) :
    s.start command = ({ s with state := (s.state.dispatch command).1 }, none) := by
  cases heffect : (s.state.dispatch command).2 with
  | none => simp only [start, heffect]
  | evaluate job => simp [heffect, Effect.job?] at hjob
  | write job features => simp [heffect, Effect.job?] at hjob
  | delete job ids => simp [heffect, Effect.job?] at hjob
  | fetch layer data range =>
    cases command with
    | requestFetch range => exact absurd rfl (hcommand range)
    | setLayer layer =>
      cases hset : layer.bind Layer.fetchable? <;>
        simp [ComputeState.dispatch, ComputeState.setLayer, ComputeState.job?,
          ComputeState.fetchable?, hset] at heffect
    | writeFeatures features =>
      cases hcurrent : s.state.fetchable? <;>
        simp [ComputeState.dispatch, ComputeState.changeFeatures, hcurrent] at heffect
    | deleteFeatures ids =>
      cases hcurrent : s.state.fetchable? <;>
        simp [ComputeState.dispatch, ComputeState.changeFeatures, hcurrent] at heffect
    | override owner value => simp [ComputeState.dispatch] at heffect

/-- The session in which the job of a command is started. -/
def changed (command : Command) : Session where
  state := (s.state.dispatch command).1
  store := (s.state.dispatch command).2.changeStore s.store
  memo := s.memo

/-- A command with a job changes the state and the store, and starts the job. -/
theorem start_of_some {command : Command} {job : Job}
    (hjob : (s.state.dispatch command).2.job? = some job) :
    s.start command = (s.changed command).startJob job := by
  cases heffect : (s.state.dispatch command).2 with
  | none => simp [heffect, Effect.job?] at hjob
  | fetch layer data range => simp [heffect, Effect.job?] at hjob
  | evaluate job' =>
    obtain rfl : job' = job := by simpa [heffect, Effect.job?] using hjob
    simp only [start, changed, heffect, Effect.changeStore]
  | write job' features =>
    obtain rfl : job' = job := by simpa [heffect, Effect.job?] using hjob
    simp only [start, changed, heffect, Effect.changeStore]
  | delete job' ids =>
    obtain rfl : job' = job := by simpa [heffect, Effect.job?] using hjob
    simp only [start, changed, heffect, Effect.changeStore]

theorem part?_changed {command : Command} {job : Job}
    (hjob : (s.state.dispatch command).2.job? = some job) (key : StoreKey) :
    (s.changed command).store.part? key
      = if key = job.key then (s.state.dispatch command).2.changePart (s.store.part? key)
        else s.store.part? key :=
  Effect.part?_changeStore hjob s.store key

/-- The session after the answer to the fetch of a job was kept. -/
def received (job : Job) (answer : Except Fault (List Feature)) : Session :=
  { s with store := s.store.receive job.layer.id job.data none answer }

/-- What the answer to a fetch of all features makes of the part of the store it belongs to. -/
def receivePart : Except Fault (List Feature) → Option Buckets → Option Buckets
  | .ok features, b => some ((b.getD []).replace (Range.key none) features)
  | .error _, b => b

/-- An answer changes the part under the key of its job and no other. -/
theorem part?_received (job : Job) (answer : Except Fault (List Feature)) (key : StoreKey) :
    (s.received job answer).store.part? key
      = if key = job.key then receivePart answer (s.store.part? key) else s.store.part? key := by
  cases answer with
  | error fault => exact (ite_self _).symm
  | ok features =>
    have hput (key : StoreKey) := Store.part?_put s.store job.layer.id job.data key none features
    by_cases hkey : key = job.key
    · rw [if_pos hkey, hkey]
      exact (hput job.key).trans (if_pos rfl)
    · rw [if_neg hkey]
      exact (hput key).trans (if_neg hkey)

/-- A waiting job is finished with all features that are kept once its answer is. -/
theorem resume_evaluate (job : Job) (answer : Except Fault (List Feature)) :
    (s.resume (.evaluate job) answer).2 = (s.received job answer).finishJob job (answer.map
      fun _ ↦ (((s.received job answer).store.part? job.key).map Buckets.all).getD []) :=
  rfl

/-- Where nothing else was kept, these are the features of the answer. -/
theorem resume_of_part? {job : Job} {answer : Except Fault (List Feature)}
    (h : ∀ features, answer = .ok features →
      s.store.part? job.key = none ∨ s.store.part? job.key = some [(Range.key none, features)]) :
    (s.resume (.evaluate job) answer).2 = (s.received job answer).finishJob job answer := by
  rw [resume_evaluate, part?_received, if_pos rfl]
  cases answer with
  | error fault => rfl
  | ok features =>
    rcases h features rfl with hnone | hsome
    · rw [hnone]
      simp [Except.map, receivePart, Buckets.replace, Buckets.update]
    · rw [hsome]
      simp [Except.map, receivePart, Buckets.replace, Buckets.update]

section Job

variable {job : Job} (hdata : job.data.isEmbedded = false)

include hdata

/-- A job whose part is there is finished at once. -/
theorem startJob_of_some {b : Buckets} (hpart : s.store.part? job.key = some b) :
    s.startJob job = (s.finishJob job (.ok b.all), none) := by
  have hheld : Source.heldAll? s.store job.layer.id job.data = some b.all := by
    rw [Store.heldAll?_eq _ _ hdata]
    exact congrArg (Option.map Buckets.all) hpart
  simp only [startJob, hheld]

/-- A job whose part is not there waits for its features. -/
theorem startJob_of_none (hpart : s.store.part? job.key = none) :
    s.startJob job = (s, some (.evaluate job)) := by
  have hheld : Source.heldAll? s.store job.layer.id job.data = none := by
    rw [Store.heldAll?_eq _ _ hdata]
    exact congrArg (Option.map Buckets.all) hpart
  simp only [startJob, hheld]

end Job

/-! ## Awaited commands -/

section Run

variable (fetcher : Fetcher Id) {command : Command}

theorem run_of_none (hcommand : ∀ range, command ≠ .requestFetch range)
    (hjob : (s.state.dispatch command).2.job? = none) :
    (run fetcher s command).2 = { s with state := (s.state.dispatch command).1 } := by
  rw [run, s.start_of_none hcommand hjob]
  rfl

variable {job : Job} (hdata : job.data.isEmbedded = false)
  (hjob : (s.state.dispatch command).2.job? = some job)

include hdata hjob

/-- An awaited command evaluates what is kept. -/
theorem run_of_part {b : Buckets} (hpart : (s.changed command).store.part? job.key = some b) :
    (run fetcher s command).2 = (s.changed command).finishJob job (.ok b.all) := by
  rw [run, s.start_of_some hjob, startJob_of_some _ hdata hpart]
  rfl

/-- An awaited command evaluates what it fetches where nothing is kept. -/
theorem run_of_fetch (hpart : (s.changed command).store.part? job.key = none) :
    (run fetcher s command).2 = ((s.changed command).received job (fetcher job.data none)).finishJob
      job (fetcher job.data none) := by
  rw [run, s.start_of_some hjob, startJob_of_none _ hdata hpart]
  exact resume_of_part? _ fun _ _ ↦ .inl hpart

end Run

end Session

end MapStyle
