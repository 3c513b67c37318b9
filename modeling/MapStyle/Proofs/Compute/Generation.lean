import Mathlib.Tactic.ByContra
import MapStyle.Compute.State

/-!
# Generations

Commands and outcomes reach the state of a computation in any order: an outcome may come late, after
further commands, or never. The state is followed here together with its history, the jobs that were
handed out and the outcomes that came back. Whatever the order, the status tells whether the current
job is out, a failure and a result belong to a layer with features, and a result is the outcome of a
job for the layer that is set.
-/

namespace MapStyle

abbrev Outcome := Except Fault (Option Styled)

def Command.setsLayer : Command → Bool
  | setLayer _ => true
  | _ => false

/-! ## What a command does -/

namespace ComputeState

def withLayer (s : ComputeState) (layer : Option Layer) : ComputeState where
  layer
  status := if (layer.bind Layer.fetchable?).isSome then .fetching else .ready
  result := none
  overrides := s.overrides
  generation := s.generation + 1
  failed := false

/-- The state after the features of its layer were changed. -/
def changed (s : ComputeState) : ComputeState :=
  { s with generation := s.generation + 1, failed := false, status := .fetching }

/-- A change of the features starts a job if there is something to fetch, and is ignored otherwise.
-/
theorem changeFeatures_cases (s : ComputeState) (effect : Job → Effect)
    (heffect : ∀ job, (effect job).job? = some job) :
    (s.fetchable?.isSome ∧ (s.changeFeatures effect).1 = s.changed ∧
      (s.changeFeatures effect).2.job? = s.changed.job?) ∨
    ((s.changeFeatures effect).2.job? = none ∧ (s.changeFeatures effect).1 = s) := by
  cases hlayer : s.fetchable? with
  | none => exact .inr (by simp [changeFeatures, hlayer, Effect.job?])
  | some pair =>
    have hjob : s.changed.job? = some ⟨s.generation + 1, pair.1, pair.2⟩ := by
      have hchanged : s.changed.fetchable? = some pair := hlayer
      rw [job?, hchanged]
      rfl
    refine .inl ⟨rfl, by simp [changeFeatures, hlayer, changed], ?_⟩
    rw [hjob]
    simp [changeFeatures, hlayer, heffect]

/-- A command sets the layer, changes the features of a layer that has some, or leaves everything
but the overrides as it is. In the first two cases it hands out the job of the new state. -/
theorem dispatch_cases (s : ComputeState) (command : Command) :
    (∃ layer, command = .setLayer layer ∧ (s.dispatch command).1 = s.withLayer layer ∧
      (s.dispatch command).2.job? = (s.withLayer layer).job?) ∨
    (command.setsLayer = false ∧ s.fetchable?.isSome ∧ (s.dispatch command).1 = s.changed ∧
      (s.dispatch command).2.job? = s.changed.job?) ∨
    (command.setsLayer = false ∧ (s.dispatch command).2.job? = none ∧
      ∃ overrides, (s.dispatch command).1 = { s with overrides }) := by
  cases command with
  | setLayer layer =>
    refine .inl ⟨layer, rfl, ?_⟩
    cases hlayer : layer.bind Layer.fetchable? <;>
      simp [dispatch, setLayer, withLayer, job?, fetchable?, hlayer, Effect.job?]
  | requestFetch range =>
    have hidle : (s.dispatch (.requestFetch range)).1 = s ∧
        (s.dispatch (.requestFetch range)).2.job? = none := by
      cases hlayer : s.fetchable? <;> simp [dispatch, hlayer, Effect.job?]
    exact .inr (.inr ⟨rfl, hidle.2, s.overrides, hidle.1⟩)
  | writeFeatures features =>
    rcases s.changeFeatures_cases (fun job ↦ .write job features) fun _ ↦ rfl with
      ⟨hlayer, hstate, hjob⟩ | ⟨hjob, hstate⟩
    · exact .inr (.inl ⟨rfl, hlayer, hstate, hjob⟩)
    · exact .inr (.inr ⟨rfl, hjob, s.overrides, hstate⟩)
  | deleteFeatures ids =>
    rcases s.changeFeatures_cases (fun job ↦ .delete job ids) fun _ ↦ rfl with
      ⟨hlayer, hstate, hjob⟩ | ⟨hjob, hstate⟩
    · exact .inr (.inl ⟨rfl, hlayer, hstate, hjob⟩)
    · exact .inr (.inr ⟨rfl, hjob, s.overrides, hstate⟩)
  | override owner value => exact .inr (.inr ⟨rfl, rfl, _, rfl⟩)

/-- The outcome of the current generation makes the state ready, with the result of the outcome or
with a failure. -/
theorem complete_current {s : ComputeState} {generation : Nat} (h : generation = s.generation)
    (outcome : Outcome) :
    ∃ result failed, (s.complete generation outcome).1
        = { s with status := .ready, result, failed } ∧
      (failed = true → result = none) ∧ ∀ styled, result = some styled → outcome = .ok result := by
  unfold complete
  rw [if_neg (not_not_intro h)]
  cases outcome with
  | ok result => exact ⟨result, false, rfl, nofun, fun _ _ ↦ rfl⟩
  | error fault => exact ⟨none, true, rfl, fun _ ↦ rfl, nofun⟩

theorem job?_eq_some {s : ComputeState} (h : s.fetchable?.isSome) :
    ∃ job, s.job? = some job ∧ job.generation = s.generation := by
  obtain ⟨pair, hpair⟩ := Option.isSome_iff_exists.mp h
  exact ⟨_, by rw [job?, hpair, Option.map_some], rfl⟩

theorem job?_eq_none {s : ComputeState} (h : ¬s.fetchable?.isSome) : s.job? = none := by
  rw [job?, Option.not_isSome_iff_eq_none.mp h, Option.map_none]

end ComputeState

/-! ## Histories -/

/-- A computation with what happened to it. -/
structure History where
  state : ComputeState := {}
  /-- The jobs that were handed out, in their order. -/
  issued : List Job := []
  /-- The outcomes that came back, in their order, each with the generation of its job. -/
  completed : List (Nat × Outcome) := []
  /-- The jobs that were handed out since the layer was set. -/
  recent : List Job := []
  /-- Whether a layer was set at all. -/
  layerSet : Bool := false

namespace History

/-- A command comes, and may hand out a job. -/
def dispatch (h : History) (command : Command) : History where
  state := (h.state.dispatch command).1
  issued := h.issued ++ (h.state.dispatch command).2.job?.toList
  completed := h.completed
  recent := (if command.setsLayer then [] else h.recent) ++
    (h.state.dispatch command).2.job?.toList
  layerSet := h.layerSet || command.setsLayer

/-- The outcome of a job comes back. -/
def complete (h : History) (generation : Nat) (outcome : Outcome) : History :=
  { h with
    state := (h.state.complete generation outcome).1
    completed := h.completed ++ [(generation, outcome)] }

/-- The job of a generation is out: it was handed out, and its outcome has not come back. -/
def Out (h : History) (generation : Nat) : Prop :=
  (∃ job ∈ h.issued, job.generation = generation) ∧ ∀ c ∈ h.completed, c.1 ≠ generation

/-- Histories from the beginning on. Outcomes come back only for jobs that are out. -/
inductive Reachable : History → Prop
  | start : Reachable {}
  | dispatch {h : History} (command : Command) : Reachable h → Reachable (h.dispatch command)
  | complete {h : History} {generation : Nat} (outcome : Outcome) : Reachable h →
      h.Out generation → Reachable (h.complete generation outcome)

/-! ## The invariant -/

/-- What holds between the state and its history. -/
structure Consistent (h : History) : Prop where
  /-- Jobs are handed out with increasing generations. -/
  increasing : (h.issued.map Job.generation).Pairwise (· < ·)
  /-- No job is ahead of the state. -/
  bounded : ∀ job ∈ h.issued, job.generation ≤ h.state.generation
  /-- Outcomes come back for jobs that were handed out. -/
  answered : ∀ c ∈ h.completed, ∃ job ∈ h.issued, job.generation = c.1
  /-- The job of the current generation is for the layer that is set. -/
  current : ∀ job ∈ h.issued, job.generation = h.state.generation →
    job ∈ h.recent ∧ h.state.fetchable?.isSome
  /-- Before a layer is set there is none, and nothing is handed out. -/
  unset : h.layerSet = false → h.state.layer = none ∧ h.issued = []
  /-- An evaluation is awaited while the current job is out, and before a layer is set. -/
  fetching : h.state.status = .fetching ↔ h.layerSet = false ∨ h.Out h.state.generation
  /-- A failure is that of a finished evaluation of a layer with features. -/
  failed : h.state.failed = true →
    h.state.status = .ready ∧ h.state.result = none ∧ h.state.fetchable?.isSome
  /-- A result is that of a layer with features, and was given by a job for the layer that is set;
  unless an evaluation is awaited, by the current one. -/
  result : ∀ styled, h.state.result = some styled → h.state.fetchable?.isSome ∧
    ∃ job ∈ h.recent, (job.generation, .ok (some styled)) ∈ h.completed ∧
      (h.state.status = .ready → job.generation = h.state.generation)

variable {h : History}

theorem consistent_start : Consistent {} where
  increasing := .nil
  bounded := by simp
  answered := by simp
  current := by simp
  unset := fun _ ↦ ⟨rfl, rfl⟩
  fetching := by simp
  failed := by simp
  result := by simp

/-- The generation after the current one is not in the history yet. -/
theorem Consistent.next_unanswered (hc : Consistent h) :
    ∀ c ∈ h.completed, c.1 ≠ h.state.generation + 1 := by
  intro c hmem
  obtain ⟨job, hjob, hgeneration⟩ := hc.answered c hmem
  have hbound := hc.bounded job hjob
  omega

/-! ## Steps -/

/-- A job of the next generation is handed out, for a layer with features. A result that is held
was given for the same layer. -/
theorem Consistent.issue (hc : Consistent h) {state : ComputeState} (kept : List Job) {job : Job}
    (hgeneration : state.generation = h.state.generation + 1)
    (hjob : job.generation = state.generation) (hstatus : state.status = .fetching)
    (hfailed : state.failed = false) (hlayer : state.fetchable?.isSome)
    (hresult : ∀ styled, state.result = some styled →
      ∃ old ∈ kept, (old.generation, .ok (some styled)) ∈ h.completed) :
    Consistent
      { state, issued := h.issued ++ [job], completed := h.completed, recent := kept ++ [job],
        layerSet := true } where
  increasing := by
    rw [List.map_append, List.pairwise_append]
    refine ⟨hc.increasing, List.pairwise_singleton _ _, ?_⟩
    intro m hm n hn
    obtain ⟨old, hold, rfl⟩ := List.mem_map.mp hm
    have hbound := hc.bounded old hold
    simp only [List.map_cons, List.map_nil, List.mem_singleton] at hn
    omega
  bounded := by
    intro other hother
    rcases List.mem_append.mp hother with hold | hnew
    · have hbound := hc.bounded other hold
      change other.generation ≤ state.generation
      omega
    · rw [List.mem_singleton.mp hnew]
      exact Nat.le_of_eq hjob
  answered := by
    intro c hmem
    obtain ⟨old, hold, hanswered⟩ := hc.answered c hmem
    exact ⟨old, List.mem_append_left _ hold, hanswered⟩
  current := by
    intro other hother hcurrent
    change other.generation = state.generation at hcurrent
    rcases List.mem_append.mp hother with hold | hnew
    · have hbound := hc.bounded other hold
      omega
    · exact ⟨List.mem_append_right _ hnew, hlayer⟩
  unset := fun hset ↦ nomatch hset
  fetching := by
    refine ⟨fun _ ↦ .inr ⟨⟨job, by simp, hjob⟩, fun c hmem ↦ ?_⟩, fun _ ↦ hstatus⟩
    have hunanswered := hc.next_unanswered c hmem
    change c.1 ≠ state.generation
    omega
  failed := by
    intro h'
    rw [hfailed] at h'
    contradiction
  result := by
    intro styled hstyled
    obtain ⟨old, hold, hanswer⟩ := hresult styled hstyled
    refine ⟨hlayer, old, List.mem_append_left _ hold, hanswer, fun hready ↦ ?_⟩
    rw [hstatus] at hready
    contradiction

/-- A layer without features is set; then no job is current. -/
theorem Consistent.withoutJob (hc : Consistent h) {layer : Option Layer}
    (hlayer : ¬(h.state.withLayer layer).fetchable?.isSome) :
    Consistent
      { state := h.state.withLayer layer, issued := h.issued, completed := h.completed,
        recent := [], layerSet := true } where
  increasing := hc.increasing
  bounded := fun job hjob ↦ Nat.le_succ_of_le (hc.bounded job hjob)
  answered := hc.answered
  current := by
    intro job hjob hcurrent
    have hbound := hc.bounded job hjob
    simp only [ComputeState.withLayer] at hcurrent
    omega
  unset := fun hset ↦ nomatch hset
  fetching := by
    have hstatus : (h.state.withLayer layer).status = .ready := if_neg hlayer
    rw [hstatus]
    refine ⟨nofun, ?_⟩
    rintro (hset | ⟨⟨job, hjob, hcurrent⟩, -⟩)
    · contradiction
    · have hbound := hc.bounded job hjob
      simp only [ComputeState.withLayer] at hcurrent
      omega
  failed := fun hfailed ↦ nomatch hfailed
  result := fun styled hstyled ↦ nomatch hstyled

/-- Overrides take no part. -/
theorem Consistent.withOverrides (hc : Consistent h) (overrides : Overrides) :
    Consistent { h with state := { h.state with overrides } } :=
  ⟨hc.increasing, hc.bounded, hc.answered, hc.current, hc.unset, hc.fetching, hc.failed, hc.result⟩

/-- Every command keeps the state consistent with its history. -/
theorem Consistent.dispatch (hc : Consistent h) (command : Command) :
    Consistent (h.dispatch command) := by
  rcases h.state.dispatch_cases command with
    ⟨layer, rfl, hstate, hjob⟩ | ⟨hsets, hlayer, hstate, hjob⟩ | ⟨hsets, hjob, overrides, hstate⟩
  · by_cases hlayer : (h.state.withLayer layer).fetchable?.isSome
    · obtain ⟨job, hsome, hgeneration⟩ := ComputeState.job?_eq_some hlayer
      have hissued := hc.issue [] rfl hgeneration (if_pos hlayer) rfl hlayer nofun
      simpa [History.dispatch, hstate, hjob, hsome, Command.setsLayer] using hissued
    · have hnone := hc.withoutJob hlayer
      simpa [History.dispatch, hstate, hjob, ComputeState.job?_eq_none hlayer,
        Command.setsLayer] using hnone
  · obtain ⟨job, hsome, hgeneration⟩ := ComputeState.job?_eq_some (s := h.state.changed) hlayer
    have hset : h.layerSet = true := by
      by_contra hunset
      have hnone := (hc.unset (by simpa using hunset)).1
      simp [ComputeState.fetchable?, hnone] at hlayer
    have hissued := hc.issue h.recent rfl hgeneration rfl rfl hlayer fun styled hstyled ↦ by
      obtain ⟨-, old, hold, hanswer, -⟩ := hc.result styled hstyled
      exact ⟨old, hold, hanswer⟩
    simpa [History.dispatch, hstate, hjob, hsome, hsets, hset] using hissued
  · have hkept := hc.withOverrides overrides
    simpa [History.dispatch, hstate, hjob, hsets] using hkept

/-- Every outcome belongs to a job that was issued, the new one as well. -/
theorem Consistent.answered_append (hc : Consistent h) {job : Job} (hjob : job ∈ h.issued)
    (outcome : Outcome) :
    ∀ c ∈ h.completed ++ [(job.generation, outcome)],
      ∃ issued ∈ h.issued, issued.generation = c.1 := by
  intro c hmem
  rcases List.mem_append.mp hmem with hold | hnew
  · exact hc.answered c hold
  · rw [List.mem_singleton.mp hnew]
    exact ⟨job, hjob, rfl⟩

/-- The outcome of the current job decides what is known of the layer. -/
theorem Consistent.current_outcome (hc : Consistent h) {job : Job} (hjob : job ∈ h.issued)
    (hcurrent : job.generation = h.state.generation) (outcome : Outcome) :
    Consistent (h.complete job.generation outcome) := by
  obtain ⟨hrecent, hlayer⟩ := hc.current job hjob hcurrent
  obtain ⟨result, failed, hstate, hfailed, hresult⟩ :=
    ComputeState.complete_current hcurrent outcome
  rw [complete, hstate]
  refine ⟨hc.increasing, hc.bounded, hc.answered_append hjob outcome, hc.current, hc.unset, ?_,
    fun h' ↦ ⟨rfl, hfailed h', hlayer⟩, fun styled hstyled ↦ ?_⟩
  · refine ⟨nofun, ?_⟩
    rintro (hunset | ⟨-, hopen⟩)
    · rw [(hc.unset hunset).2] at hjob
      contradiction
    · exact absurd hcurrent (hopen (job.generation, outcome) (by simp))
  · refine ⟨hlayer, job, hrecent, ?_, fun _ ↦ hcurrent⟩
    have houtcome := hresult styled hstyled
    change result = some styled at hstyled
    rw [houtcome, hstyled]
    simp

/-- The outcome of an older job is discarded, and the current job stays out if it was. -/
theorem Consistent.late_outcome (hc : Consistent h) {job : Job} (hjob : job ∈ h.issued)
    (hlate : job.generation ≠ h.state.generation) (outcome : Outcome) :
    Consistent (h.complete job.generation outcome) := by
  have hstate : h.state.complete job.generation outcome = (h.state, false) := if_pos hlate
  rw [complete, hstate]
  refine ⟨hc.increasing, hc.bounded, hc.answered_append hjob outcome, hc.current, hc.unset, ?_,
    hc.failed, fun styled hstyled ↦ ?_⟩
  · rw [hc.fetching]
    refine or_congr_right (and_congr_right fun _ ↦ ⟨fun hopen c hmem ↦ ?_, fun hopen c hmem ↦ ?_⟩)
    · rcases List.mem_append.mp hmem with hold | hnew
      · exact hopen c hold
      · rw [List.mem_singleton.mp hnew]
        exact hlate
    · exact hopen c (List.mem_append_left _ hmem)
  · obtain ⟨hlayer, old, hold, hanswer, hready⟩ := hc.result styled hstyled
    exact ⟨hlayer, old, hold, List.mem_append_left _ hanswer, hready⟩

/-- The state is consistent with its history in every reachable history. -/
theorem consistent_of_reachable (hr : Reachable h) : Consistent h := by
  induction hr with
  | start => exact consistent_start
  | dispatch command _ ih => exact ih.dispatch command
  | @complete h generation outcome _ hout ih =>
    obtain ⟨⟨job, hjob, rfl⟩, -⟩ := hout
    by_cases hcurrent : job.generation = h.state.generation
    · exact ih.current_outcome hjob hcurrent outcome
    · exact ih.late_outcome hjob hcurrent outcome

/-! ## What is guarded -/

/-- What the generations guard. -/
structure Guarded (h : History) : Prop where
  /-- Jobs carry distinct, increasing generations, none above the current one. -/
  generations : (h.issued.map Job.generation).Pairwise (· < ·) ∧
    ∀ job ∈ h.issued, job.generation ≤ h.state.generation
  /-- The status is that of the current job, or no layer was set. -/
  status : h.state.status = .fetching ↔ h.Out h.state.generation ∨ h.layerSet = false
  /-- A failure leaves no result, for a layer with features. -/
  failed : h.state.failed = true →
    h.state.status = .ready ∧ h.state.result = none ∧ h.state.fetchable?.isSome
  /-- A result is the outcome of a job for the layer that is set, a layer with features; unless an
  evaluation is awaited, of the current job. -/
  result : ∀ styled, h.state.result = some styled → h.state.fetchable?.isSome ∧
    ∃ job ∈ h.recent, (job.generation, .ok (some styled)) ∈ h.completed ∧
      (h.state.status = .ready → job.generation = h.state.generation)
  /-- Features are seen only of a layer with features. -/
  view : ∀ held view, h.state.view? held = some view →
    view.features ≠ [] ∨ view.held ≠ [] → h.state.fetchable?.isSome

/-- Features are seen only of a layer with features, if a result belongs to one. -/
theorem fetchable_of_view {s : ComputeState} {held : Option (List Feature)} {view : LayerView}
    (hresult : ∀ styled, s.result = some styled → s.fetchable?.isSome)
    (hview : s.view? held = some view) (hseen : view.features ≠ [] ∨ view.held ≠ []) :
    s.fetchable?.isSome := by
  obtain ⟨layer, hlayer, rfl⟩ := Option.map_eq_some_iff.mp hview
  rcases hseen with hfeatures | hheld
  · cases hstyled : s.result with
    | none => simp [hstyled] at hfeatures
    | some styled => exact hresult styled hstyled
  · have hfetchable : layer.fetchable?.isNone = false := by
      cases hnone : layer.fetchable?.isNone with
      | false => rfl
      | true => simp [hnone] at hheld
    rw [ComputeState.fetchable?, hlayer, Option.bind_some]
    simpa using hfetchable

/-- In every order of commands and outcomes the generations guard the state. -/
theorem guarded_of_reachable (hr : Reachable h) : Guarded h := by
  have hc := consistent_of_reachable hr
  refine ⟨⟨hc.increasing, hc.bounded⟩, ?_, hc.failed, hc.result, fun held view ↦ ?_⟩
  · rw [hc.fetching, or_comm]
  · exact fetchable_of_view fun styled hstyled ↦ (hc.result styled hstyled).1

/-- A layer is set and its features are changed; then the second evaluation comes back before the
first, which fails. -/
def overtaken : History :=
  let layer : Layer := .simple { id := "A", data := some { format := "geojson" } }
  let dispatched := (History.dispatch {} (.setLayer (some layer))).dispatch (.deleteFeatures ["a"])
  (dispatched.complete 2 (.ok (some { layer := {}, features := [] }))).complete 1 (.error .config)

theorem guarded_overtaken : overtaken.state.failed = false ∧ Guarded overtaken := by
  refine ⟨rfl, guarded_of_reachable ?_⟩
  refine .complete _ (.complete _ (.dispatch _ (.dispatch _ .start)) ?_) ?_
  · exact ⟨⟨_, .tail _ (.head _), rfl⟩, by simp [dispatch]⟩
  · exact ⟨⟨_, .head _, rfl⟩, by simp [dispatch, complete]⟩

end History

end MapStyle
