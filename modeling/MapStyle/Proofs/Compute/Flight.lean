import MapStyle.Proofs.Compute.Session

/-!
# Flights

What waits in a flight is jobs for layers that were set; they are not ahead of the state, and one
that is not behind is the current job. Commands that are awaited one by one are a flight too, in
which the fetch of each command is answered before the next one is issued.
-/

namespace MapStyle

/-- The layer with features that a command sets. -/
def Command.fetchable? : Command → Option (SimpleLayer × DataSource)
  | setLayer layer => layer.bind Layer.fetchable?
  | _ => none

/-- A command sets only some layers, and does not ask for a range. -/
structure Command.Among (layers : List SimpleLayer) (command : Command) : Prop where
  layer : ∀ pair, command.fetchable? = some pair → pair.1 ∈ layers
  noRequest : ∀ range, command ≠ .requestFetch range

/-- All commands of a schedule set only some layers, and ask for no range. -/
def Among (layers : List SimpleLayer) (schedule : List Event) : Prop :=
  ∀ e ∈ schedule, ∀ command, e.command? = some command → command.Among layers

theorem Among.head {layers : List SimpleLayer} {e : Event} {rest : List Event}
    (h : Among layers (e :: rest)) :
    ∀ command, e.command? = some command → command.Among layers :=
  h e List.mem_cons_self

theorem Among.tail {layers : List SimpleLayer} {e : Event} {rest : List Event}
    (h : Among layers (e :: rest)) : Among layers rest :=
  fun e' he' ↦ h e' (List.mem_cons_of_mem _ he')

/-- The data of some layers is not embedded. -/
def NotEmbedded (layers : List SimpleLayer) : Prop :=
  ∀ l ∈ layers, ∀ data, l.data = some data → data.isEmbedded = false

/-- Only a command that sets the layer changes what there is to fetch. -/
theorem ComputeState.fetchable?_dispatch (s : ComputeState) (command : Command) :
    (s.dispatch command).1.fetchable?
      = if command.setsLayer then command.fetchable? else s.fetchable? := by
  rcases s.dispatch_cases command with
    ⟨layer, rfl, hstate, -⟩ | ⟨hsets, -, hstate, -⟩ | ⟨hsets, -, overrides, hstate⟩
  · rw [hstate]
    rfl
  · rw [hstate, hsets]
    rfl
  · rw [hstate, hsets]
    rfl

namespace Flight

variable {layers : List SimpleLayer} (fetcher : Fetcher Id) {f : Flight} {command : Command}
  {job : Job}

/-- The jobs that wait and the current layer are as commands for some layers leave them. -/
structure Regular (layers : List SimpleLayer) (f : Flight) : Prop where
  /-- The current layer is one of the layers. -/
  current : ∀ pair, f.session.state.fetchable? = some pair → pair.1 ∈ layers
  /-- What waits is jobs for the layers. -/
  waiting : ∀ w ∈ f.waiting, ∃ job, w = .evaluate job ∧ job.layer ∈ layers ∧
    job.layer.data = some job.data
  /-- No job is ahead of the state. -/
  bounded : ∀ job, .evaluate job ∈ f.waiting → job.generation ≤ f.session.state.generation
  /-- A job of the current generation is the current job. -/
  latest : ∀ job, .evaluate job ∈ f.waiting → job.generation = f.session.state.generation →
    f.session.state.job? = some job

theorem regular_start (config : Config) : (start config).Regular layers where
  current := by simp [start, ComputeState.fetchable?]
  waiting := by simp [start]
  bounded := by simp [start]
  latest := by simp [start]

/-! ## Steps -/

theorem issue_of_none (hcommand : ∀ range, command ≠ .requestFetch range)
    (hjob : (f.session.state.dispatch command).2.job? = none) :
    f.issue command =
      { session := { f.session with state := (f.session.state.dispatch command).1 }
        waiting := f.waiting } := by
  rw [issue, f.session.start_of_none hcommand hjob]
  simp

theorem issue_of_part (hdata : job.data.isEmbedded = false)
    (hjob : (f.session.state.dispatch command).2.job? = some job) {b : Buckets}
    (hpart : (f.session.changed command).store.part? job.key = some b) :
    f.issue command =
      { session := (f.session.changed command).finishJob job (.ok b.all)
        waiting := f.waiting } := by
  rw [issue, f.session.start_of_some hjob, Session.startJob_of_some _ hdata hpart]
  simp

theorem issue_of_fetch (hdata : job.data.isEmbedded = false)
    (hjob : (f.session.state.dispatch command).2.job? = some job)
    (hpart : (f.session.changed command).store.part? job.key = none) :
    f.issue command =
      { session := f.session.changed command
        waiting := f.waiting ++ [.evaluate job] } := by
  rw [issue, f.session.start_of_some hjob, Session.startJob_of_none _ hdata hpart]
  rfl

/-- Issuing a command changes the state as the command does, up to what evaluations come to. -/
theorem agree_issue (hcommand : ∀ range, command ≠ .requestFetch range) :
    (f.issue command).session.state.Agree (f.session.state.dispatch command).1 := by
  cases hjob : (f.session.state.dispatch command).2.job? with
  | none =>
    rw [issue_of_none hcommand hjob]
    exact ⟨rfl, rfl, rfl⟩
  | some job =>
    rw [issue, f.session.start_of_some hjob, Session.startJob]
    split
    · exact Session.agree_finishJob _ _ _
    · exact ⟨rfl, rfl, rfl⟩

/-- What waits after a command is what waited before, and perhaps the job of the command. -/
theorem mem_waiting_issue (hcommand : ∀ range, command ≠ .requestFetch range) {w : Waiting}
    (hw : w ∈ (f.issue command).waiting) :
    w ∈ f.waiting ∨ ∃ job, w = .evaluate job ∧
      (f.session.state.dispatch command).2.job? = some job := by
  cases hjob : (f.session.state.dispatch command).2.job? with
  | none =>
    rw [issue_of_none hcommand hjob] at hw
    exact .inl hw
  | some job =>
    rw [issue, f.session.start_of_some hjob, Session.startJob] at hw
    split at hw
    · exact .inl (by simpa using hw)
    · rcases List.mem_append.mp hw with hold | hnew
      · exact .inl hold
      · exact .inr ⟨job, by simpa using hnew, rfl⟩

/-- The layer after a command for some layers is one of them. -/
theorem Regular.layer_mem (hf : f.Regular layers) (hcommand : command.Among layers)
    {pair : SimpleLayer × DataSource}
    (h : (f.session.state.dispatch command).1.fetchable? = some pair) : pair.1 ∈ layers := by
  rw [ComputeState.fetchable?_dispatch] at h
  split at h
  · exact hcommand.layer pair h
  · exact hf.current pair h

/-- The job that a command leads to evaluates one of the layers with its data. -/
theorem Regular.job_mem (hf : f.Regular layers) (hcommand : command.Among layers)
    (hjob : (f.session.state.dispatch command).2.job? = some job) :
    job.layer ∈ layers ∧ job.layer.data = some job.data := by
  have hcurrent := (ComputeState.dispatch_of_some hjob).1
  exact ⟨hf.layer_mem hcommand (ComputeState.job?_eq_some_iff.mp hcurrent).1,
    ComputeState.data_of_job? hcurrent⟩

theorem Regular.job_notEmbedded (hf : f.Regular layers) (hembedded : NotEmbedded layers)
    (hcommand : command.Among layers)
    (hjob : (f.session.state.dispatch command).2.job? = some job) :
    job.data.isEmbedded = false :=
  hembedded _ (hf.job_mem hcommand hjob).1 _ (hf.job_mem hcommand hjob).2

/-- Commands for some layers keep a flight regular. -/
theorem Regular.issue (hf : f.Regular layers) (hcommand : command.Among layers) :
    (f.issue command).Regular layers := by
  have hagree := agree_issue (f := f) hcommand.noRequest
  -- a command that leads to no job leaves the current job, or none that waits is current
  have hold (job : Job) (hwaits : .evaluate job ∈ f.waiting) :
      job.generation ≤ (f.session.state.dispatch command).1.generation ∧
        (job.generation = (f.session.state.dispatch command).1.generation →
          (f.session.state.dispatch command).1.job? = some job) := by
    have hbound := hf.bounded job hwaits
    cases hjob : (f.session.state.dispatch command).2.job? with
    | some new =>
      obtain ⟨hcurrent, hnext⟩ := ComputeState.dispatch_of_some hjob
      have hgeneration := (ComputeState.job?_eq_some_iff.mp hcurrent).2
      exact ⟨by omega, by omega⟩
    | none =>
      rcases ComputeState.dispatch_of_none hjob with
        ⟨layer, hstate, -, -⟩ | ⟨overrides, hstate, -⟩
      · rw [hstate]
        refine ⟨Nat.le_succ_of_le hbound, fun hcurrent ↦ ?_⟩
        simp only [ComputeState.withLayer] at hcurrent
        omega
      · rw [hstate]
        exact ⟨hbound, hf.latest job hwaits⟩
  refine ⟨fun pair hpair ↦ hf.layer_mem hcommand (hagree.fetchable?_eq ▸ hpair),
    fun w hw ↦ ?_, fun job hwaits ↦ ?_, fun job hwaits hcurrent ↦ ?_⟩
  · rcases mem_waiting_issue hcommand.noRequest hw with hwaits | ⟨job, rfl, hjob⟩
    · exact hf.waiting w hwaits
    · exact ⟨job, rfl, hf.job_mem hcommand hjob⟩
  · rw [hagree.generation]
    rcases mem_waiting_issue hcommand.noRequest hwaits with hwaits | ⟨job', heq, hjob⟩
    · exact (hold job hwaits).1
    · cases heq
      exact Nat.le_of_eq (ComputeState.job?_eq_some_iff.mp (ComputeState.dispatch_of_some hjob).1).2
  · rw [hagree.job?_eq]
    rw [hagree.generation] at hcurrent
    rcases mem_waiting_issue hcommand.noRequest hwaits with hwaits | ⟨job', heq, hjob⟩
    · exact (hold job hwaits).2 hcurrent
    · cases heq
      exact (ComputeState.dispatch_of_some hjob).1

/-- An answer comes to a waiting job, or nothing happens. -/
theorem Regular.answer_cases (hf : f.Regular layers) (place : Nat) :
    f.answer fetcher place = f ∨ ∃ job, f.waiting[place]? = some (.evaluate job) ∧
      .evaluate job ∈ f.waiting ∧
      f.answer fetcher place =
        { session := (f.session.resume (.evaluate job) (fetcher job.data none)).2
          waiting := f.waiting.eraseIdx place } := by
  cases hplace : f.waiting[place]? with
  | none => exact .inl (by rw [answer, hplace])
  | some w =>
    have hmem := List.mem_of_getElem? hplace
    obtain ⟨job, rfl, -⟩ := hf.waiting w hmem
    exact .inr ⟨job, rfl, hmem, by rw [answer, hplace]; rfl⟩

/-- Other jobs than the answered one go on waiting. -/
theorem mem_eraseIdx_of_ne {waiting : List Waiting} {place : Nat} {v w : Waiting}
    (hv : waiting[place]? = some v) (hw : w ∈ waiting) (hne : w ≠ v) :
    w ∈ waiting.eraseIdx place := by
  obtain ⟨i, hi⟩ := List.mem_iff_getElem?.mp hw
  refine List.mem_eraseIdx_iff_getElem?.mpr ⟨i, ?_, hi⟩
  rintro rfl
  rw [hi] at hv
  exact hne (Option.some.inj hv)

/-- An answer changes at most what evaluations came to. -/
theorem agree_answer (f : Flight) (place : Nat) :
    (f.answer fetcher place).session.state.Agree f.session.state := by
  unfold answer
  split
  · exact ⟨rfl, rfl, rfl⟩
  · rename_i w _
    cases w with
    | load layer data range => exact ⟨rfl, rfl, rfl⟩
    | evaluate job => exact Session.agree_finishJob _ _ _

theorem mem_waiting_answer {fetcher : Fetcher Id} {place : Nat} {w : Waiting}
    (hw : w ∈ (f.answer fetcher place).waiting) : w ∈ f.waiting := by
  unfold answer at hw
  split at hw
  · exact hw
  · exact List.mem_of_mem_eraseIdx hw

/-- Answers keep a flight regular. -/
theorem Regular.answer (hf : f.Regular layers) (place : Nat) :
    (f.answer fetcher place).Regular layers := by
  have hagree := f.agree_answer fetcher place
  refine ⟨fun pair hpair ↦ hf.current pair (hagree.fetchable?_eq ▸ hpair),
    fun w hw ↦ hf.waiting w (mem_waiting_answer hw), fun job hwaits ↦ ?_,
    fun job hwaits hcurrent ↦ ?_⟩
  · rw [hagree.generation]
    exact hf.bounded job (mem_waiting_answer hwaits)
  · rw [hagree.job?_eq]
    exact hf.latest job (mem_waiting_answer hwaits) (hcurrent.trans hagree.generation)

theorem Regular.step (hf : f.Regular layers) {e : Event}
    (he : ∀ command, e.command? = some command → command.Among layers) :
    (f.step fetcher e).Regular layers := by
  cases e with
  | issue command => exact hf.issue (he command rfl)
  | answer place => exact hf.answer fetcher place

theorem Regular.run (hf : f.Regular layers) {schedule : List Event}
    (hamong : Among layers schedule) : (f.run fetcher schedule).Regular layers := by
  induction schedule generalizing f with
  | nil => exact hf
  | cons e rest ih =>
    exact ih (hf.step fetcher hamong.head) hamong.tail

/-! ## Awaited commands as a flight -/

/-- The schedule in which each command is answered before the next one is issued. -/
def inTurn (commands : List Command) : List Event :=
  commands.flatMap fun command ↦ [.issue command, .answer 0]

theorem answer_issue (s : Session) (command : Command) :
    (issue { session := s } command).answer fetcher 0
      = { session := (Session.run fetcher s command).2 } := by
  rw [issue, Session.run]
  cases hstart : s.start command with
  | mk s' waiting => cases waiting <;> rfl

/-- A schedule in which each command is answered before the next is issued is the run that awaits
each command. -/
theorem run_inTurn (s : Session) (commands : List Command) :
    run fetcher { session := s } (inTurn commands) = { session := s.runAll fetcher commands } := by
  induction commands generalizing s with
  | nil => rfl
  | cons command rest ih =>
    have hfirst := answer_issue fetcher s command
    have hrest := ih (Session.run fetcher s command).2
    rw [← hfirst] at hrest
    exact hrest

theorem among_inTurn {commands : List Command} (h : ∀ command ∈ commands, command.Among layers) :
    Among layers (inTurn commands) := by
  intro e he command hcommand
  obtain ⟨command', hmem, he⟩ := List.mem_flatMap.mp he
  rcases List.mem_cons.mp he with rfl | he
  · cases hcommand
    exact h _ hmem
  · rw [List.mem_singleton.mp he] at hcommand
    cases hcommand

/-- The layer, the overrides and the generation depend on the commands alone. -/
theorem agree_runAll {schedule : List Event} (hamong : Among layers schedule) {s : Session}
    (h : f.session.state.Agree s.state) :
    (f.run fetcher schedule).session.state.Agree
      (s.runAll fetcher (commandsOf schedule)).state := by
  induction schedule generalizing f s with
  | nil => exact h
  | cons e rest ih =>
    cases e with
    | answer place => exact ih hamong.tail ((f.agree_answer fetcher place).trans h)
    | issue command =>
      have hcommand := (hamong.head command rfl).noRequest
      have hawaited : (Session.run fetcher s command).2.state.Agree
          (s.state.dispatch command).1 := by
        have hanswer := agree_answer fetcher (issue { session := s } command) 0
        rw [answer_issue] at hanswer
        exact hanswer.trans (agree_issue hcommand)
      exact ih hamong.tail
        ((agree_issue hcommand).trans ((h.dispatch command).1.trans hawaited.symm))

end Flight

end MapStyle
