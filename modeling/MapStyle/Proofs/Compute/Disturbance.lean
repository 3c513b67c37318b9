import MapStyle.Proofs.Compute.Shape

/-!
# What a disturbance changes

A fetch that comes back replaces what was kept without a range. Features that were written while it
was under way are lost, and those that were deleted come back; no later event repairs this where
all other contents are empty. Together with the agreement of schedules without disturbance this
tells exactly which shapes of schedules come to the view of awaited commands, whatever the features
are.
-/

namespace MapStyle

/-! ## What is shown of the store -/

/-- The state after a command that leads to a job has not failed. -/
theorem ComputeState.failed_dispatch {s : ComputeState} {command : Command} {job : Job}
    (hjob : (s.dispatch command).2.job? = some job) : (s.dispatch command).1.failed = false := by
  rcases s.dispatch_cases command with
    ⟨layer, -, hstate, -⟩ | ⟨-, -, hstate, -⟩ | ⟨-, hnone, -⟩
  · rw [hstate]
    rfl
  · rw [hstate]
    rfl
  · rw [hnone] at hjob
    contradiction

namespace Session

/-- An evaluation with features does not fail. -/
theorem failed_finishJob {s : Session} (h : s.state.failed = false) (job : Job)
    (features : List Feature) : (s.finishJob job (.ok features)).state.failed = false := by
  have hstate : (s.finishJob job (.ok features)).state = (s.state.complete job.generation
      (.ok (some (Memo.style job.layer features s.memo).1))).1 := rfl
  rw [hstate]
  unfold ComputeState.complete
  split
  · exact h
  · rfl

/-- Of a layer with features all that are kept are shown, unless its evaluation failed. -/
theorem held_view? {s : Session} {job : Job} (hjob : s.state.job? = some job)
    (hfailed : s.state.failed = false) :
    s.view?.map LayerView.held = some (((s.store.part? job.key).map Buckets.all).getD []) := by
  have hpair := (ComputeState.job?_eq_some_iff.mp hjob).1
  obtain ⟨layer, hlayer, hfetchable⟩ := Option.bind_eq_some_iff.mp hpair
  simp only [view?, ComputeState.view?, hlayer, hpair, hfailed, hfetchable, Option.map_some,
    Option.bind_some, Option.isNone_some, Bool.or_self, Store.getAll?]
  rfl

end Session

namespace Flight

variable {layers : List SimpleLayer} {fetcher : Fetcher Id} {f : Flight} {command : Command}
  {job : Job} {features : List Feature}

/-- Where the fetch for the current layer succeeds, its features are kept or awaited, and its
evaluation has not failed. -/
def Served (fetcher : Fetcher Id) (f : Flight) : Prop :=
  ∀ job, f.session.state.job? = some job → Succeeds fetcher job.data →
    f.session.state.failed = false ∧
      ((f.session.store.part? job.key).isSome ∨ .evaluate job ∈ f.waiting)

theorem served_start (config : Config) : (start config).Served fetcher := by
  intro job hjob
  simp [start, ComputeState.job?, ComputeState.fetchable?] at hjob

/-- A job that a command starts is evaluated at once or waits, and a command without a job leaves
the current one served. -/
theorem Served.issue (h : f.Served fetcher) (hf : f.Regular layers)
    (hembedded : NotEmbedded layers)
    (hcommand : command.Among layers) : (f.issue command).Served fetcher := by
  intro job hcurrent hsucceeds
  cases hjob : (f.session.state.dispatch command).2.job? with
  | none =>
    rw [issue_of_none hcommand.noRequest hjob] at hcurrent ⊢
    dsimp only at hcurrent ⊢
    rcases ComputeState.dispatch_of_none hjob with
      ⟨layer, hstate, -, hnone⟩ | ⟨overrides, hstate, -⟩
    · rw [hstate, hnone] at hcurrent
      contradiction
    · rw [hstate] at hcurrent ⊢
      exact h job hcurrent hsucceeds
  | some new =>
    have hdata := hf.job_notEmbedded hembedded hcommand hjob
    have hfailed := ComputeState.failed_dispatch hjob
    rw [(agree_issue hcommand.noRequest).job?_eq] at hcurrent
    cases (ComputeState.dispatch_of_some hjob).1.symm.trans hcurrent
    cases hpart : (f.session.changed command).store.part? job.key with
    | some b =>
      rw [issue_of_part hdata hjob hpart]
      refine ⟨Session.failed_finishJob (s := f.session.changed command) hfailed _ _, .inl ?_⟩
      rw [Session.finishJob_store, hpart]
      rfl
    | none =>
      rw [issue_of_fetch hdata hjob hpart]
      exact ⟨hfailed, .inr (by simp)⟩

/-- The answer to the current job is kept, and other answers leave it kept or waiting. -/
theorem Served.answer (h : f.Served fetcher) (hf : f.Regular layers) (place : Nat) :
    (f.answer fetcher place).Served fetcher := by
  rcases hf.answer_cases fetcher place with heq | ⟨job, hplace, hwaits, heq⟩
  · rw [heq]
    exact h
  intro current hcurrent hsucceeds
  rw [(f.agree_answer fetcher place).job?_eq] at hcurrent
  obtain ⟨hfailed, hkept⟩ := h current hcurrent hsucceeds
  rw [heq, Session.resume_evaluate]
  constructor
  · by_cases hlate : job.generation = f.session.state.generation
    · cases (hf.latest job hwaits hlate).symm.trans hcurrent
      obtain ⟨features, hanswer⟩ := hsucceeds
      rw [hanswer]
      exact Session.failed_finishJob (s := f.session.received job (.ok features)) hfailed _ _
    · have hsame (outcome : Outcome) :
          (f.session.state.complete job.generation outcome).1 = f.session.state :=
        ComputeState.complete_late hlate outcome
      exact (congrArg ComputeState.failed (hsame _)).trans hfailed
  · rw [Session.finishJob_store, Session.part?_received]
    by_cases hkey : current.key = job.key
    · rw [if_pos hkey]
      rcases hkept with hsome | hwaits'
      · left
        cases fetcher job.data none with
        | ok features => rfl
        | error fault => exact hsome
      · by_cases hsame : current = job
        · subst hsame
          obtain ⟨features, hanswer⟩ := hsucceeds
          rw [hanswer]
          exact .inl rfl
        · exact .inr (mem_eraseIdx_of_ne hplace hwaits' fun heq ↦ hsame (Waiting.evaluate.inj heq))
    · rw [if_neg hkey]
      rcases hkept with hsome | hwaits'
      · exact .inl hsome
      · refine .inr (mem_eraseIdx_of_ne hplace hwaits' ?_)
        rintro ⟨⟩
        exact hkey rfl

/-- By induction over the schedule, the current job stays served. -/
theorem Served.run (h : f.Served fetcher) (hf : f.Regular layers)
    (hembedded : NotEmbedded layers)
    {schedule : List Event} (hamong : Among layers schedule) :
    (f.run fetcher schedule).Served fetcher := by
  induction schedule generalizing f with
  | nil => exact h
  | cons e rest ih =>
    cases e with
    | issue command =>
      have hcommand := hamong.head command rfl
      exact ih (h.issue hf hembedded hcommand) (hf.issue hcommand) hamong.tail
    | answer place => exact ih (h.answer hf place) (hf.answer fetcher place) hamong.tail

/-! ## Events without contents -/

/-- What an event without contents makes of a part of the store, if the given features are the
answer to every fetch that succeeds. -/
inductive Quiet (features : List Feature) : Option Buckets → Option Buckets → Prop
  | same (part : Option Buckets) : Quiet features part part
  | empty : Quiet features none (some [])
  | fetch (part : Option Buckets) :
      Quiet features part (some ((part.getD []).replace (Range.key none) features))

theorem store_issue_of_some (hjob : (f.session.state.dispatch command).2.job? = some job) :
    (f.issue command).session.store = (f.session.changed command).store := by
  rw [issue, f.session.start_of_some hjob, Session.startJob]
  split <;> rfl

/-- A command changes at most the part that its job belongs to. -/
theorem part?_issue (hcommand : ∀ range, command ≠ .requestFetch range) (key : StoreKey) :
    (f.issue command).session.store.part? key = f.session.store.part? key ∨
      (f.issue command).session.store.part? key
        = (f.session.state.dispatch command).2.changePart (f.session.store.part? key) := by
  cases hjob : (f.session.state.dispatch command).2.job? with
  | none => exact .inl (by rw [issue_of_none hcommand hjob])
  | some job =>
    rw [store_issue_of_some hjob, f.session.part?_changed hjob]
    by_cases hkey : key = job.key
    · exact .inr (if_pos hkey)
    · exact .inl (if_neg hkey)

/-- A command without contents leaves a part as it is, or creates it empty. -/
theorem changePart_of_shape (state : ComputeState) (hshape : command.shape = command)
    (part : Option Buckets) :
    (state.dispatch command).2.changePart part = part ∨
      part = none ∧ (state.dispatch command).2.changePart part = some [] := by
  cases hcommand : command.changesFeatures with
  | false => exact .inl (changePart_dispatch hcommand part)
  | true =>
    cases command with
    | writeFeatures written =>
      obtain rfl : [] = written := Command.writeFeatures.inj hshape
      simp only [ComputeState.dispatch, ComputeState.changeFeatures]
      cases state.fetchable? with
      | none => exact .inl rfl
      | some pair =>
        cases part with
        | none => exact .inr ⟨rfl, rfl⟩
        | some b => exact .inl rfl
    | deleteFeatures ids =>
      obtain rfl : [] = ids := Command.deleteFeatures.inj hshape
      simp only [ComputeState.dispatch, ComputeState.changeFeatures]
      cases state.fetchable? with
      | none => exact .inl rfl
      | some pair => cases part <;> simp [Effect.changePart]
    | _ => cases hcommand

/-- Every successful fetch is answered with the given features. -/
def Answers (fetcher : Fetcher Id) (features : List Feature) : Prop :=
  ∀ data answer, fetcher data none = .ok answer → answer = features

theorem quiet_received (h : Answers fetcher features) (data : DataSource) (part : Option Buckets) :
    Quiet features part (Session.receivePart (fetcher data none) part) := by
  cases hanswer : fetcher data none with
  | error fault => exact .same part
  | ok answer =>
    rw [h data answer hanswer]
    exact .fetch part

/-- The answer to a held fetch concerns the part under the key of its job and no other. -/
theorem part?_answer {place : Nat} (hplace : f.waiting[place]? = some (.evaluate job))
    (key : StoreKey) :
    (f.answer fetcher place).session.store.part? key
      = if key = job.key then
          Session.receivePart (fetcher job.data none) (f.session.store.part? key)
        else f.session.store.part? key := by
  rw [Flight.answer, hplace]
  dsimp only
  exact f.session.part?_received job (fetcher job.data none) key

/-- An event without contents makes a quiet change of each part. -/
theorem quiet_step (h : Answers fetcher features) (hf : f.Regular layers) {e : Event}
    (he : ∀ command, e.command? = some command → command.Among layers) (hshape : e.shape = e)
    (key : StoreKey) :
    Quiet features (f.session.store.part? key) ((f.step fetcher e).session.store.part? key) := by
  cases e with
  | issue command =>
    rw [step]
    rcases part?_issue (f := f) (he command rfl).noRequest key with heq | heq
    · rw [heq]
      exact .same _
    · rw [heq]
      rcases changePart_of_shape f.session.state (Event.issue.inj hshape)
        (f.session.store.part? key) with hsame | ⟨hnone, hempty⟩
      · rw [hsame]
        exact .same _
      · rw [hempty, hnone]
        exact .empty
  | answer place =>
    rw [step]
    rcases hf.answer_cases fetcher place with heq | ⟨job, hplace, -, -⟩
    · rw [heq]
      exact .same _
    · rw [part?_answer hplace]
      by_cases hkey : key = job.key
      · rw [if_pos hkey]
        exact quiet_received h job.data _
      · rw [if_neg hkey]
        exact .same _

section Property

variable {P : Option Buckets → Prop} {key : StoreKey} {schedule : List Event}
  (h : Answers fetcher features) (hamong : Among layers schedule)
  (hshape : ∀ e ∈ schedule, e.shape = e)

include h hamong hshape

/-- What events without contents keep of a part holds after a schedule of them. -/
theorem kept (key : StoreKey) (hP : ∀ part part', Quiet features part part' → P part → P part')
    (hf : f.Regular layers) (hpart : P (f.session.store.part? key)) :
    P ((f.run fetcher schedule).session.store.part? key) := by
  induction schedule generalizing f with
  | nil => exact hpart
  | cons e rest ih =>
    have hquiet := quiet_step h hf hamong.head (hshape e List.mem_cons_self) key
    exact ih hamong.tail (fun e' he' ↦ hshape e' (List.mem_cons_of_mem _ he'))
      (hf.step fetcher hamong.head) (hP _ _ hquiet hpart)

/-- What the answer to a waiting fetch brings about holds once nothing waits any more. -/
theorem landed {Q : Option Buckets → Prop}
    (hP : ∀ part part', Quiet features part part' → P part → P part')
    (hQ : ∀ part part', Quiet features part part' → Q part → Q part')
    (hPQ : ∀ part, P part → Q (some ((part.getD []).replace (Range.key none) features)))
    (hf : f.Regular layers) (hpart : P (f.session.store.part? key)) (hkey : job.key = key)
    (hsucceeds : Succeeds fetcher job.data)
    (hopen : .evaluate job ∈ f.waiting ∨ Q (f.session.store.part? key))
    (hrest : (f.run fetcher schedule).waiting = []) :
    Q ((f.run fetcher schedule).session.store.part? key) := by
  induction schedule generalizing f with
  | nil =>
    rcases hopen with hwaits | hdone
    · change f.waiting = [] at hrest
      rw [hrest] at hwaits
      contradiction
    · exact hdone
  | cons e rest ih =>
    have hquiet := quiet_step h hf hamong.head (hshape e List.mem_cons_self) key
    refine ih hamong.tail (fun e' he' ↦ hshape e' (List.mem_cons_of_mem _ he'))
      (hf.step fetcher hamong.head) (hP _ _ hquiet hpart) ?_ hrest
    rcases hopen with hwaits | hdone
    · cases e with
      | issue command => exact .inl (List.mem_append_left _ hwaits)
      | answer place =>
        rcases hf.answer_cases fetcher place with heq | ⟨other, hplace, -, heq⟩
        · rw [step, heq]
          exact .inl hwaits
        · by_cases hsame : job = other
          · subst hsame
            obtain ⟨answer, hanswer⟩ := hsucceeds
            right
            rw [step, part?_answer hplace, if_pos hkey.symm, hanswer, h _ _ hanswer]
            exact hPQ _ hpart
          · rw [step, heq]
            exact .inl (mem_eraseIdx_of_ne hplace hwaits fun heq ↦ hsame (Waiting.evaluate.inj heq))
    · exact .inr (hQ _ _ hquiet hdone)

end Property

/-! ## Awaited commands -/

section Awaited

variable {s : Session} {key : StoreKey} {b : Buckets}
  (hembedded : NotEmbedded layers)
  (hs : Regular layers { session := s })

theorem regular_run (hs : Regular layers { session := s }) (hcommand : command.Among layers) :
    Regular layers { session := (Session.run fetcher s command).2 } := by
  rw [← answer_issue]
  exact (hs.issue hcommand).answer fetcher 0

include hembedded hs

/-- A part that is there after a command changed it is there once the command was awaited. -/
theorem part?_run (hcommand : command.Among layers)
    (hjob : (s.state.dispatch command).2.job? = some job)
    (hpart : (s.changed command).store.part? key = some b) :
    (Session.run fetcher s command).2.store.part? key = some b := by
  have hdata := hs.job_notEmbedded hembedded hcommand hjob
  cases hkept : (s.changed command).store.part? job.key with
  | some b' =>
    rw [s.run_of_part fetcher hdata hjob hkept]
    exact hpart
  | none =>
    have hne : key ≠ job.key := by
      rintro rfl
      rw [hpart] at hkept
      contradiction
    calc
      _ = (s.changed command).store.part? key := by
        rw [s.run_of_fetch fetcher hdata hjob hkept, Session.finishJob_store,
          Session.part?_received, if_neg hne]
      _ = some b := hpart

/-- A part that is there stays as it is while commands without contents are awaited. -/
theorem part?_runAll {commands : List Command} (hamong : ∀ command ∈ commands, command.Among layers)
    (hshape : ∀ command ∈ commands, command.shape = command) (hpart : s.store.part? key = some b) :
    (s.runAll fetcher commands).store.part? key = some b := by
  induction commands generalizing s with
  | nil => exact hpart
  | cons command rest ih =>
    have hcommand := hamong command List.mem_cons_self
    refine ih (regular_run hs hcommand) (fun c hc ↦ hamong c (List.mem_cons_of_mem _ hc))
      (fun c hc ↦ hshape c (List.mem_cons_of_mem _ hc)) ?_
    dsimp only
    cases hjob : (s.state.dispatch command).2.job? with
    | none =>
      rw [s.run_of_none fetcher hcommand.noRequest hjob]
      exact hpart
    | some job =>
      apply part?_run hembedded hs hcommand hjob
      rw [s.part?_changed hjob, hpart]
      split
      · rcases changePart_of_shape s.state (hshape command List.mem_cons_self) (some b) with
          hsame | ⟨hnone, -⟩
        · exact hsame
        · contradiction
      · rfl

/-- A command that changes features changes the part of the current layer. -/
theorem part?_run_of_changesFeatures (hcommand : command.Among layers)
    (hchanges : command.changesFeatures = true) (hkey : s.key? = some key) {b' : Buckets}
    (hpart : s.store.part? key = some b)
    (hchanged : (s.state.dispatch command).2.changePart (some b) = some b') :
    (Session.run fetcher s command).2.store.part? key = some b' := by
  obtain ⟨current, hcurrent, rfl⟩ := Option.map_eq_some_iff.mp hkey
  have hfetchable := (ComputeState.job?_eq_some_iff.mp hcurrent).1
  obtain ⟨job, hjob⟩ : ∃ job, (s.state.dispatch command).2.job? = some job := by
    cases command with
    | writeFeatures features =>
      exact ⟨_, by simp only [ComputeState.dispatch, ComputeState.changeFeatures, hfetchable]; rfl⟩
    | deleteFeatures ids =>
      exact ⟨_, by simp only [ComputeState.dispatch, ComputeState.changeFeatures, hfetchable]; rfl⟩
    | _ => cases hchanges
  have hsame := key?_of_changesFeatures hchanges hjob
  rw [hkey] at hsame
  apply part?_run hembedded hs hcommand hjob
  rw [s.part?_changed hjob, if_pos (Option.some.inj hsame), hpart, hchanged]

end Awaited

/-- What holds of a session in which each command of a schedule was awaited. -/
theorem awaited_start (fetcher : Fetcher Id) (config : Config)
    (hembedded : NotEmbedded layers)
    {schedule : List Event} (hamong : Among layers schedule) :
    Regular layers
        { session := (start config).session.runAll fetcher (commandsOf schedule) } ∧
      Served fetcher
        { session := (start config).session.runAll fetcher (commandsOf schedule) } := by
  have hcommands : Among layers (inTurn (commandsOf schedule)) := by
    apply among_inTurn
    intro command hcommand
    obtain ⟨e, he, heq⟩ := List.mem_filterMap.mp hcommand
    exact hamong e he command heq
  have hrun := run_inTurn fetcher (start config).session (commandsOf schedule)
  rw [← hrun]
  exact ⟨(regular_start config).run fetcher hcommands,
    (served_start config).run (regular_start config) hembedded hcommands⟩

end Flight

end MapStyle
