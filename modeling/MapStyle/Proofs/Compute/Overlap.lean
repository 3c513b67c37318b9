import MapStyle.Proofs.Compute.Flight
import MapStyle.Proofs.Styling.Apart

/-!
# Overlap without disturbance

A flight is followed beside the session in which each command is awaited. The two can differ in what
is known of the current layer only while its job waits, and in the part of the store that belongs to
it only until a fetch for it comes back. Features that are written or deleted in the meantime would
be lost with that fetch, or come back with it; if there are none, both come to the same view.
-/

namespace MapStyle

/-- Whether a command adds or removes features. -/
def Command.changesFeatures : Command → Bool
  | writeFeatures _ => true
  | deleteFeatures _ => true
  | _ => false

/-- The part of the store that the current layer belongs to, if it has features. -/
def Session.key? (s : Session) : Option StoreKey := s.state.job?.map Job.key

namespace Flight

/-- The layers with features that a schedule sets. -/
def layersOf (schedule : List Event) : List SimpleLayer :=
  schedule.filterMap fun e ↦ (e.command?.bind Command.fetchable?).map (·.1)

/-- Layers that share a part of the store get the same answer to a fetch of all features. -/
def Keyed (fetcher : Fetcher Id) (layers : List SimpleLayer) : Prop :=
  ∀ l ∈ layers, ∀ l' ∈ layers, ∀ d d', l.data = some d → l'.data = some d' →
    Store.keyOf l.id d = Store.keyOf l'.id d' → fetcher d none = fetcher d' none

/-- A fetch of all features is answered with features. -/
def Succeeds (fetcher : Fetcher Id) (data : DataSource) : Prop :=
  ∃ features, fetcher data none = .ok features

/-- An event does not disturb a part that is shown: features of the current layer are not changed
while a fetch for its part that will succeed is still to be answered. -/
def Calm (fetcher : Fetcher Id) (shown : StoreKey → Prop) (f : Flight) : Event → Prop
  | .issue command => command.changesFeatures = true → ∀ job, .evaluate job ∈ f.waiting →
      f.session.key? = some job.key → shown job.key → ¬Succeeds fetcher job.data
  | .answer _ => True

/-- No event of a schedule disturbs a part that is shown. -/
def Undisturbed (fetcher : Fetcher Id) (shown : StoreKey → Prop) : Flight → List Event → Prop
  | _, [] => True
  | f, e :: rest => f.Calm fetcher shown e ∧ Undisturbed fetcher shown (f.step fetcher e) rest

variable {layers : List SimpleLayer} {fetcher : Fetcher Id} {shown : StoreKey → Prop}

/-! ## The relation -/

/-- What the evaluation of a job comes to once its fetch is answered. -/
def outcome (fetcher : Fetcher Id) (job : Job) : Outcome :=
  (fetcher job.data none).map fun features ↦ some (Styling.style job.layer features)

/-- A part of the store is the one that awaited commands leave, or it still waits for its first
fetch; and awaited commands leave what a waiting fetch will give. -/
structure Caught (fetcher : Fetcher Id) (waiting : List Waiting) (key : StoreKey)
    (part part' : Option Buckets) : Prop where
  part : part = part' ∨ part = none ∧ ∃ job features, .evaluate job ∈ waiting ∧ job.key = key ∧
    fetcher job.data none = .ok features
  fetched : ∀ job features, .evaluate job ∈ waiting → job.key = key →
    fetcher job.data none = .ok features → part' = some [(Range.key none, features)]

/-- A flight beside the session in which each command is awaited. -/
structure Matches (layers : List SimpleLayer) (fetcher : Fetcher Id) (shown : StoreKey → Prop)
    (f : Flight) (s : Session) : Prop where
  regular : f.Regular layers
  agree : f.session.state.Agree s.state
  sound : Memo.Sound (leavesOf layers) f.session.memo
  sound_awaited : Memo.Sound (leavesOf layers) s.memo
  /-- While the current job waits, it will bring the state to that of the session. -/
  pending : ∀ job, f.session.state.job? = some job → shown job.key → .evaluate job ∈ f.waiting →
    s.state = (f.session.state.complete job.generation (outcome fetcher job)).1
  /-- Unless the current job waits, the state is that of the session. -/
  settled : (∀ job, f.session.state.job? = some job → shown job.key ∧ .evaluate job ∉ f.waiting) →
    f.session.state = s.state
  caught : ∀ key, shown key →
    Caught fetcher f.waiting key (f.session.store.part? key) (s.store.part? key)

/-- At the start nothing waits, and the two sessions are the same. -/
theorem matches_start (config : Config) :
    Matches layers fetcher shown (start config) { memo := Memo.empty config } where
  regular := regular_start config
  agree := ⟨rfl, rfl, rfl⟩
  sound := Memo.sound_empty config
  sound_awaited := Memo.sound_empty config
  pending := by simp [start]
  settled := fun _ ↦ rfl
  caught := fun key _ ↦ ⟨.inl rfl, by simp [start]⟩

/-- With layers apart a job is finished as without memory. -/
theorem finishJob_eq (hapart : Apart layers) {s : Session}
    (hsound : Memo.Sound (leavesOf layers) s.memo) {job : Job} (hjob : job.layer ∈ layers)
    (answer : Except Fault (List Feature)) :
    (s.finishJob job answer).state = (s.state.complete job.generation
        (answer.map fun features ↦ some (Styling.style job.layer features))).1 ∧
      Memo.Sound (leavesOf layers) (s.finishJob job answer).memo := by
  obtain ⟨houtcome, hsound'⟩ := hapart.styleAnswer_gives hjob answer s.memo hsound
  refine ⟨?_, hsound'⟩
  rw [← houtcome]
  rfl

/-! ## Answers -/

/-- The answer to a fetch leaves what awaited commands leave. -/
theorem Caught.answer {waiting : List Waiting} {key : StoreKey} {part part' : Option Buckets}
    (h : Caught fetcher waiting key part part') {place : Nat} {job : Job}
    (hplace : waiting[place]? = some (.evaluate job)) :
    Caught fetcher (waiting.eraseIdx place) key
      (if key = job.key then Session.receivePart (fetcher job.data none) part else part) part' where
  part := by
    have hwaits := List.mem_of_getElem? hplace
    -- a job that waits for the part is not the answered one, if that one is for another part or
    -- its fetch fails
    have hother (hne : ∀ features, key = job.key → fetcher job.data none ≠ .ok features) :
        part = part' ∨ part = none ∧ ∃ job features, .evaluate job ∈ waiting.eraseIdx place ∧
          job.key = key ∧ fetcher job.data none = .ok features := by
      rcases h.part with heq | ⟨hnone, other, features, hother, hkey, hanswer⟩
      · exact .inl heq
      · refine .inr ⟨hnone, other, features, mem_eraseIdx_of_ne hplace hother ?_, hkey, hanswer⟩
        rintro ⟨⟩
        exact hne features hkey.symm hanswer
    by_cases hkey : key = job.key
    · rw [if_pos hkey]
      cases hanswer : fetcher job.data none with
      | error fault =>
        exact hother fun features _ ↦ by rw [hanswer]; simp
      | ok features =>
        have hpart' := h.fetched job features hwaits hkey.symm hanswer
        rcases h.part with heq | ⟨hnone, -⟩
        · rw [heq, hpart']
          exact .inl (by simp [Session.receivePart, Buckets.replace, Buckets.update])
        · rw [hnone, hpart']
          exact .inl (by simp [Session.receivePart, Buckets.replace, Buckets.update])
    · rw [if_neg hkey]
      exact hother fun _ hsame ↦ absurd hsame hkey
  fetched := fun other features hother ↦ h.fetched other features (List.mem_of_mem_eraseIdx hother)

/-- A job that waits for a shown part finishes with its answer, whatever is stored by then. -/
theorem Matches.resume_eq {f : Flight} {s : Session} (h : Matches layers fetcher shown f s)
    {job : Job} (hwaits : .evaluate job ∈ f.waiting) (hshown : shown job.key) :
    (f.session.resume (.evaluate job) (fetcher job.data none)).2
      = (f.session.received job (fetcher job.data none)).finishJob job
          (fetcher job.data none) := by
  have hcaught := h.caught job.key hshown
  refine f.session.resume_of_part? fun features hanswer ↦ ?_
  rcases hcaught.part with hpart | ⟨hnone, -⟩
  · exact .inr (hpart.trans (hcaught.fetched job features hwaits rfl hanswer))
  · exact .inl hnone

/-- An answer that comes late brings what the awaited session has had since the command. -/
theorem Matches.answer (hapart : Apart layers) {f : Flight} {s : Session}
    (h : Matches layers fetcher shown f s) (place : Nat) :
    Matches layers fetcher shown (f.answer fetcher place) s := by
  rcases h.regular.answer_cases fetcher place with heq | ⟨job, hplace, hwaits, heq⟩
  · rw [heq]
    exact h
  obtain ⟨job', hjob', hlayer, -⟩ := h.regular.waiting _ hwaits
  cases hjob'
  have hregular := h.regular.answer fetcher place
  have hagree := f.agree_answer fetcher place
  have hresume := f.session.resume_evaluate job (fetcher job.data none)
  have hfinish (answer : Except Fault (List Feature)) := finishJob_eq hapart
    (s := f.session.received job (fetcher job.data none)) h.sound hlayer answer
  rw [heq] at hregular hagree ⊢
  refine ⟨hregular, hagree.trans h.agree, ?_, h.sound_awaited, ?_, ?_, ?_⟩
  · dsimp only
    rw [hresume]
    exact (hfinish _).2
  · intro other hother hshown hwaits'
    rw [hagree.job?_eq] at hother
    have hgeneration := (ComputeState.job?_eq_some_iff.mp hother).2
    rw [hagree.complete_eq (hgeneration.trans hagree.generation.symm)]
    exact h.pending other hother hshown (List.mem_of_mem_eraseIdx hwaits')
  · intro hcurrent
    rw [hagree.job?_eq] at hcurrent
    by_cases hlate : job.generation = f.session.state.generation
    · have hlatest := h.regular.latest job hwaits hlate
      have hshown := (hcurrent job hlatest).1
      rw [h.pending job hlatest hshown hwaits]
      dsimp only
      rw [h.resume_eq hwaits hshown]
      exact (hfinish _).1
    · have hsame : (f.session.resume (.evaluate job) (fetcher job.data none)).2.state
          = f.session.state := by
        rw [hresume, (hfinish _).1]
        exact ComputeState.complete_late hlate _
      dsimp only
      rw [hsame]
      refine h.settled fun other hother ↦ ⟨(hcurrent other hother).1, fun hwaits' ↦ ?_⟩
      refine (hcurrent other hother).2 (mem_eraseIdx_of_ne hplace hwaits' ?_)
      rintro ⟨⟩
      exact hlate (ComputeState.job?_eq_some_iff.mp hother).2
  · intro key hshown
    dsimp only
    rw [hresume, Session.finishJob_store, Session.part?_received]
    exact (h.caught key hshown).answer hplace

/-! ## Commands -/

/-- What comes of a job that is started in a session and awaited. -/
structure Awaited (layers : List SimpleLayer) (fetcher : Fetcher Id) (s : Session) (job : Job)
    (answer : Except Fault (List Feature)) (s' : Session) : Prop where
  state : s'.state = (s.state.complete job.generation
    (answer.map fun features ↦ some (Styling.style job.layer features))).1
  sound : Memo.Sound (leavesOf layers) s'.memo
  part_of_ne : ∀ key, key ≠ job.key → s'.store.part? key = s.store.part? key
  /-- What is kept is evaluated. -/
  held : ∀ b, s.store.part? job.key = some b → answer = .ok b.all
  /-- Otherwise it is fetched. -/
  fetched : s.store.part? job.key = none → answer = fetcher job.data none
  part : s'.store.part? job.key
    = (s.store.part? job.key).or (Session.receivePart (fetcher job.data none) none)

/-- An awaited command evaluates what is kept for its job, or else what is fetched. -/
theorem awaited_run (fetcher : Fetcher Id) (hapart : Apart layers) {s : Session}
    {command : Command} {job : Job}
    (hsound : Memo.Sound (leavesOf layers) s.memo) (hlayer : job.layer ∈ layers)
    (hdata : job.data.isEmbedded = false) (hjob : (s.state.dispatch command).2.job? = some job) :
    ∃ answer, Awaited layers fetcher (s.changed command) job answer
      (Session.run fetcher s command).2 := by
  cases hpart : (s.changed command).store.part? job.key with
  | some b =>
    obtain ⟨hstate, hsound'⟩ := finishJob_eq hapart (s := s.changed command) hsound hlayer
      (.ok b.all)
    refine ⟨.ok b.all, ?_⟩
    rw [s.run_of_part fetcher hdata hjob hpart]
    refine ⟨hstate, hsound', fun _ _ ↦ rfl, fun b' hb' ↦ ?_, fun hnone ↦ ?_, ?_⟩
    · rw [hpart] at hb'
      cases hb'
      rfl
    · rw [hpart] at hnone
      contradiction
    · rw [Session.finishJob_store, hpart, Option.some_or]
  | none =>
    obtain ⟨hstate, hsound'⟩ := finishJob_eq hapart
      (s := (s.changed command).received job (fetcher job.data none)) hsound hlayer
      (fetcher job.data none)
    refine ⟨fetcher job.data none, ?_⟩
    rw [s.run_of_fetch fetcher hdata hjob hpart]
    refine ⟨hstate, hsound', fun key hkey ↦ ?_, fun b hb ↦ ?_, fun _ ↦ rfl, ?_⟩
    · rw [Session.finishJob_store, Session.part?_received, if_neg hkey]
    · rw [hpart] at hb
      contradiction
    · rw [Session.finishJob_store, Session.part?_received, if_pos rfl, hpart, Option.none_or]

/-- Only commands that change features change parts of the store. -/
theorem changePart_dispatch {state : ComputeState} {command : Command}
    (hcommand : command.changesFeatures = false) (b : Option Buckets) :
    (state.dispatch command).2.changePart b = b := by
  cases command with
  | writeFeatures features => cases hcommand
  | deleteFeatures ids => cases hcommand
  | override owner value => rfl
  | setLayer layer =>
    cases hset : layer.bind Layer.fetchable? <;>
      simp [ComputeState.dispatch, ComputeState.setLayer, ComputeState.job?,
        ComputeState.fetchable?, hset, Effect.changePart]
  | requestFetch range =>
    cases hcurrent : state.fetchable? <;>
      simp [ComputeState.dispatch, hcurrent, Effect.changePart]

/-- A command that changes features changes those of the current layer. -/
theorem key?_of_changesFeatures {s : Session} {command : Command} {job : Job}
    (hcommand : command.changesFeatures = true)
    (hjob : (s.state.dispatch command).2.job? = some job) : s.key? = some job.key := by
  obtain ⟨hcurrent, -⟩ := ComputeState.dispatch_of_some hjob
  have hsets : command.setsLayer = false := by
    cases command <;> first | rfl | cases hcommand
  have hfetchable := (ComputeState.job?_eq_some_iff.mp hcurrent).1
  rw [ComputeState.fetchable?_dispatch, hsets] at hfetchable
  have hfetchable : s.state.fetchable? = some (job.layer, job.data) := hfetchable
  rw [Session.key?, ComputeState.job?, hfetchable]
  rfl

/-- A change of features that disturbs nothing leaves what awaited commands leave. -/
theorem Matches.caught_changed {f : Flight} {s : Session} (h : Matches layers fetcher shown f s)
    {command : Command} {job : Job} (hcalm : f.Calm fetcher shown (.issue command))
    (hjob : (f.session.state.dispatch command).2.job? = some job) {key : StoreKey}
    (hshown : shown key) :
    Caught fetcher f.waiting key ((f.session.changed command).store.part? key)
      ((s.changed command).store.part? key) := by
  have hcaught := h.caught key hshown
  have heffect := (h.agree.dispatch command).2
  rw [f.session.part?_changed hjob, s.part?_changed (heffect ▸ hjob), ← heffect]
  by_cases hkey : key = job.key
  · rw [if_pos hkey, if_pos hkey]
    cases hcommand : command.changesFeatures with
    | false =>
      rw [changePart_dispatch hcommand, changePart_dispatch hcommand]
      exact hcaught
    | true =>
      have hcurrent := key?_of_changesFeatures hcommand hjob
      have hnone (other : Job) (features : List Feature) (hwaits : .evaluate other ∈ f.waiting)
          (hother : other.key = key) : fetcher other.data none ≠ .ok features := by
        subst hother
        exact fun hanswer ↦ hcalm hcommand other hwaits (hkey ▸ hcurrent) hshown ⟨features, hanswer⟩
      rcases hcaught.part with heq | ⟨-, other, features, hwaits, hother, hanswer⟩
      · rw [heq]
        exact ⟨.inl rfl, fun other features hwaits hother hanswer ↦
          absurd hanswer (hnone other features hwaits hother)⟩
      · exact absurd hanswer (hnone other features hwaits hother)
  · rw [if_neg hkey, if_neg hkey]
    exact hcaught

/-- A job for another part may begin to wait. -/
theorem Caught.wait_other {waiting : List Waiting} {key : StoreKey} {part part' : Option Buckets}
    (h : Caught fetcher waiting key part part') {job : Job} (hkey : key ≠ job.key) :
    Caught fetcher (waiting ++ [.evaluate job]) key part part' where
  part := by
    rcases h.part with heq | ⟨hnone, other, features, hwaits, hother⟩
    · exact .inl heq
    · exact .inr ⟨hnone, other, features, List.mem_append_left _ hwaits, hother⟩
  fetched := by
    intro other features hwaits hother
    rcases List.mem_append.mp hwaits with hold | hnew
    · exact h.fetched other features hold hother
    · cases List.mem_singleton.mp hnew
      exact absurd hother.symm hkey

/-- A job waits for a part, and awaited commands have what it will get. -/
theorem Caught.wait {waiting : List Waiting} {job : Job} {part' : Option Buckets}
    (h : Caught fetcher waiting job.key none part')
    (hkeyed : ∀ other, .evaluate other ∈ waiting → other.key = job.key →
      fetcher job.data none = fetcher other.data none) :
    Caught fetcher (waiting ++ [.evaluate job]) job.key none
      (part'.or (Session.receivePart (fetcher job.data none) none)) := by
  have hnew : .evaluate job ∈ waiting ++ [.evaluate job] := by simp
  cases part' with
  | none =>
    rw [Option.none_or]
    have hold (other : Job) (features : List Feature) (hwaits : .evaluate other ∈ waiting)
        (hother : other.key = job.key) : fetcher other.data none ≠ .ok features := by
      intro hanswer
      have hpart := h.fetched other features hwaits hother hanswer
      contradiction
    refine ⟨?_, fun other features hwaits hother hanswer ↦ ?_⟩
    · cases hanswer : fetcher job.data none with
      | error fault => exact .inl rfl
      | ok features => exact .inr ⟨rfl, job, features, hnew, rfl, hanswer⟩
    · rcases List.mem_append.mp hwaits with hmem | hmem
      · exact absurd hanswer (hold other features hmem hother)
      · cases List.mem_singleton.mp hmem
        rw [hanswer]
        rfl
  | some b =>
    rw [Option.some_or]
    obtain heq | ⟨-, first, features, hfirst, hkey, hanswer⟩ := h.part
    · contradiction
    have hpart := h.fetched first features hfirst hkey hanswer
    refine ⟨.inr ⟨rfl, first, features, List.mem_append_left _ hfirst, hkey, hanswer⟩,
      fun other features' hwaits hother hanswer' ↦ ?_⟩
    rcases List.mem_append.mp hwaits with hmem | hmem
    · exact h.fetched other features' hmem hother hanswer'
    · cases List.mem_singleton.mp hmem
      rw [hkeyed first hfirst hkey, hanswer] at hanswer'
      cases hanswer'
      exact hpart

/-- Awaited commands evaluate what a job that begins to wait will get. -/
theorem Caught.answer_eq {waiting : List Waiting} {s s' : Session} {job : Job}
    {answer : Except Fault (List Feature)}
    (h : Caught fetcher waiting job.key none (s.store.part? job.key))
    (hkeyed : ∀ other, .evaluate other ∈ waiting → other.key = job.key →
      fetcher job.data none = fetcher other.data none)
    (hawaited : Awaited layers fetcher s job answer s') : answer = fetcher job.data none := by
  cases hpart : s.store.part? job.key with
  | none => exact hawaited.fetched hpart
  | some b =>
    rw [hpart] at h
    obtain heq | ⟨-, first, features, hfirst, hkey, hanswer⟩ := h.part
    · contradiction
    have hb := Option.some.inj (h.fetched first features hfirst hkey hanswer)
    calc
      answer = .ok b.all := hawaited.held b hpart
      _ = .ok features := by rw [hb, Buckets.all_singleton]
      _ = fetcher first.data none := hanswer.symm
      _ = fetcher job.data none := (hkeyed first hfirst hkey).symm

section Issue

variable {f : Flight} {s : Session} {command : Command} (h : Matches layers fetcher shown f s)
  (hcommand : command.Among layers)

include h hcommand

/-- A command without a job. -/
theorem Matches.issue_idle (hjob : (f.session.state.dispatch command).2.job? = none) :
    Matches layers fetcher shown (f.issue command) (Session.run fetcher s command).2 := by
  have hregular := h.regular.issue hcommand
  obtain ⟨hagree, heffect⟩ := h.agree.dispatch command
  rw [issue_of_none hcommand.noRequest hjob] at hregular ⊢
  rw [s.run_of_none fetcher hcommand.noRequest (heffect ▸ hjob)]
  refine ⟨hregular, hagree, h.sound, h.sound_awaited, ?_, ?_, h.caught⟩
  · intro job hcurrent hshown hwaits
    dsimp only at hcurrent ⊢
    rcases h.agree.dispatch_of_none hjob with ⟨-, hnone⟩ | ⟨overrides, hstate, hstate'⟩
    · rw [hnone] at hcurrent
      contradiction
    · rw [hstate] at hcurrent
      rw [hstate, hstate', ComputeState.complete_overrides,
        h.pending job hcurrent hshown hwaits]
  · intro hcurrent
    dsimp only at hcurrent ⊢
    rcases h.agree.dispatch_of_none hjob with ⟨hsame, -⟩ | ⟨overrides, hstate, hstate'⟩
    · exact hsame
    · rw [hstate] at hcurrent
      rw [hstate, hstate', h.settled hcurrent]

variable {job : Job} (hjob : (f.session.state.dispatch command).2.job? = some job)
  (hcaught : ∀ key, shown key → Caught fetcher f.waiting key
    ((f.session.changed command).store.part? key) ((s.changed command).store.part? key))
  (hdata : job.data.isEmbedded = false) {answer : Except Fault (List Feature)}
  (hawaited : Awaited layers fetcher (s.changed command) job answer
    (Session.run fetcher s command).2)

include hjob hcaught hdata hawaited

/-- A command whose job is finished at once. -/
theorem Matches.issue_finished (hapart : Apart layers) (hlayer : job.layer ∈ layers) {b : Buckets}
    (hpart : (f.session.changed command).store.part? job.key = some b) :
    Matches layers fetcher shown (f.issue command) (Session.run fetcher s command).2 := by
  have hregular := h.regular.issue hcommand
  have hagree := (h.agree.dispatch command).1
  obtain ⟨hcurrent, hnext⟩ := ComputeState.dispatch_of_some hjob
  obtain ⟨hstate, hsound⟩ := finishJob_eq hapart (s := f.session.changed command) h.sound hlayer
    (.ok b.all)
  have hgeneration := (ComputeState.job?_eq_some_iff.mp hcurrent).2
  have hagree' := (f.session.changed command).agree_finishJob job (.ok b.all)
  rw [issue_of_part hdata hjob hpart] at hregular ⊢
  have hpart' (hshown : shown job.key) : (s.changed command).store.part? job.key = some b := by
    rcases (hcaught job.key hshown).part with heq | ⟨hnone, -⟩
    · rw [← heq, hpart]
    · rw [hnone] at hpart
      contradiction
  refine ⟨hregular, ?_, hsound, hawaited.sound, ?_, ?_, ?_⟩
  · refine hagree'.trans (hagree.trans ?_)
    rw [hawaited.state]
    exact (ComputeState.agree_complete _ _ _).symm
  · intro other hother hshown hwaits
    rw [hagree'.job?_eq] at hother
    cases hcurrent.symm.trans hother
    have hbound := h.regular.bounded job hwaits
    omega
  · intro hshown
    have hanswer := hawaited.held b (hpart' (hshown job (hagree'.job?_eq.trans hcurrent)).1)
    rw [hawaited.state, hanswer]
    exact hstate.trans (hagree.complete_eq hgeneration _)
  · intro key hshown
    have hold := hcaught key hshown
    by_cases hkey : key = job.key
    · subst hkey
      rw [hawaited.part, hpart' hshown, Option.some_or]
      rw [hpart' hshown] at hold
      exact hold
    · rw [hawaited.part_of_ne key hkey]
      exact hold

/-- A command whose job waits. -/
theorem Matches.issue_waiting
    (hkeyed : ∀ other, .evaluate other ∈ f.waiting → other.key = job.key →
      fetcher job.data none = fetcher other.data none)
    (hpart : (f.session.changed command).store.part? job.key = none) :
    Matches layers fetcher shown (f.issue command) (Session.run fetcher s command).2 := by
  have hregular := h.regular.issue hcommand
  have hagree := (h.agree.dispatch command).1
  obtain ⟨hcurrent, hnext⟩ := ComputeState.dispatch_of_some hjob
  have hgeneration := (ComputeState.job?_eq_some_iff.mp hcurrent).2
  rw [issue_of_fetch hdata hjob hpart] at hregular ⊢
  refine ⟨hregular, ?_, h.sound, hawaited.sound, ?_, ?_, ?_⟩
  · rw [hawaited.state]
    exact hagree.trans (ComputeState.agree_complete _ _ _).symm
  · intro other hother hshown _
    cases hcurrent.symm.trans hother
    have hold := hcaught job.key hshown
    rw [hpart] at hold
    rw [hawaited.state, hold.answer_eq hkeyed hawaited]
    exact (hagree.complete_eq hgeneration _).symm
  · intro hshown
    have hwaits := (hshown job hcurrent).2
    simp at hwaits
  · intro key hshown
    have hold := hcaught key hshown
    by_cases hkey : key = job.key
    · subst hkey
      rw [hpart] at hold
      dsimp only
      rw [hawaited.part, hpart]
      exact hold.wait hkeyed
    · rw [hawaited.part_of_ne key hkey]
      exact hold.wait_other hkey

end Issue

/-- A command that disturbs nothing. -/
theorem Matches.issue (hapart : Apart layers) (hkeyed : Keyed fetcher layers)
    (hembedded : NotEmbedded layers) {f : Flight}
    {s : Session} (h : Matches layers fetcher shown f s) {command : Command}
    (hcommand : command.Among layers) (hcalm : f.Calm fetcher shown (.issue command)) :
    Matches layers fetcher shown (f.issue command) (Session.run fetcher s command).2 := by
  cases hjob : (f.session.state.dispatch command).2.job? with
  | none => exact h.issue_idle hcommand hjob
  | some job =>
    obtain ⟨hlayer, hlayerData⟩ := h.regular.job_mem hcommand hjob
    have hdata := h.regular.job_notEmbedded hembedded hcommand hjob
    obtain ⟨answer, hawaited⟩ := awaited_run fetcher hapart h.sound_awaited hlayer
      hdata ((h.agree.dispatch command).2 ▸ hjob)
    have hcaught (key : StoreKey) (hshown : shown key) := h.caught_changed hcalm hjob hshown
    cases hpart : (f.session.changed command).store.part? job.key with
    | some b => exact h.issue_finished hcommand hjob hcaught hdata hawaited hapart hlayer hpart
    | none =>
      apply h.issue_waiting hcommand hjob hcaught hdata hawaited _ hpart
      intro other hwaits hkey
      obtain ⟨other', heq, hmem, hmemData⟩ := h.regular.waiting _ hwaits
      cases heq
      exact hkeyed _ hlayer _ hmem _ _ hlayerData hmemData hkey.symm

/-! ## Schedules -/

/-- A flight without disturbance stays beside the session in which each command is awaited. -/
theorem Matches.run (hapart : Apart layers) (hkeyed : Keyed fetcher layers)
    (hembedded : NotEmbedded layers)
    {schedule : List Event} (hamong : Among layers schedule) {f : Flight} {s : Session}
    (h : Matches layers fetcher shown f s) (hcalm : Undisturbed fetcher shown f schedule) :
    Matches layers fetcher shown (f.run fetcher schedule)
      (s.runAll fetcher (commandsOf schedule)) := by
  induction schedule generalizing f s with
  | nil => exact h
  | cons e rest ih =>
    cases e with
    | issue command =>
      have hcommand := hamong.head command rfl
      exact ih hamong.tail (h.issue hapart hkeyed hembedded hcommand hcalm.1) hcalm.2
    | answer place => exact ih hamong.tail (h.answer hapart place) hcalm.2

/-- Where nothing waits any more, the view is that of awaited commands. -/
theorem Matches.view?_eq {f : Flight} {s : Session}
    (h : Matches layers fetcher (fun key ↦ f.session.key? = some key) f s)
    (hrest : f.waiting = []) : f.session.view? = s.view? := by
  have hshown {job : Job} (hjob : f.session.state.job? = some job) :
      f.session.key? = some job.key := by
    rw [Session.key?, hjob]
    rfl
  have hstate : f.session.state = s.state := by
    refine h.settled fun job hjob ↦ ⟨hshown hjob, ?_⟩
    rw [hrest]
    exact List.not_mem_nil
  rw [Session.view?, Session.view?, ← hstate]
  cases hpair : f.session.state.fetchable? with
  | none => rfl
  | some pair =>
    have hjob : f.session.state.job? = some ⟨f.session.state.generation, pair.1, pair.2⟩ := by
      rw [ComputeState.job?, hpair]
      rfl
    have hpart : f.session.store.part? (Store.keyOf pair.1.id pair.2)
        = s.store.part? (Store.keyOf pair.1.id pair.2) := by
      rcases (h.caught _ (hshown hjob)).part with heq | ⟨-, job, features, hwaits, -⟩
      · exact heq
      · rw [hrest] at hwaits
        contradiction
    simp only [Option.bind_some, Store.getAll?, hpart]

end Flight

end MapStyle
