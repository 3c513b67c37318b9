import MapStyle.Proofs.Compute.Overlap

/-!
# The shape of a schedule

What waits in a flight, which layer is set and which parts of the store are there does not depend on
the features that are fetched, written and deleted, but only on the shape of the schedule and on
which fetches succeed. Whether a schedule disturbs a part is therefore a matter of its shape.
-/

namespace MapStyle

/-- A command without the features or identifiers that it carries. -/
def Command.shape : Command → Command
  | writeFeatures _ => .writeFeatures []
  | deleteFeatures _ => .deleteFeatures []
  | command => command

/-- An event without the features or identifiers that it carries. -/
def Event.shape : Event → Event
  | issue command => .issue command.shape
  | answer place => .answer place

namespace Command

@[simp] theorem shape_shape (command : Command) : command.shape.shape = command.shape := by
  cases command <;> rfl

theorem changesFeatures_of_shape {c c' : Command} (h : c.shape = c'.shape) :
    c.changesFeatures = c'.changesFeatures := by
  have hshape (command : Command) : command.shape.changesFeatures = command.changesFeatures := by
    cases command <;> rfl
  rw [← hshape c, h, hshape c']

theorem eq_of_shape {c c' : Command} (hc : c.changesFeatures = false) (h : c.shape = c'.shape) :
    c = c' := by
  cases c with
  | writeFeatures features => cases hc
  | deleteFeatures ids => cases hc
  | setLayer layer => cases c' <;> first | exact h | cases h
  | requestFetch range => cases c' <;> first | exact h | cases h
  | override owner value => cases c' <;> first | exact h | cases h

/-- Commands of one shape set the same layer. -/
theorem Among.of_shape {layers : List SimpleLayer} {c c' : Command} (h : c.Among layers)
    (hshape : c.shape = c'.shape) : c'.Among layers where
  layer := by
    intro pair hpair
    have hfetchable (command : Command) : command.shape.fetchable? = command.fetchable? := by
      cases command <;> rfl
    rw [← hfetchable c', ← hshape, hfetchable c] at hpair
    exact h.layer pair hpair
  noRequest := by
    rintro range rfl
    cases c with
    | requestFetch range' => exact h.noRequest range' rfl
    | _ => cases hshape

end Command

@[simp] theorem Event.shape_shape (e : Event) : e.shape.shape = e.shape := by
  cases e with
  | issue command => exact congrArg Event.issue command.shape_shape
  | answer place => rfl

theorem Event.map_shape_map_shape (schedule : List Event) :
    (schedule.map Event.shape).map Event.shape = schedule.map Event.shape := by
  rw [List.map_map]
  exact List.map_congr_left fun e _ ↦ e.shape_shape

/-- Commands of one shape change states that agree to states that agree, lead to the same job, and
leave the same parts of the store. -/
theorem ComputeState.Agree.dispatch_shape {s t : ComputeState} (h : Agree s t) {c c' : Command}
    (hshape : c.shape = c'.shape) :
    Agree (s.dispatch c).1 (t.dispatch c').1 ∧
      (s.dispatch c).2.job? = (t.dispatch c').2.job? ∧
      ∀ b b' : Option Buckets, b.isSome = b'.isSome →
        ((s.dispatch c).2.changePart b).isSome = ((t.dispatch c').2.changePart b').isSome := by
  cases hcommand : c.changesFeatures with
  | false =>
    obtain rfl := Command.eq_of_shape hcommand hshape
    obtain ⟨hagree, heffect⟩ := h.dispatch c
    refine ⟨hagree, congrArg _ heffect, fun b b' hb ↦ ?_⟩
    rw [Flight.changePart_dispatch hcommand, Flight.changePart_dispatch hcommand, hb]
  | true =>
    have hfetchable := h.fetchable?_eq
    have hnext : s.generation + 1 = t.generation + 1 := congrArg (· + 1) h.generation
    cases c with
    | writeFeatures features =>
      cases c' with
      | writeFeatures features' =>
        cases hcurrent : t.fetchable? with
        | none =>
          simp only [ComputeState.dispatch, changeFeatures, hfetchable, hcurrent]
          exact ⟨h, trivial, fun _ _ hb ↦ hb⟩
        | some pair =>
          simp only [ComputeState.dispatch, changeFeatures, hfetchable, hcurrent, hnext]
          exact ⟨⟨h.layer, h.overrides, rfl⟩, rfl, fun _ _ _ ↦ rfl⟩
      | _ => cases hshape
    | deleteFeatures ids =>
      cases c' with
      | deleteFeatures ids' =>
        cases hcurrent : t.fetchable? with
        | none =>
          simp only [ComputeState.dispatch, changeFeatures, hfetchable, hcurrent]
          exact ⟨h, trivial, fun _ _ hb ↦ hb⟩
        | some pair =>
          simp only [ComputeState.dispatch, changeFeatures, hfetchable, hcurrent, hnext]
          refine ⟨⟨h.layer, h.overrides, rfl⟩, rfl, fun b b' hb ↦ ?_⟩
          simpa only [Effect.changePart, Option.isSome_map] using hb
      | _ => cases hshape
    | _ => cases hcommand

namespace Flight

variable {layers : List SimpleLayer} {fetcher fetcher' : Fetcher Id} {shown : StoreKey → Prop}
  {f f' : Flight}

/-- Schedules of one shape set the same layers. -/
theorem among_of_shape {schedule schedule' : List Event} (h : Among layers schedule)
    (hshape : schedule.map Event.shape = schedule'.map Event.shape) : Among layers schedule' := by
  intro e' he' c' hc'
  have hmem : e'.shape ∈ schedule.map Event.shape := hshape ▸ List.mem_map_of_mem he'
  obtain ⟨e, he, heq⟩ := List.mem_map.mp hmem
  cases e' with
  | answer place => cases hc'
  | issue command' =>
    cases hc'
    cases e with
    | answer place => cases heq
    | issue command => exact (h _ he command rfl).of_shape (Event.issue.inj heq)

/-- Two flights differ at most in features and in what is made of them. -/
structure Alike (f f' : Flight) : Prop where
  waiting : f.waiting = f'.waiting
  agree : f.session.state.Agree f'.session.state
  parts : ∀ key, (f.session.store.part? key).isSome = (f'.session.store.part? key).isSome

theorem Alike.refl (f : Flight) : Alike f f := ⟨rfl, ⟨rfl, rfl, rfl⟩, fun _ ↦ rfl⟩

theorem Alike.key?_eq (h : Alike f f') : f.session.key? = f'.session.key? := by
  rw [Session.key?, Session.key?, h.agree.job?_eq]

/-- What jobs come to does not count. -/
theorem Agree.finishJob {s t : Session} (h : s.state.Agree t.state) (job : Job)
    (answer answer' : Except Fault (List Feature)) :
    (s.finishJob job answer).state.Agree (t.finishJob job answer').state :=
  (s.agree_finishJob job answer).trans (h.trans (t.agree_finishJob job answer').symm)

/-- Whether there is a part after an answer depends on whether there was one before and on whether
the fetch succeeds. -/
theorem isSome_receivePart {data data' : DataSource}
    (h : Succeeds fetcher data ↔ Succeeds fetcher' data') {b b' : Option Buckets}
    (hb : b.isSome = b'.isSome) :
    (Session.receivePart (fetcher data none) b).isSome
      = (Session.receivePart (fetcher' data' none) b').isSome := by
  cases hanswer : fetcher data none with
  | ok features =>
    obtain ⟨features', hanswer'⟩ := h.mp ⟨features, hanswer⟩
    rw [hanswer']
    rfl
  | error fault =>
    cases hanswer' : fetcher' data' none with
    | ok features' =>
      obtain ⟨features, hok⟩ := h.mpr ⟨features', hanswer'⟩
      rw [hanswer] at hok
      cases hok
    | error fault' => exact hb

/-- The parts of the store after the job of a command is started. -/
theorem Alike.part?_changed (h : Alike f f') {c c' : Command} (hshape : c.shape = c'.shape)
    {job : Job} (hjob : (f.session.state.dispatch c).2.job? = some job) (key : StoreKey) :
    ((f.session.changed c).store.part? key).isSome
      = ((f'.session.changed c').store.part? key).isSome := by
  obtain ⟨-, hsame, hparts⟩ := h.agree.dispatch_shape hshape
  rw [f.session.part?_changed hjob, f'.session.part?_changed (hsame ▸ hjob)]
  by_cases hkey : key = job.key
  · rw [if_pos hkey, if_pos hkey]
    exact hparts _ _ (h.parts key)
  · rw [if_neg hkey, if_neg hkey]
    exact h.parts key

/-- Commands of one shape keep flights alike. -/
theorem Alike.issue (h : Alike f f') (hf : f.Regular layers)
    (hembedded : NotEmbedded layers) {c c' : Command}
    (hcommand : c.Among layers) (hshape : c.shape = c'.shape) :
    Alike (f.issue c) (f'.issue c') := by
  have hcommand' := hcommand.of_shape hshape
  obtain ⟨hagree, hsame, -⟩ := h.agree.dispatch_shape hshape
  cases hjob : (f.session.state.dispatch c).2.job? with
  | none =>
    rw [issue_of_none hcommand.noRequest hjob,
      issue_of_none hcommand'.noRequest (hsame ▸ hjob)]
    exact ⟨h.waiting, hagree, h.parts⟩
  | some job =>
    have hdata := hf.job_notEmbedded hembedded hcommand hjob
    have hjob' : (f'.session.state.dispatch c').2.job? = some job := hsame ▸ hjob
    have hparts := h.part?_changed hshape hjob
    cases hpart : (f.session.changed c).store.part? job.key with
    | some b =>
      have hsome := hparts job.key
      rw [hpart] at hsome
      obtain ⟨b', hpart'⟩ := Option.isSome_iff_exists.mp hsome.symm
      rw [issue_of_part hdata hjob hpart, issue_of_part hdata hjob' hpart']
      have hagree' : (f.session.changed c).state.Agree (f'.session.changed c').state := hagree
      exact ⟨h.waiting, Agree.finishJob hagree' job _ _, hparts⟩
    | none =>
      have hnone := hparts job.key
      rw [hpart] at hnone
      have hpart' : (f'.session.changed c').store.part? job.key = none :=
        Option.isSome_eq_false_iff.mp hnone.symm |> Option.isNone_iff_eq_none.mp
      rw [issue_of_fetch hdata hjob hpart, issue_of_fetch hdata hjob' hpart']
      exact ⟨by rw [h.waiting], hagree, hparts⟩

/-- Answers to fetches in the same place keep flights alike, if the same fetches succeed. -/
theorem Alike.answer (h : Alike f f') (hf : f.Regular layers)
    (hsucceeds : ∀ data, Succeeds fetcher data ↔ Succeeds fetcher' data) (place : Nat) :
    Alike (f.answer fetcher place) (f'.answer fetcher' place) := by
  cases hplace : f.waiting[place]? with
  | none =>
    have hplace' : f'.waiting[place]? = none := h.waiting ▸ hplace
    rw [Flight.answer, hplace, Flight.answer, hplace']
    exact h
  | some w =>
    have hplace' : f'.waiting[place]? = some w := h.waiting ▸ hplace
    obtain ⟨job, rfl, -⟩ := hf.waiting w (List.mem_of_getElem? hplace)
    rw [Flight.answer, hplace, Flight.answer, hplace']
    refine ⟨by rw [h.waiting], ?_, fun key ↦ ?_⟩
    · have hagree : (f.session.received job (fetcher job.data none)).state.Agree
          (f'.session.received job (fetcher' job.data none)).state := h.agree
      exact Agree.finishJob hagree job _ _
    · dsimp only
      rw [Session.resume_evaluate, Session.resume_evaluate, Session.finishJob_store,
        Session.finishJob_store, Session.part?_received, Session.part?_received]
      by_cases hkey : key = job.key
      · rw [if_pos hkey, if_pos hkey]
        exact isSome_receivePart (hsucceeds job.data) (h.parts key)
      · rw [if_neg hkey, if_neg hkey]
        exact h.parts key

/-- Events of one shape keep flights alike. -/
theorem Alike.step (h : Alike f f') (hf : f.Regular layers)
    (hembedded : NotEmbedded layers)
    (hsucceeds : ∀ data, Succeeds fetcher data ↔ Succeeds fetcher' data) {e e' : Event}
    (hamong : ∀ command, e.command? = some command → command.Among layers)
    (hshape : e.shape = e'.shape) : Alike (f.step fetcher e) (f'.step fetcher' e') := by
  cases e with
  | issue c =>
    cases e' with
    | issue c' => exact h.issue hf hembedded (hamong c rfl) (Event.issue.inj hshape)
    | answer place' => cases hshape
  | answer place =>
    cases e' with
    | issue c' => cases hshape
    | answer place' =>
      cases Event.answer.inj hshape
      exact h.answer hf hsucceeds place

/-- Of two alike flights, one is disturbed by an event as the other one is. -/
theorem Alike.calm (h : Alike f f')
    (hsucceeds : ∀ data, Succeeds fetcher data ↔ Succeeds fetcher' data) {e e' : Event}
    (hshape : e.shape = e'.shape) (hcalm : f.Calm fetcher shown e) :
    f'.Calm fetcher' shown e' := by
  cases e' with
  | answer place => trivial
  | issue c' =>
    cases e with
    | answer place => cases hshape
    | issue c =>
      intro hcommand job hwaits hkey hshown hanswer
      refine hcalm ?_ job (h.waiting ▸ hwaits) (h.key?_eq.trans hkey) hshown
        ((hsucceeds job.data).mpr hanswer)
      rw [Command.changesFeatures_of_shape (Event.issue.inj hshape)]
      exact hcommand

section Schedule

variable (hembedded : NotEmbedded layers)
  (hsucceeds : ∀ data, Succeeds fetcher data ↔ Succeeds fetcher' data)

include hembedded hsucceeds

/-- Schedules of one shape lead to alike flights. -/
theorem Alike.run (h : Alike f f') (hf : f.Regular layers) {schedule schedule' : List Event}
    (hamong : Among layers schedule)
    (hshape : schedule.map Event.shape = schedule'.map Event.shape) :
    Alike (f.run fetcher schedule) (f'.run fetcher' schedule') := by
  induction schedule generalizing f f' schedule' with
  | nil =>
    obtain rfl := List.map_eq_nil_iff.mp hshape.symm
    exact h
  | cons e rest ih =>
    obtain ⟨e', rest', rfl, hhead, htail⟩ := List.map_eq_cons_iff.mp hshape.symm
    exact ih (h.step hf hembedded hsucceeds hamong.head hhead.symm) (hf.step fetcher hamong.head)
      hamong.tail htail.symm

/-- Whether a schedule disturbs a part is a matter of its shape. -/
theorem Undisturbed.of_shape (h : Alike f f') (hf : f.Regular layers)
    {schedule schedule' : List Event} (hamong : Among layers schedule)
    (hshape : schedule.map Event.shape = schedule'.map Event.shape)
    (hcalm : Undisturbed fetcher shown f schedule) : Undisturbed fetcher' shown f' schedule' := by
  induction schedule generalizing f f' schedule' with
  | nil =>
    obtain rfl := List.map_eq_nil_iff.mp hshape.symm
    trivial
  | cons e rest ih =>
    obtain ⟨e', rest', rfl, hhead, htail⟩ := List.map_eq_cons_iff.mp hshape.symm
    refine ⟨h.calm hsucceeds hhead.symm hcalm.1, ?_⟩
    exact ih (h.step hf hembedded hsucceeds hamong.head hhead.symm) (hf.step fetcher hamong.head)
      hamong.tail htail.symm hcalm.2

end Schedule

end Flight

end MapStyle
