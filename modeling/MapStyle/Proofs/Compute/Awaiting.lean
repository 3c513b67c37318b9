import MapStyle.Proofs.Compute.Disturbance

/-!
# Schedules that come to the awaited view

The view that a schedule comes to is that of awaited commands, whatever features are fetched,
written and deleted, exactly if the schedule changes no features of the layer that is shown in the
end while a fetch for them is under way that will succeed. A single feature that is written, or
deleted, at such a moment is enough to tell the two views apart.
-/

namespace MapStyle.Flight

variable {layers : List SimpleLayer} {fetcher : Fetcher Id} {features : List Feature}

/-! ## Disturbed schedules -/

def withAnswer (fetcher : Fetcher Id) (features : List Feature) : Fetcher Id :=
  fun data range ↦ Except.map (fun _ ↦ features) (fetcher data range)

theorem succeeds_withAnswer (fetcher : Fetcher Id) (features : List Feature) (data : DataSource) :
    Succeeds (withAnswer fetcher features) data ↔ Succeeds fetcher data := by
  unfold Succeeds withAnswer
  cases fetcher data none with
  | error fault => simp [Except.map]
  | ok answer => simp [Except.map]

theorem answers_withAnswer : Answers (withAnswer fetcher features) features := by
  intro data answer hanswer
  unfold withAnswer at hanswer
  cases hfetch : fetcher data none with
  | error fault =>
    rw [hfetch] at hanswer
    cases hanswer
  | ok given =>
    rw [hfetch] at hanswer
    cases hanswer
    rfl

theorem Keyed.withAnswer (h : Keyed fetcher layers) :
    Keyed (Flight.withAnswer fetcher features) layers := by
  intro l hl l' hl' d d' hd hd' hkey
  unfold Flight.withAnswer
  rw [h l hl l' hl' d d' hd hd' hkey]

theorem commandsOf_append_cons (before after : List Event) (command : Command) :
    commandsOf (before ++ .issue command :: after)
      = commandsOf before ++ command :: commandsOf after := by
  simp [commandsOf, Event.command?]

theorem run_append_cons (f : Flight) (before after : List Event) (command : Command) :
    f.run fetcher (before ++ .issue command :: after)
      = ((f.run fetcher before).issue command).run fetcher after := by
  rw [run, List.foldl_append]
  rfl

theorem runAll_append_cons (s : Session) (before after : List Command) (command : Command) :
    s.runAll fetcher (before ++ command :: after)
      = (Session.run fetcher (s.runAll fetcher before) command).2.runAll fetcher after := by
  rw [Session.runAll, List.foldl_append]
  rfl

theorem shape_of_mem_commandsOf {schedule : List Event} (h : ∀ e ∈ schedule, e.shape = e)
    {command : Command} (hcommand : command ∈ commandsOf schedule) : command.shape = command := by
  obtain ⟨e, he, heq⟩ := List.mem_filterMap.mp hcommand
  cases e with
  | answer place => cases heq
  | issue command' =>
    cases heq
    exact Event.issue.inj (h _ he)

theorem among_of_mem_commandsOf {schedule : List Event} (h : Among layers schedule)
    {command : Command} (hcommand : command ∈ commandsOf schedule) : command.Among layers := by
  obtain ⟨e, he, heq⟩ := List.mem_filterMap.mp hcommand
  exact h e he command heq

/-- Awaited commands without contents keep what quiet changes keep. -/
theorem kept_runAll {P : Option Buckets → Prop} (hanswers : Answers fetcher features)
    {config : Config} {commands : List Command}
    (hamong : ∀ command ∈ commands, command.Among layers)
    (hshape : ∀ command ∈ commands, command.shape = command) (key : StoreKey)
    (hP : ∀ part part', Quiet features part part' → P part → P part') (hnone : P none) :
    P (((start config).session.runAll fetcher commands).store.part? key) := by
  have hquiet : ∀ e ∈ inTurn commands, e.shape = e := by
    intro e he
    obtain ⟨command, hcommand, he⟩ := List.mem_flatMap.mp he
    rcases List.mem_cons.mp he with rfl | he
    · exact congrArg Event.issue (hshape command hcommand)
    · rw [List.mem_singleton.mp he]
      rfl
  have hkept := kept (P := P) hanswers (among_inTurn hamong) hquiet key hP
    (f := start config) (regular_start config) hnone
  have hrun := run_inTurn fetcher (start config).session commands
  rw [show start config = { session := (start config).session } from rfl, hrun] at hkept
  exact hkept

/-- A schedule that is disturbed has a command that disturbs it. -/
theorem exists_disturbance {shown : StoreKey → Prop} {f : Flight} {schedule : List Event}
    (h : ¬Undisturbed fetcher shown f schedule) :
    ∃ before command after job, schedule = before ++ .issue command :: after ∧
      command.changesFeatures = true ∧ .evaluate job ∈ (f.run fetcher before).waiting ∧
      (f.run fetcher before).session.key? = some job.key ∧ shown job.key ∧
      Succeeds fetcher job.data := by
  induction schedule generalizing f with
  | nil => exact absurd trivial h
  | cons e rest ih =>
    by_cases hcalm : f.Calm fetcher shown e
    · obtain ⟨before, command, after, job, rfl, hjob⟩ := ih fun hrest ↦ h ⟨hcalm, hrest⟩
      exact ⟨e :: before, command, after, job, rfl, hjob⟩
    · cases e with
      | answer place => exact absurd trivial hcalm
      | issue command =>
        simp only [Calm, not_forall, not_not] at hcalm
        obtain ⟨hchanges, job, hwaits, hkey, hshown, hsucceeds⟩ := hcalm
        exact ⟨[], command, rest, job, rfl, hchanges, hwaits, hkey, hshown, hsucceeds⟩

/-- A command changes features of the layer that is shown in the end while a fetch for them is
under way that succeeds. No other event has contents, and all fetches are answered alike. -/
structure Disturbs (layers : List SimpleLayer) (fetcher : Fetcher Id) (features : List Feature)
    (config : Config) (before : List Event) (command : Command) (after : List Event) (job : Job) :
    Prop where
  embedded : NotEmbedded layers
  keyed : Keyed fetcher layers
  answers : Answers fetcher features
  among : Among layers (before ++ .issue command :: after)
  quiet_before : ∀ e ∈ before, e.shape = e
  quiet_after : ∀ e ∈ after, e.shape = e
  changes : command.changesFeatures = true
  waits : .evaluate job ∈ ((start config).run fetcher before).waiting
  current : ((start config).run fetcher before).session.key? = some job.key
  succeeds : Succeeds fetcher job.data
  shown : ((start config).run fetcher (before ++ .issue command :: after)).session.key?
    = some job.key
  rest : ((start config).run fetcher (before ++ .issue command :: after)).waiting = []

namespace Disturbs

variable {config : Config} {before after : List Event} {command : Command} {job : Job}
  (h : Disturbs layers fetcher features config before command after job)

include h

theorem among_before : Among layers before :=
  fun e he ↦ h.among e (List.mem_append_left _ he)

theorem among_command : command.Among layers :=
  h.among _ (List.mem_append_right _ List.mem_cons_self) command rfl

theorem among_after : Among layers after :=
  fun e he ↦ h.among e (List.mem_append_right _ (List.mem_cons_of_mem _ he))

theorem regular_before : ((start config).run fetcher before).Regular layers :=
  (regular_start config).run fetcher h.among_before

/-- Every job for the part gets features. -/
theorem succeeds_of_key {other : Job} (hlayer : other.layer ∈ layers)
    (hdata : other.layer.data = some other.data) (hkey : other.key = job.key) :
    Succeeds fetcher other.data := by
  obtain ⟨job', heq, hmem, hmemData⟩ := h.regular_before.waiting _ h.waits
  cases heq
  obtain ⟨answer, hanswer⟩ := h.succeeds
  exact ⟨answer, (h.keyed _ hlayer _ hmem _ _ hdata hmemData hkey).trans hanswer⟩

/-- Equal views show equal features of the part. -/
theorem kept_eq
    (hview : ((start config).run fetcher (before ++ .issue command :: after)).session.view?
      = ((start config).session.runAll fetcher
          (commandsOf (before ++ .issue command :: after))).view?) :
    (((((start config).run fetcher (before ++ .issue command :: after)).session.store.part?
        job.key).map Buckets.all).getD [])
      = ((((start config).session.runAll fetcher
          (commandsOf (before ++ .issue command :: after))).store.part? job.key).map
            Buckets.all).getD [] := by
  have hstart : (start config).Regular layers := regular_start config
  have hregular := hstart.run fetcher h.among
  have hserved : ((start config).run fetcher (before ++ .issue command :: after)).Served fetcher :=
    (served_start config).run hstart h.embedded h.among
  obtain ⟨-, hserved'⟩ := awaited_start fetcher config h.embedded h.among
  have hagree := agree_runAll fetcher (f := start config) h.among
    (s := (start config).session) ⟨rfl, rfl, rfl⟩
  obtain ⟨last, hlast, hkey⟩ := Option.map_eq_some_iff.mp h.shown
  have hsucceeds := h.succeeds_of_key
    (hregular.current _ (ComputeState.job?_eq_some_iff.mp hlast).1)
    (ComputeState.data_of_job? hlast) hkey
  have hheld := congrArg (Option.map LayerView.held) hview
  have hlast' := hagree.job?_eq.symm.trans hlast
  rw [Session.held_view? hlast (hserved last hlast hsucceeds).1,
    Session.held_view? hlast' (hserved' last hlast' hsucceeds).1, hkey] at hheld
  exact Option.some.inj hheld

/-- Awaited commands keep what the disturbing command makes of the part. -/
theorem awaited_part {P : Option Buckets → Prop} (change : Buckets → Buckets) (hnone : P none)
    (hP : ∀ part part', Quiet features part part' → P part → P part')
    (hchange : ∀ state : ComputeState, state.fetchable?.isSome → ∀ b,
      (state.dispatch command).2.changePart (some b) = some (change b)) :
    ∃ b, P (some b) ∧ ((start config).session.runAll fetcher
      (commandsOf (before ++ .issue command :: after))).store.part? job.key = some (change b) := by
  obtain ⟨hs, hserved⟩ := awaited_start fetcher config h.embedded h.among_before
  have hagree := agree_runAll fetcher (f := start config) h.among_before
    (s := (start config).session) ⟨rfl, rfl, rfl⟩
  obtain ⟨last, hlast, hkey⟩ := Option.map_eq_some_iff.mp h.current
  have hlast' := hagree.job?_eq.symm.trans hlast
  have hfetchable := (ComputeState.job?_eq_some_iff.mp hlast').1
  have hsucceeds := h.succeeds_of_key
    (h.regular_before.current _ (ComputeState.job?_eq_some_iff.mp hlast).1)
    (ComputeState.data_of_job? hlast) hkey
  rcases (hserved last hlast' hsucceeds).2 with hsome | hwaits
  case inr => contradiction
  obtain ⟨b, hb⟩ := Option.isSome_iff_exists.mp hsome
  rw [hkey] at hb
  refine ⟨b, ?_, ?_⟩
  · rw [← hb]
    exact kept_runAll h.answers
      (fun _ hcommand ↦ among_of_mem_commandsOf h.among_before hcommand)
      (fun _ hcommand ↦ shape_of_mem_commandsOf h.quiet_before hcommand) job.key hP hnone
  · rw [commandsOf_append_cons, runAll_append_cons]
    apply part?_runAll h.embedded (regular_run hs h.among_command)
      (fun _ hcommand ↦ among_of_mem_commandsOf h.among_after hcommand)
      (fun _ hcommand ↦ shape_of_mem_commandsOf h.quiet_after hcommand)
    have hcurrent : ((start config).session.runAll fetcher (commandsOf before)).key?
        = some job.key := by
      rw [Session.key?, hlast', Option.map_some, hkey]
    exact part?_run_of_changesFeatures h.embedded hs h.among_command h.changes hcurrent hb
      (hchange _ (by rw [hfetchable]; rfl) b)

/-- The answer to the fetch under way leaves its mark on the part. -/
theorem landed_part {P Q : Option Buckets → Prop} (hnone : P none)
    (hP : ∀ part part', Quiet features part part' → P part → P part')
    (hQ : ∀ part part', Quiet features part part' → Q part → Q part')
    (hPQ : ∀ part, P part → Q (some ((part.getD []).replace (Range.key none) features)))
    (hchange : ∀ (state : ComputeState) part, P part →
      P ((state.dispatch command).2.changePart part)) :
    Q (((start config).run fetcher (before ++ .issue command :: after)).session.store.part?
      job.key) := by
  have hpart := kept (P := P) h.answers h.among_before h.quiet_before job.key hP
    (f := start config) (regular_start config) hnone
  have hissued : P ((((start config).run fetcher before).issue command).session.store.part?
      job.key) := by
    rcases part?_issue (f := (start config).run fetcher before) h.among_command.noRequest job.key
      with heq | heq
    · rw [heq]
      exact hpart
    · rw [heq]
      exact hchange _ _ hpart
  have hrest := h.rest
  rw [run_append_cons] at hrest ⊢
  exact landed h.answers h.among_after h.quiet_after hP hQ hPQ
    (h.regular_before.issue h.among_command) hissued rfl h.succeeds
    (.inl (List.mem_append_left _ h.waits)) hrest

end Disturbs

/-! ## What a part keeps -/

/-- A part has at most the bucket of features without a range. -/
def Plain (part : Option Buckets) : Prop :=
  ∀ b, part = some b → b = [] ∨ ∃ kept, b = [(Range.key none, kept)]

theorem Plain.replace {part : Option Buckets} (h : Plain part) (features : List Feature) :
    (part.getD []).replace (Range.key none) features = [(Range.key none, features)] := by
  cases part with
  | none => rfl
  | some b =>
    rcases h b rfl with rfl | ⟨kept, rfl⟩
    · rfl
    · simp [Buckets.replace, Buckets.update]

/-- A quiet event fills at most the bucket without a range. -/
theorem Plain.quiet {part part' : Option Buckets} (h : Plain part)
    (hquiet : Quiet features part part') : Plain part' := by
  cases hquiet with
  | same => exact h
  | empty =>
    rintro b ⟨⟩
    exact .inl rfl
  | fetch =>
    rw [h.replace]
    rintro b ⟨⟩
    exact .inr ⟨features, rfl⟩

/-- A feature without a range goes to the bucket without a range. -/
theorem Plain.write {part : Option Buckets} (h : Plain part) {f : Feature} (hf : f.range = none)
    (state : ComputeState) : Plain ((state.dispatch (.writeFeatures [f])).2.changePart part) := by
  simp only [ComputeState.dispatch, ComputeState.changeFeatures]
  cases state.fetchable? with
  | none => exact h
  | some pair =>
    rintro b ⟨⟩
    right
    cases part with
    | none => exact ⟨[f], by simp [Buckets.append, Buckets.update, hf]⟩
    | some b =>
      rcases h b rfl with rfl | ⟨kept, rfl⟩
      · exact ⟨[f], by simp [Buckets.append, Buckets.update, hf]⟩
      · exact ⟨kept ++ [f], by simp [Buckets.append, Buckets.update, hf]⟩

/-- A part has no features, and at most the bucket of features without a range. -/
structure Emptied (part : Option Buckets) : Prop where
  plain : Plain part
  nil : ∀ b, part = some b → b.all = []

theorem Plain.emptied {part : Option Buckets} (h : Plain part) :
    Emptied (some ((part.getD []).replace (Range.key none) [])) := by
  refine ⟨h.quiet (.fetch part), ?_⟩
  rw [h.replace]
  rintro b ⟨⟩
  rfl

/-- Answers without features leave an emptied part empty. -/
theorem Emptied.quiet {part part' : Option Buckets} (h : Emptied part)
    (hquiet : Quiet [] part part') : Emptied part' := by
  cases hquiet with
  | same => exact h
  | empty =>
    refine ⟨h.plain.quiet (Quiet.empty : Quiet [] none _), ?_⟩
    rintro b ⟨⟩
    rfl
  | fetch => exact h.plain.emptied

def Has (f : Feature) (part : Option Buckets) : Prop :=
  ∃ b, part = some b ∧ f ∈ b.all

theorem has_replace (f : Feature) (part : Option Buckets) :
    Has f (some ((part.getD []).replace (Range.key none) [f])) :=
  ⟨_, rfl, Buckets.mem_all_replace List.mem_cons_self⟩

theorem Has.quiet {f : Feature} {part part' : Option Buckets} (h : Has f part)
    (hquiet : Quiet [f] part part') : Has f part' := by
  cases hquiet with
  | same => exact h
  | empty =>
    obtain ⟨b, heq, -⟩ := h
    cases heq
  | fetch => exact has_replace f part

/-- A part has at most one feature. -/
def Only (f : Feature) (part : Option Buckets) : Prop :=
  ∀ b, part = some b → ∀ g ∈ b.all, g = f

/-- Answers with the one feature bring no other. -/
theorem Only.quiet {f : Feature} {part part' : Option Buckets} (h : Only f part)
    (hquiet : Quiet [f] part part') : Only f part' := by
  cases hquiet with
  | same => exact h
  | empty =>
    rintro b ⟨⟩ g hg
    contradiction
  | fetch =>
    rintro b ⟨⟩ g hg
    rcases Buckets.mem_of_mem_all_replace hg with hold | hnew
    · cases part with
      | none => contradiction
      | some b => exact h b rfl g hold
    · exact List.mem_singleton.mp hnew

theorem changePart_write (f : Feature) {state : ComputeState} (h : state.fetchable?.isSome)
    (b : Buckets) : (state.dispatch (.writeFeatures [f])).2.changePart (some b)
      = some (b.append f) := by
  obtain ⟨pair, hpair⟩ := Option.isSome_iff_exists.mp h
  simp only [ComputeState.dispatch, ComputeState.changeFeatures, hpair]
  rfl

theorem changePart_delete (ids : List String) {state : ComputeState} (h : state.fetchable?.isSome)
    (b : Buckets) : (state.dispatch (.deleteFeatures ids)).2.changePart (some b)
      = some (b.delete ids) := by
  obtain ⟨pair, hpair⟩ := Option.isSome_iff_exists.mp h
  simp only [ComputeState.dispatch, ComputeState.changeFeatures, hpair]
  rfl

/-! ## A lost feature -/

namespace Disturbs

variable {config : Config} {before after : List Event} {job : Job} {f : Feature}

/-- A feature that is written while its fetch is under way is lost. -/
theorem view?_ne_of_write (hf : f.range = none)
    (h : Disturbs layers fetcher [] config before (.writeFeatures [f]) after job) :
    ((start config).run fetcher (before ++ .issue (.writeFeatures [f]) :: after)).session.view?
      ≠ ((start config).session.runAll fetcher
          (commandsOf (before ++ .issue (.writeFeatures [f]) :: after))).view? := by
  intro hview
  have hlost : Emptied (((start config).run fetcher
      (before ++ .issue (.writeFeatures [f]) :: after)).session.store.part? job.key) := by
    apply h.landed_part (P := Plain) nofun
    · exact fun _ _ hquiet hplain ↦ hplain.quiet hquiet
    · exact fun _ _ hquiet hemptied ↦ hemptied.quiet hquiet
    · exact fun _ hplain ↦ hplain.emptied
    · exact fun state _ hplain ↦ hplain.write hf state
  obtain ⟨b, -, hawaited⟩ := h.awaited_part (P := fun _ ↦ True) (Buckets.append · f)
    trivial (fun _ _ _ _ ↦ trivial) fun _ hstate ↦ changePart_write f hstate
  have hkept := h.kept_eq hview
  have hnil : ((((start config).run fetcher
      (before ++ .issue (.writeFeatures [f]) :: after)).session.store.part? job.key).map
        Buckets.all).getD [] = [] := by
    cases hpart : ((start config).run fetcher
      (before ++ .issue (.writeFeatures [f]) :: after)).session.store.part? job.key with
    | none => rfl
    | some b => exact hlost.nil b hpart
  rw [hnil, hawaited] at hkept
  have hmem := b.mem_all_append f
  have hkept : [] = (b.append f).all := hkept
  rw [← hkept] at hmem
  contradiction

/-- A feature that is deleted while its fetch is under way comes back. -/
theorem view?_ne_of_delete
    (h : Disturbs layers fetcher [f] config before (.deleteFeatures [f.id]) after job) :
    ((start config).run fetcher (before ++ .issue (.deleteFeatures [f.id]) :: after)).session.view?
      ≠ ((start config).session.runAll fetcher
          (commandsOf (before ++ .issue (.deleteFeatures [f.id]) :: after))).view? := by
  intro hview
  have hhas : Has f (((start config).run fetcher
      (before ++ .issue (.deleteFeatures [f.id]) :: after)).session.store.part? job.key) := by
    apply h.landed_part (P := fun _ ↦ True) trivial
    · exact fun _ _ _ _ ↦ trivial
    · exact fun _ _ hquiet hhas ↦ hhas.quiet hquiet
    · exact fun part _ ↦ has_replace f part
    · exact fun _ _ _ ↦ trivial
  obtain ⟨b', hb', hmem⟩ := hhas
  obtain ⟨b, hb, hawaited⟩ := h.awaited_part (P := Only f) (Buckets.delete · [f.id]) nofun
    (fun _ _ hquiet honly ↦ honly.quiet hquiet) fun _ hstate ↦ changePart_delete [f.id] hstate
  have hkept := h.kept_eq hview
  have hnil : (b.delete [f.id]).all = [] :=
    Buckets.all_delete_eq_nil fun g hg ↦ by rw [hb b rfl g hg]; exact List.mem_cons_self
  rw [hb', hawaited] at hkept
  have hkept : b'.all = (b.delete [f.id]).all := hkept
  rw [hkept, hnil] at hmem
  contradiction

end Disturbs

/-! ## All features -/

/-- Without requests for ranges a schedule works on the layers that it sets. -/
theorem among_layersOf {schedule : List Event}
    (hrequest : ∀ range, .issue (.requestFetch range) ∉ schedule) :
    Among (layersOf schedule) schedule := by
  intro e he command hcommand
  refine ⟨fun pair hpair ↦ List.mem_filterMap.mpr ⟨e, he, ?_⟩, ?_⟩
  · rw [hcommand, Option.bind_some, hpair, Option.map_some]
  · rintro range rfl
    cases e with
    | answer place => cases hcommand
    | issue command =>
      cases hcommand
      exact hrequest range he

/-- A schedule that is not disturbed comes to the view of awaited commands. -/
theorem view?_of_undisturbed {schedule : List Event} {config : Config}
    (hamong : Among layers schedule) (hembedded : NotEmbedded layers)
    (hkeyed : Keyed fetcher layers) (hapart : Apart layers)
    (hrest : ((start config).run fetcher schedule).waiting = [])
    (hcalm : Undisturbed fetcher
      (fun key ↦ ((start config).run fetcher schedule).session.key? = some key)
      (start config) schedule) :
    ((start config).run fetcher schedule).session.view?
      = ((start config).session.runAll fetcher (commandsOf schedule)).view? :=
  Matches.view?_eq ((matches_start config).run hapart hkeyed hembedded hamong hcalm) hrest

theorem map_shape_replace (before after : List Event) {command command' : Command}
    (h : command.shape = command'.shape) :
    (before ++ .issue command :: after).map Event.shape
      = (before.map Event.shape ++ .issue command' :: after.map Event.shape).map Event.shape := by
  have hevent : (Event.issue command).shape = (Event.issue command').shape :=
    congrArg Event.issue h
  rw [List.map_append, List.map_append, List.map_cons, List.map_cons,
    Event.map_shape_map_shape, Event.map_shape_map_shape, hevent]

section Exactly

variable {schedule : List Event} {config : Config} {before after : List Event}
  {command : Command} {job : Job}
  (hembedded : NotEmbedded layers) (hkeyed : Keyed fetcher layers)

include hembedded hkeyed

/-- A command that disturbs a schedule does so with other contents and without those of the rest. -/
theorem disturbs_of_shape (features : List Feature) {command' : Command}
    (hamong : Among layers (before ++ .issue command :: after))
    (hchanges : command.changesFeatures = true)
    (hwaits : .evaluate job ∈ ((start config).run fetcher before).waiting)
    (hcurrent : ((start config).run fetcher before).session.key? = some job.key)
    (hshown : ((start config).run fetcher (before ++ .issue command :: after)).session.key?
      = some job.key)
    (hsucceeds : Succeeds fetcher job.data)
    (hrest : ((start config).run fetcher (before ++ .issue command :: after)).waiting = [])
    (hshape : command.shape = command'.shape) :
    Disturbs layers (withAnswer fetcher features) features config (before.map Event.shape)
      command' (after.map Event.shape) job := by
  have hshapes := map_shape_replace before after hshape
  have hsame (data : DataSource) := (succeeds_withAnswer fetcher features data).symm
  have hstart := Alike.refl (start config)
  have hbefore := hstart.run hembedded hsame (regular_start config)
    (fun e he ↦ hamong e (List.mem_append_left _ he)) (Event.map_shape_map_shape before).symm
  have hall := hstart.run hembedded hsame (regular_start config) hamong hshapes
  refine ⟨hembedded, hkeyed.withAnswer, answers_withAnswer, among_of_shape hamong hshapes, ?_, ?_,
    ?_, hbefore.waiting ▸ hwaits, hbefore.key?_eq ▸ hcurrent,
    (succeeds_withAnswer _ _ _).mpr hsucceeds, hall.key?_eq ▸ hshown, hall.waiting ▸ hrest⟩
  · intro e he
    obtain ⟨e', -, rfl⟩ := List.mem_map.mp he
    exact e'.shape_shape
  · intro e he
    obtain ⟨e', -, rfl⟩ := List.mem_map.mp he
    exact e'.shape_shape
  · rw [← Command.changesFeatures_of_shape hshape, hchanges]

/-- A schedule that is disturbed has features that tell its view from that of awaited commands. -/
theorem exists_view?_ne (hamong : Among layers schedule)
    (hrest : ((start config).run fetcher schedule).waiting = [])
    (h : ¬Undisturbed fetcher
      (fun key ↦ ((start config).run fetcher schedule).session.key? = some key)
      (start config) schedule) :
    ∃ features schedule', schedule.map Event.shape = schedule'.map Event.shape ∧
      ((start config).run (withAnswer fetcher features) schedule').session.view?
        ≠ ((start config).session.runAll (withAnswer fetcher features)
            (commandsOf schedule')).view? := by
  obtain ⟨before, command, after, job, rfl, hchanges, hwaits, hcurrent, hshown, hsucceeds⟩ :=
    exists_disturbance h
  have hdisturbs (features : List Feature) (command' : Command)
      (hshape : command.shape = command'.shape) :=
    disturbs_of_shape hembedded hkeyed features hamong hchanges hwaits hcurrent hshown hsucceeds
      hrest hshape
  let f : Feature := { id := "x" }
  -- one feature is enough: written, it is lost; deleted, it comes back
  cases command with
  | writeFeatures written =>
    have hshape : (Command.writeFeatures written).shape = (Command.writeFeatures [f]).shape := rfl
    have hd := hdisturbs [] _ hshape
    exact ⟨[], _, map_shape_replace before after hshape, hd.view?_ne_of_write rfl⟩
  | deleteFeatures ids =>
    have hshape : (Command.deleteFeatures ids).shape = (Command.deleteFeatures [f.id]).shape := rfl
    have hd := hdisturbs [f] _ hshape
    exact ⟨[f], _, map_shape_replace before after hshape, hd.view?_ne_of_delete⟩
  | _ => cases hchanges

end Exactly

/-- Let a schedule answer all fetches, for layers apart whose data is not embedded and gets one
answer for one part of the store. All schedules of its shape, with the same fetches succeeding, come
to the view of awaited commands, exactly if no features of the layer that is shown in the end are
changed while a fetch for them is under way that succeeds. -/
theorem view?_eq_awaited_iff {schedule : List Event} (config : Config)
    (hrequest : ∀ range, .issue (.requestFetch range) ∉ schedule)
    (hembedded : NotEmbedded (layersOf schedule))
    (hkeyed : Keyed fetcher (layersOf schedule)) (hapart : Apart (layersOf schedule))
    (hrest : ((start config).run fetcher schedule).waiting = []) :
    (∀ (fetcher' : Fetcher Id) (schedule' : List Event),
      (∀ data, Succeeds fetcher data ↔ Succeeds fetcher' data) →
      Keyed fetcher' (layersOf schedule) →
      schedule.map Event.shape = schedule'.map Event.shape →
      ((start config).run fetcher' schedule').session.view?
        = ((start config).session.runAll fetcher' (commandsOf schedule')).view?) ↔
    Undisturbed fetcher
      (fun key ↦ ((start config).run fetcher schedule).session.key? = some key)
      (start config) schedule := by
  have hamong := among_layersOf hrequest
  constructor
  · intro h
    by_contra hdisturbed
    obtain ⟨features, schedule', hshape, hne⟩ :=
      exists_view?_ne hembedded hkeyed hamong hrest hdisturbed
    have hsucceeds (data : DataSource) := (succeeds_withAnswer fetcher features data).symm
    exact hne (h _ _ hsucceeds hkeyed.withAnswer hshape)
  · intro hcalm fetcher' schedule' hsucceeds hkeyed' hshape
    have hstart := Alike.refl (start config)
    have hall := hstart.run hembedded hsucceeds (regular_start config) hamong hshape
    apply view?_of_undisturbed (among_of_shape hamong hshape) hembedded hkeyed' hapart
      (hall.waiting ▸ hrest)
    rw [← hall.key?_eq]
    exact hcalm.of_shape hembedded hsucceeds hstart (regular_start config) hamong hshape

/-- Every fetch is answered with one feature. -/
def single : Fetcher Id := fun _ _ ↦ .ok [{ id := "a1" }]

theorem keyed_single (layers : List SimpleLayer) : Keyed single layers :=
  fun _ _ _ _ _ _ _ _ _ ↦ rfl

/-- A layer is set twice, the second fetch is answered first, and then a feature is written. -/
def reordered : List Event :=
  [.issue (.setLayer (some (.simple SimpleLayer.labelled))),
    .issue (.setLayer (some (.simple SimpleLayer.labelled))), .answer 1, .answer 0,
    .issue (.writeFeatures [{ id := "w" }])]

theorem eq_labelled {l : SimpleLayer} (h : l ∈ layersOf reordered) : l = SimpleLayer.labelled := by
  have hlayers : layersOf reordered = [SimpleLayer.labelled, SimpleLayer.labelled] := rfl
  rw [hlayers] at h
  simpa using h

/-- The first fetch comes back last, and the view is that of awaited commands all the same. -/
theorem reordered_view?_eq : ((start {}).run single reordered).session.view?
    = ((start {}).session.runAll single (commandsOf reordered)).view? := by
  refine (view?_eq_awaited_iff {} ?_ ?_ (keyed_single _) ?_ ?_).mpr ?_ single reordered
    (fun _ ↦ Iff.rfl) (keyed_single _) rfl
  · intro range
    simp [reordered]
  · intro l hl d hd
    rw [eq_labelled hl] at hd
    cases hd
    rfl
  · apply apart_of_covered
    intro l hl e he
    rw [eq_labelled hl] at he ⊢
    exact SimpleLayer.covered_labelled he
  · rfl
  · refine ⟨nofun, nofun, trivial, trivial, fun _ job hwaits ↦ ?_, trivial⟩
    contradiction

/-- A layer is set, and a feature is written before the fetch is answered. -/
def hasty : List Event :=
  [.issue (.setLayer (some (.simple
      { id := "A", data := some { format := "geojson", url := some "a" } }))),
    .issue (.writeFeatures [{ id := "w" }]), .answer 0]

/-- The feature that was written is no longer among those that are kept. -/
theorem hasty_view?_ne : ((start {}).run single hasty).waiting = [] ∧
    ((start {}).run single hasty).session.view?
      ≠ ((start {}).session.runAll single (commandsOf hasty)).view? := by
  refine ⟨rfl, fun h ↦ ?_⟩
  have hids := congrArg (Option.map fun view ↦ view.held.map Feature.id) h
  have hlost : (((start {}).run single hasty).session.view?.map fun view ↦
      view.held.map Feature.id) = some ["a1"] := rfl
  have hawaited : (((start {}).session.runAll single (commandsOf hasty)).view?.map fun view ↦
      view.held.map Feature.id) = some ["a1", "w"] := rfl
  rw [hlost, hawaited] at hids
  contradiction

end MapStyle.Flight
