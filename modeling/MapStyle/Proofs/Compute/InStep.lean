import Mathlib
import MapStyle.Proofs.Compute.Interference
import MapStyle.Proofs.Compute.Session
import MapStyle.Proofs.Feature

/-!
# The two halves of a view

A view shows the evaluated features of a layer next to the features that are kept for it. Where
commands are awaited one by one, the two halves are in step: an evaluation reads all that is kept
and comes back before anything else is changed. Only a range that is loaded without an evaluation
brings them out of step, until the next evaluation.
-/

namespace MapStyle

/-! ## Carried features -/

/-- The properties of the features of a layer that hold JSON texts. -/
def Layer.jsonKeys (layer : Layer) : List String :=
  (layer.simple?.map SimpleLayer.jsonKeys).getD []

theorem Layer.jsonKeys_of_fetchable? {layer : Layer} {pair : SimpleLayer × DataSource}
    (h : layer.fetchable? = some pair) : layer.jsonKeys = pair.1.jsonKeys := by
  cases layer with
  | group id children => cases h
  | simple l =>
    obtain ⟨data, -, rfl⟩ := Option.map_eq_some_iff.mp h
    rfl

/-- An evaluated feature carries a kept one, with the properties that hold JSON texts read. -/
structure StyledFeature.Carries (keys : List String) (styled : StyledFeature) (f : Feature) :
    Prop where
  id : styled.feature.id = f.id
  geometry : styled.feature.geometry = f.geometry
  properties : styled.feature.properties = keys.foldl Feature.readProperty f.properties
  texts : Feature.TextsRead keys f.properties styled.feature.properties
  range : styled.feature.range = f.range

/-- A styled feature carries a feature exactly if it is the feature with its listed texts read. -/
theorem StyledFeature.carries_iff {keys : List String} {styled : StyledFeature} {f : Feature} :
    styled.Carries keys f ↔ styled.feature = f.readProperties keys := by
  constructor
  · intro h
    obtain ⟨⟨id, geometry, properties, range⟩, appearances⟩ := styled
    obtain ⟨rfl, rfl, rfl, -, rfl⟩ := h
    rfl
  · intro h
    have htexts := f.textsRead_readProperties keys
    rw [← h] at htexts
    exact ⟨h ▸ rfl, h ▸ rfl, h ▸ rfl, htexts, h ▸ rfl⟩

theorem StyledFeature.Carries.congr {keys : List String} {styled styled' : StyledFeature}
    {f : Feature} (h : styled.Carries keys f) (hfeature : styled'.feature = styled.feature) :
    styled'.Carries keys f :=
  carries_iff.mpr (hfeature.trans (carries_iff.mp h))

/-- An evaluation carries its features in their order, whatever is remembered. -/
theorem Memo.carries_style (l : SimpleLayer) (features : List Feature) (memo : Memo) :
    List.Forall₂ (StyledFeature.Carries l.jsonKeys) ((style l features).run memo).1.features
      features := by
  have hfeatures (memo : Memo) : List.Forall₂ (StyledFeature.Carries l.jsonKeys)
      ((Styling.featuresWith (styleFeature l) features).run memo).1 features := by
    induction features generalizing memo with
    | nil => exact .nil
    | cons f rest ih => exact .cons (StyledFeature.carries_iff.mpr rfl) (ih _)
  exact hfeatures _

namespace LayerView

/-- The evaluated features carry the kept ones one by one. -/
def InStep (v : LayerView) : Prop :=
  List.Forall₂ (StyledFeature.Carries v.layer.jsonKeys) v.features v.held

/-- The features that the evaluated ones carry. -/
def carried (v : LayerView) : List Feature := v.features.map StyledFeature.feature

/-- What is seen of a layer without the features that are kept. -/
def evaluated (v : LayerView) : LayerView := { v with held := [] }

theorem inStep_plain {v : LayerView} : v.plain.InStep ↔ v.InStep := by
  rw [InStep, InStep, plain, List.forall₂_map_left_iff]
  exact ⟨fun h ↦ h.imp fun _ _ hc ↦ hc.congr rfl, fun h ↦ h.imp fun _ _ hc ↦ hc.congr rfl⟩

theorem carried_plain (v : LayerView) : v.plain.carried = v.carried := by
  simp [carried, plain, Function.comp_def]

theorem InStep.carried_eq {v : LayerView} (h : v.InStep) :
    v.carried = v.held.map (Feature.readProperties · v.layer.jsonKeys) := by
  rw [carried, ← List.forall₂_eq_eq_eq, List.forall₂_map_left_iff, List.forall₂_map_right_iff]
  exact h.imp fun _ _ hc ↦ StyledFeature.carries_iff.mp hc

/-- A view is sound if nothing is awaited and its halves are in step. -/
structure Sound (v : LayerView) : Prop where
  ready : v.status = .ready
  inStep : v.InStep

end LayerView

/-! ## Awaited commands -/

/-- A command with what fetches while it is awaited. -/
structure Turn where
  command : Command
  fetcher : Fetcher Id

namespace Session

def take (s : Session) (turn : Turn) : Except Fault Unit × Session :=
  run turn.fetcher s turn.command

/-- Whether a command sets the layer, or adds or removes features of a layer that has some. -/
def evaluates (s : Session) : Command → Bool
  | .setLayer _ => true
  | .writeFeatures _ => s.state.fetchable?.isSome
  | .deleteFeatures _ => s.state.fetchable?.isSome
  | _ => false

/-- Whether a command loads a range of a layer with features, and succeeds. -/
def loads (s : Session) (turn : Turn) : Bool :=
  match turn.command with
  | .requestFetch _ => s.state.fetchable?.isSome && (s.take turn).1.isOk
  | _ => false

variable (s : Session)

section Job

variable {job : Job} (hjob : s.state.job? = some job)

include hjob

/-- The evaluation of the current job gives its result. -/
theorem state_finishJob_ok (features : List Feature) :
    (s.finishJob job (.ok features)).state
      = { s.state with
          status := .ready
          result := some ((Memo.style job.layer features).run s.memo).1
          failed := false } :=
  congrArg Prod.fst (if_neg (not_not_intro (ComputeState.job?_eq_some_iff.mp hjob).2))

/-- The current job fails where its features are missing. -/
theorem state_finishJob_error (fault : Fault) :
    (s.finishJob job (.error fault)).state
      = { s.state with status := .ready, result := none, failed := true } :=
  congrArg Prod.fst (if_neg (not_not_intro (ComputeState.job?_eq_some_iff.mp hjob).2))

/-- The features that are kept after the evaluation of the current job. -/
theorem kept_finishJob_ok {features : List Feature}
    (hkept : s.store.getAll? job.layer.id job.data = some features) :
    ((s.finishJob job (.ok features)).state.fetchable?.bind fun pair ↦
      (s.finishJob job (.ok features)).store.getAll? pair.1.id pair.2) = some features := by
  rw [s.state_finishJob_ok hjob, finishJob_store]
  exact (congrArg (Option.bind · _) (ComputeState.job?_eq_some_iff.mp hjob).1).trans hkept

/-- An evaluation with all that is kept leaves a sound view, and so does one that fails. -/
theorem sound_finishJob {answer : Except Fault (List Feature)}
    (hanswer : ∀ features, answer = .ok features →
      s.store.getAll? job.layer.id job.data = some features) :
    ∀ view, (s.finishJob job answer).view? = some view → view.Sound := by
  intro view hview
  cases answer with
  | error fault =>
    rw [view?, ComputeState.view?, s.state_finishJob_error hjob] at hview
    obtain ⟨layer, -, rfl⟩ := Option.map_eq_some_iff.mp hview
    exact ⟨rfl, .nil⟩
  | ok features =>
    have hpair := (ComputeState.job?_eq_some_iff.mp hjob).1
    obtain ⟨layer, hlayer, hfetchable⟩ := Option.bind_eq_some_iff.mp hpair
    rw [view?, s.kept_finishJob_ok hjob (hanswer features rfl), ComputeState.view?,
      s.state_finishJob_ok hjob] at hview
    obtain ⟨layer', hlayer', rfl⟩ := Option.map_eq_some_iff.mp hview
    cases hlayer'.symm.trans hlayer
    have hcarries := Memo.carries_style job.layer features s.memo
    rw [← Layer.jsonKeys_of_fetchable? hfetchable] at hcarries
    refine ⟨rfl, ?_⟩
    rw [LayerView.InStep]
    simp only [Option.map_some, Option.getD_some, hfetchable, Option.isNone_some, Bool.or_self,
      Bool.false_eq_true, if_false]
    exact List.forall₂_map_left_iff.mpr
      (hcarries.imp fun _ _ hc ↦ hc.congr (Overrides.apply_feature _ _))

end Job

/-- An awaited command with a job ends with the evaluation of all that is kept, or of a failed
fetch. -/
theorem exists_finishJob (fetcher : Fetcher Id) {command : Command} {job : Job}
    (hjob : (s.state.dispatch command).2.job? = some job) :
    ∃ (s' : Session) (answer : Except Fault (List Feature)),
      (run fetcher s command).2 = s'.finishJob job answer ∧
      s'.state = (s.state.dispatch command).1 ∧
      ∀ features, answer = .ok features →
        s'.store.getAll? job.layer.id job.data = some features := by
  rw [run, s.start_of_some hjob, startJob]
  cases hheld : Source.heldAll? (s.changed command).store job.layer.id job.data with
  | some features =>
    refine ⟨s.changed command, .ok features, rfl, rfl, ?_⟩
    rintro _ ⟨rfl⟩
    rw [Source.heldAll?] at hheld
    split at hheld
    · cases hheld
    · exact hheld
  | none =>
    refine ⟨(s.changed command).received job (fetcher job.data none), _,
      (s.changed command).resume_evaluate job (fetcher job.data none), rfl, ?_⟩
    intro features hfeatures
    cases hanswer : fetcher job.data none with
    | error fault =>
      rw [hanswer] at hfeatures
      cases hfeatures
    | ok fetched =>
      rw [hanswer] at hfeatures
      have hpart := (s.changed command).part?_received job (.ok fetched) job.key
      rw [if_pos rfl] at hpart
      rw [hpart] at hfeatures
      cases hfeatures
      exact congrArg (Option.map Buckets.all) hpart

/-- A request leaves the state as it is, and the store too unless a range is loaded. -/
theorem take_requestFetch (fetcher : Fetcher Id) (range : Range) :
    (s.take ⟨.requestFetch range, fetcher⟩).2.state = s.state ∧
      (s.loads ⟨.requestFetch range, fetcher⟩ = false →
        (s.take ⟨.requestFetch range, fetcher⟩).2 = s) := by
  cases hcurrent : s.state.fetchable? with
  | none =>
    have htake : s.take ⟨.requestFetch range, fetcher⟩ = (.ok (), s) := by
      simp only [take, run, start, ComputeState.dispatch, hcurrent]
      rfl
    rw [htake]
    exact ⟨rfl, fun _ ↦ rfl⟩
  | some pair =>
    have htake : s.take ⟨.requestFetch range, fetcher⟩
        = s.resume (.load pair.1.id pair.2 range) (fetcher pair.2 (some range)) := by
      simp only [take, run, start, ComputeState.dispatch, hcurrent]
      rfl
    refine ⟨by rw [htake]; rfl, fun hloads ↦ ?_⟩
    simp only [loads, hcurrent, htake, Option.isSome_some, Bool.true_and] at hloads
    rw [htake]
    cases hanswer : fetcher pair.2 (some range) with
    | error fault => rfl
    | ok features =>
      rw [hanswer] at hloads
      cases hloads

/-- A command without a job, other than one that sets the layer, evaluates nothing. -/
theorem evaluates_of_none {command : Command} (hsets : command.setsLayer = false)
    (hjob : (s.state.dispatch command).2.job? = none) : s.evaluates command = false := by
  have hcurrent (effect : Job → Effect) (heffect : ∀ job, (effect job).job? = some job)
      (hnone : (s.state.changeFeatures effect).2.job? = none) :
      s.state.fetchable?.isSome = false := by
    cases hpair : s.state.fetchable? with
    | none => rfl
    | some pair => simp [ComputeState.changeFeatures, hpair, heffect] at hnone
  cases command with
  | setLayer layer => cases hsets
  | requestFetch range => rfl
  | writeFeatures features => exact hcurrent _ (fun _ ↦ rfl) hjob
  | deleteFeatures ids => exact hcurrent _ (fun _ ↦ rfl) hjob
  | override owner value => rfl

theorem loads_of_ne {turn : Turn} (hcommand : ∀ range, turn.command ≠ .requestFetch range) :
    s.loads turn = false := by
  unfold loads
  split
  · exact absurd ‹_› (hcommand _)
  · rfl

/-- Other overrides change the view in the appearances of features alone. -/
theorem plain_view?_withOverrides (overrides : Overrides) :
    { s with state := { s.state with overrides } }.view?.map LayerView.plain
      = s.view?.map LayerView.plain :=
  s.state.plain_view?_withOverrides overrides _

/-- Another store changes the view in the kept features alone. -/
theorem evaluated_view? {s' : Session} (h : s'.state = s.state) :
    s'.view?.map LayerView.evaluated = s.view?.map LayerView.evaluated := by
  rw [view?, view?, h]
  cases hlayer : s.state.layer <;> simp [ComputeState.view?, hlayer, LayerView.evaluated]

end Session

/-! ## Courses -/

/-- A session whose commands are awaited one by one. -/
structure Course where
  session : Session
  /-- Whether a range was loaded since the last command that evaluates. -/
  loaded : Bool := false

namespace Course

/-- A command is awaited. -/
def take (c : Course) (turn : Turn) : Course where
  session := (c.session.take turn).2
  loaded := !c.session.evaluates turn.command && (c.loaded || c.session.loads turn)

def run (c : Course) (turns : List Turn) : Course := turns.foldl take c

variable {c : Course}

/-- The view is ready, and its halves are in step unless a range was loaded. -/
def Kept (c : Course) : Prop :=
  ∀ view, c.session.view? = some view → view.status = .ready ∧ (c.loaded = false → view.InStep)

theorem kept_start (store : Store) (memo : Memo) : Kept { session := { store, memo } } :=
  nofun

/-- A command with a job leaves the two halves in step, whatever they were before. -/
theorem kept_take_of_some {turn : Turn} {job : Job}
    (hjob : (c.session.state.dispatch turn.command).2.job? = some job) : (c.take turn).Kept := by
  obtain ⟨s, answer, htake, hstate, hanswer⟩ := c.session.exists_finishJob turn.fetcher hjob
  have hcurrent : s.state.job? = some job := hstate ▸ (ComputeState.dispatch_of_some hjob).1
  intro view hview
  have hsound := s.sound_finishJob hcurrent hanswer view (htake ▸ hview)
  exact ⟨hsound.ready, fun _ ↦ hsound.inStep⟩

/-- A layer without features shows none. -/
theorem kept_withLayer {layer : Option Layer} {s : ComputeState} {store : Store} {memo : Memo}
    {loaded : Bool} (hjob : (s.withLayer layer).job? = none) :
    Kept { session := { state := s.withLayer layer, store, memo }, loaded } := by
  intro view hview
  obtain ⟨layer', hlayer, rfl⟩ := Option.map_eq_some_iff.mp hview
  obtain rfl : layer = some layer' := hlayer
  have hnone : layer'.fetchable? = none := by
    cases hfetchable : layer'.fetchable? with
    | none => rfl
    | some pair =>
      simp [ComputeState.job?, ComputeState.fetchable?, ComputeState.withLayer, hfetchable] at hjob
  constructor
  · simp [ComputeState.withLayer, hnone]
  · intro _
    simp [LayerView.InStep, ComputeState.withLayer, hnone]

/-- A command without a job that sets no layer leaves the two halves as they are. -/
theorem Kept.take_override (h : c.Kept) {turn : Turn} {overrides : Overrides}
    (htake : (c.session.take turn).2
      = { c.session with state := { c.session.state with overrides } })
    (hloaded : (c.take turn).loaded = c.loaded) : (c.take turn).Kept := by
  intro view hview
  have hplain := c.session.plain_view?_withOverrides overrides
  have hview : (c.session.take turn).2.view? = some view := hview
  rw [← htake, hview] at hplain
  obtain ⟨old, hold, heq⟩ := Option.map_eq_some_iff.mp hplain.symm
  obtain ⟨hready, hinStep⟩ := h old hold
  refine ⟨?_, fun hnew ↦ ?_⟩
  · exact (congrArg LayerView.status heq).symm.trans hready
  · rw [← LayerView.inStep_plain, ← heq, LayerView.inStep_plain]
    exact hinStep (hloaded.symm.trans hnew)

/-- A request leaves the view ready, and the two halves in step unless it loads a range. -/
theorem Kept.take_requestFetch (h : c.Kept) (fetcher : Fetcher Id) (range : Range) :
    (c.take ⟨.requestFetch range, fetcher⟩).Kept := by
  obtain ⟨hstate, hsession⟩ := c.session.take_requestFetch fetcher range
  intro view hview
  have hevaluated := c.session.evaluated_view? hstate
  have hview : (c.session.take _).2.view? = some view := hview
  rw [hview] at hevaluated
  obtain ⟨old, hold, heq⟩ := Option.map_eq_some_iff.mp hevaluated.symm
  refine ⟨(congrArg LayerView.status heq).symm.trans (h old hold).1, fun hnew ↦ ?_⟩
  simp only [take, Session.evaluates, Bool.not_false, Bool.true_and, Bool.or_eq_false_iff] at hnew
  have hsame : c.session.view? = some view := by
    rw [← hsession hnew.2]
    exact hview
  exact (h view hsame).2 hnew.1

/-- Every awaited command leaves the view ready, and its halves in step unless a range was loaded
since the last evaluation. -/
theorem Kept.take (h : c.Kept) (turn : Turn) : (c.take turn).Kept := by
  obtain ⟨command, fetcher⟩ := turn
  by_cases hrequest : ∃ range, command = .requestFetch range
  · obtain ⟨range, rfl⟩ := hrequest
    exact h.take_requestFetch fetcher range
  · have hcommand (range : Range) : command ≠ .requestFetch range :=
      fun heq ↦ hrequest ⟨range, heq⟩
    cases hjob : (c.session.state.dispatch command).2.job? with
    | some job => exact kept_take_of_some hjob
    | none =>
      have htake : (c.session.take ⟨command, fetcher⟩).2 = _ :=
        c.session.run_of_none fetcher hcommand hjob
      rcases ComputeState.dispatch_of_none hjob with
        ⟨layer, hstate, -, hnone⟩ | ⟨overrides, hstate, hsets⟩
      · rw [Course.take, htake, hstate]
        exact kept_withLayer hnone
      · refine h.take_override (htake.trans (by rw [hstate])) ?_
        have hevaluates := c.session.evaluates_of_none hsets hjob
        have hloads : c.session.loads ⟨command, fetcher⟩ = false := c.session.loads_of_ne hcommand
        simp only [Course.take, hevaluates, hloads, Bool.not_false, Bool.true_and, Bool.or_false]

theorem Kept.run (h : c.Kept) (turns : List Turn) : (c.run turns).Kept := by
  induction turns generalizing c with
  | nil => exact h
  | cons turn rest ih => exact ih (h.take turn)

/-- Whatever is fetched while commands are awaited, the view is ready wherever a layer is set; its
evaluated features carry the kept ones one by one, unless a range was loaded since the last
evaluation; and neither loading a range nor an override changes what the evaluated features
carry. -/
theorem view?_run_inStep (store : Store) (memo : Memo) (turns : List Turn) :
    let c := run { session := { store, memo } } turns
    (∀ layer, c.session.state.layer = some layer → ∃ view, c.session.view? = some view ∧
      view.layer = layer ∧ view.status = .ready ∧ (c.loaded = false → view.InStep)) ∧
    (∀ fetcher range, (c.take ⟨.requestFetch range, fetcher⟩).session.view?.map LayerView.carried
      = c.session.view?.map LayerView.carried) ∧
    ∀ fetcher owner value,
      (c.take ⟨.override owner value, fetcher⟩).session.view?.map LayerView.carried
        = c.session.view?.map LayerView.carried := by
  intro c
  have hkept : c.Kept := (kept_start store memo).run turns
  refine ⟨fun layer hlayer ↦ ?_, fun fetcher range ↦ ?_, fun fetcher owner value ↦ ?_⟩
  · have hshown : c.session.view?.map LayerView.layer = some layer := by
      rw [Session.view?, ComputeState.view?, hlayer]
      rfl
    obtain ⟨view, hview, rfl⟩ := Option.map_eq_some_iff.mp hshown
    exact ⟨view, hview, rfl, hkept view hview⟩
  · have hevaluated := congrArg (Option.map LayerView.carried)
      (c.session.evaluated_view? (c.session.take_requestFetch fetcher range).1)
    rw [Option.map_map, Option.map_map] at hevaluated
    exact hevaluated
  · have hplain := congrArg (Option.map LayerView.carried)
      (c.session.plain_view?_withOverrides (c.session.state.overrides.set owner value))
    rw [Option.map_map, Option.map_map] at hplain
    have hcarried : LayerView.carried ∘ LayerView.plain = LayerView.carried :=
      funext LayerView.carried_plain
    rw [hcarried] at hplain
    exact hplain

/-- A layer whose features have tags that are written as JSON texts. -/
def tagged : SimpleLayer where
  id := "A"
  data := some { format := "geojson", url := some "a", jsonProperties := some ["tags"] }

/-- A layer is set and its features are fetched, a range cannot be loaded, and an override is
set. -/
def refused : List Turn :=
  [⟨.setLayer (some (.simple tagged)),
      fun _ _ ↦ .ok [{ id := "a", properties := [("tags", .string "[1]")] }]⟩,
    ⟨.requestFetch { x := 0, y := 0, z := 1 }, fun _ _ ↦ .error .json⟩,
    ⟨.override "pin" (some (.object [])), fun _ _ ↦ .ok []⟩]

/-- The text of the tags is kept, and what it spells is evaluated. -/
theorem view?_refused_inStep :
    let c := run { session := { memo := Memo.empty {} } } refused
    c.session.state.layer = some (.simple tagged) ∧ c.loaded = false ∧
    ∃ view, c.session.view? = some view ∧ view.layer = .simple tagged ∧ view.status = .ready ∧
      view.InStep ∧
      view.held.map (fun f ↦ Table.get? f.properties "tags") = [some (.string "[1]")] ∧
      view.carried.map (fun f ↦ Table.get? f.properties "tags") = [some (.array [.int 1])] := by
  intro c
  have hlayer : c.session.state.layer = some (.simple tagged) := rfl
  have hloaded : c.loaded = false := rfl
  obtain ⟨view, hview, hsame, hready, hinStep⟩ :=
    (view?_run_inStep {} (Memo.empty {}) refused).1 _ hlayer
  have hheld : c.session.view?.map LayerView.held
      = some [{ id := "a", properties := [("tags", .string "[1]")] }] := by cbv
  have hheld : view.held = [{ id := "a", properties := [("tags", .string "[1]")] }] := by
    rw [hview] at hheld
    exact Option.some.inj hheld
  have hcarried := (hinStep hloaded).carried_eq
  refine ⟨hlayer, hloaded, view, hview, hsame, hready, hinStep hloaded, ?_, ?_⟩
  · rw [hheld]
    rfl
  · rw [hcarried, hheld, hsame]
    cbv

end Course

end MapStyle
