import Mathlib
import MapStyle.Compute.Batch
import MapStyle.Proofs.Compute.InStep
import MapStyle.Proofs.Embedded

/-!
# Layers computed together

The layers of a document are computed one after the other over one store. What a layer leaves there
are its own embedded features, under its identifier and the key of its data; what it reads there, it
reads only if its data is not embedded. So a layer without embedded data shows what the last earlier
layer of the same identifier and key left, where it would show nothing by itself, and every other
layer shows its own features.
-/

namespace MapStyle

/-! ## Features by their layers -/

namespace SimpleLayer

/-- All features embedded in the data of the layer carry identifiers. -/
def Identified (l : SimpleLayer) : Prop := ∀ data, l.data = some data → Embedded.Identified data

variable (supply : Identifiers)

/-- The features that are embedded in the layer, none if they cannot be read. -/
def own (l : SimpleLayer) : List Feature :=
  (l.data.bind (Embedded.decoded? supply)).getD []

/-- What the layer leaves in the store, and where. -/
def deposit? (l : SimpleLayer) : Option (StoreKey × List Feature) :=
  l.data.bind fun data ↦ (Embedded.decoded? supply data).map (Store.keyOf l.id data, ·)

/-- What layers computed one after the other leave under a key. -/
def left (earlier : List SimpleLayer) (key : StoreKey) : Option (List Feature) :=
  (earlier.filterMap (deposit? supply)).reverse.lookup key

/-- What the layer shows once earlier ones are computed. -/
def seen (earlier : List SimpleLayer) (l : SimpleLayer) : List Feature :=
  match l.data with
  | none => []
  | some data =>
    if data.isEmbedded then l.own supply else (left supply earlier (Store.keyOf l.id data)).getD []

/-- If the data of the layer is not embedded, earlier layers left no features for it. -/
def Unaffected (earlier : List SimpleLayer) (l : SimpleLayer) : Prop :=
  ∀ data, l.data = some data → data.isEmbedded = false →
    (left supply earlier (Store.keyOf l.id data)).getD [] = []

variable {supply}

/-- A layer shows its own features exactly if earlier ones left none for it. -/
theorem seen_eq_own_iff {earlier : List SimpleLayer} {l : SimpleLayer} :
    l.seen supply earlier = l.own supply ↔ l.Unaffected supply earlier := by
  cases hdata : l.data with
  | none => simp [seen, own, Unaffected, hdata]
  | some data =>
    cases hembedded : data.isEmbedded with
    | true => simp [seen, Unaffected, hdata, hembedded]
    | false =>
      simp [seen, own, Unaffected, hdata, hembedded, Embedded.decoded?_of_not_isEmbedded hembedded]

theorem deposit?_of_data {l : SimpleLayer} {data : DataSource} (hdata : l.data = some data) :
    l.deposit? supply = (Embedded.decoded? supply data).map (Store.keyOf l.id data, ·) := by
  rw [deposit?, hdata, Option.bind_some]

/-- The last layer that leaves something under the key decides. -/
theorem left_append (earlier : List SimpleLayer) (l : SimpleLayer) (key : StoreKey) :
    left supply (earlier ++ [l]) key
      = (((l.deposit? supply).toList.lookup key).or (left supply earlier key)) := by
  cases hdeposit : l.deposit? supply with
  | none => simp [left, hdeposit]
  | some part =>
    obtain ⟨key', features⟩ := part
    have hlast : left supply (earlier ++ [l]) key
        = ((key', features) :: (earlier.filterMap (deposit? supply)).reverse).lookup key := by
      simp [left, hdeposit]
    rw [hlast, Option.toList_some, List.lookup_cons, List.lookup_cons]
    cases key == key' <;> rfl

end SimpleLayer

/-! ## Views -/

/-- A ready view shows the given features of a layer. -/
structure LayerView.Shows (v : LayerView) (l : SimpleLayer) (features : List Feature) : Prop where
  layer : v.layer = .simple l
  ready : v.status = .ready
  held : v.held = features
  carried : v.carried = features.map (Feature.readProperties · l.jsonKeys)

namespace Session

/-- The evaluation of the current job shows the features that it was given. -/
theorem view?_finishJob_shows (s : Session) {job : Job} (hjob : s.state.job? = some job)
    {answer : Except Fault (List Feature)}
    (hanswer : ∀ features, answer = .ok features →
      s.store.getAll? job.layer.id job.data = some features) :
    ∃ view, (s.finishJob job answer).view? = some view ∧
      view.Shows job.layer (answer.toOption.getD []) := by
  have hpair := (ComputeState.job?_eq_some_iff.mp hjob).1
  obtain ⟨layer, hlayer, hfetchable⟩ := Option.bind_eq_some_iff.mp hpair
  have hsimple : layer = .simple job.layer := by
    cases layer with
    | group id children => cases hfetchable
    | simple l =>
      obtain ⟨data, -, heq⟩ := Option.map_eq_some_iff.mp hfetchable
      cases heq
      rfl
  have hshown : (s.finishJob job answer).view?.map (fun v ↦ (v.layer, v.held))
      = some (.simple job.layer, answer.toOption.getD []) := by
    cases answer with
    | error fault =>
      rw [view?, ComputeState.view?, s.state_finishJob_error hjob, hlayer, hsimple]
      rfl
    | ok features =>
      rw [view?, s.kept_finishJob_ok hjob (hanswer features rfl), ComputeState.view?,
        s.state_finishJob_ok hjob, hlayer]
      simp [hfetchable, ← hsimple, Except.toOption]
  obtain ⟨view, hview, heq⟩ := Option.map_eq_some_iff.mp hshown
  obtain ⟨hviewLayer, hheld⟩ := Prod.mk.inj heq
  have hsound := s.sound_finishJob hjob hanswer view hview
  refine ⟨view, hview, hviewLayer, hsound.ready, hheld, ?_⟩
  rw [hsound.inStep.carried_eq, hheld, hviewLayer]
  rfl

end Session

/-! ## One layer after the other -/

namespace Batch

variable {supply : Identifiers} {earlier : List SimpleLayer} {store : Store} {l : SimpleLayer}

/-- The store holds what earlier layers left, and nothing else. -/
def Left (supply : Identifiers) (earlier : List SimpleLayer) (store : Store) : Prop :=
  ∀ key, store.part? key
    = (SimpleLayer.left supply earlier key).map fun features ↦ [(Range.key none, features)]

theorem Left.getAll?_eq (h : Left supply earlier store) (id : String) (data : DataSource) :
    store.getAll? id data = SimpleLayer.left supply earlier (Store.keyOf id data) := by
  rw [Store.getAll?, h, Option.map_map]
  simp [Function.comp_def]

theorem Left.append_of_none (h : Left supply earlier store) (hdeposit : l.deposit? supply = none) :
    Left supply (earlier ++ [l]) store := fun key ↦ by
  rw [h, SimpleLayer.left_append, hdeposit]
  rfl

/-- The store holds also what a layer leaves, once its embedded features are fetched. -/
theorem Left.receive (h : Left supply earlier store) {data : DataSource}
    (hdata : l.data = some data) :
    Left supply (earlier ++ [l])
      (store.receive l.id data none ((Embedded.fetch data).run supply).1) := by
  have hdecoded := Embedded.toOption_run_fetch data supply
  cases hanswer : ((Embedded.fetch data).run supply).1 with
  | error fault =>
    rw [hanswer] at hdecoded
    exact h.append_of_none (by rw [SimpleLayer.deposit?_of_data hdata, ← hdecoded]; rfl)
  | ok features =>
    rw [hanswer] at hdecoded
    have hdeposit : l.deposit? supply = some (Store.keyOf l.id data, features) := by
      rw [SimpleLayer.deposit?_of_data hdata, ← hdecoded]
      rfl
    intro key
    rw [Store.receive, Store.part?_put, SimpleLayer.left_append, hdeposit]
    by_cases hkey : key = Store.keyOf l.id data
    · subst hkey
      rw [if_pos rfl, h]
      cases SimpleLayer.left supply earlier (Store.keyOf l.id data) <;>
        simp [Buckets.replace, Buckets.update]
    · rw [if_neg hkey, h]
      simp [List.lookup_cons, beq_eq_false_iff_ne.mpr hkey]

/-- What a layer needs before its current job is finished. -/
structure Ready (supply : Identifiers) (earlier : List SimpleLayer) (s : Session) (job : Job) :
    Prop where
  current : s.state.job? = some job
  left : Left supply earlier s.store
  identified : Embedded.Identified job.data

/-- What an awaited command of a layer comes to after earlier layers. -/
def Computes (supply : Identifiers) (earlier : List SimpleLayer) (l : SimpleLayer)
    (run : StateM Identifiers (Except Fault Unit × Session)) : Prop :=
  ∃ session, run.run supply = ((.ok (), session), supply) ∧
    Left supply (earlier ++ [l]) session.store ∧
    ∃ view, session.view? = some view ∧ view.Shows l (l.seen supply earlier)

section Job

variable {s : Session} {job : Job} (h : Ready supply earlier s job)

include h

/-- Kept features are shown if the data is not embedded, and nothing is fetched. -/
theorem computes_kept {features : List Feature}
    (hheld : Source.heldAll? s.store job.layer.id job.data = some features) :
    Computes supply earlier job.layer (pure (.ok (), s.finishJob job (.ok features))) := by
  have hdata := ComputeState.data_of_job? h.current
  have hembedded : job.data.isEmbedded = false := by
    by_contra hembedded
    simp [Source.heldAll?, hembedded] at hheld
  have hleft : SimpleLayer.left supply earlier (Store.keyOf job.layer.id job.data)
      = some features := by
    rw [← h.left.getAll?_eq]
    simpa [Source.heldAll?, hembedded] using hheld
  have hdeposit : job.layer.deposit? supply = none := by
    rw [SimpleLayer.deposit?_of_data hdata, Embedded.decoded?_of_not_isEmbedded hembedded,
      Option.map_none]
  have hkept : ∀ kept, (.ok features : Except Fault (List Feature)) = .ok kept →
      s.store.getAll? job.layer.id job.data = some kept := by
    rintro _ ⟨rfl⟩
    rw [h.left.getAll?_eq, hleft]
  obtain ⟨view, hview, hshows⟩ := s.view?_finishJob_shows h.current hkept
  refine ⟨_, rfl, h.left.append_of_none hdeposit, view, hview, ?_⟩
  have hseen : job.layer.seen supply earlier = features := by
    simp [SimpleLayer.seen, hdata, hembedded, hleft]
  exact hseen ▸ hshows

/-- What is fetched is shown if no features are kept, or the data is embedded. -/
theorem computes_fetched (hheld : Source.heldAll? s.store job.layer.id job.data = none) :
    Computes supply earlier job.layer (do
      let answer ← Embedded.fetch job.data
      pure (s.resume (.evaluate job) answer)) := by
  have hdata := ComputeState.data_of_job? h.current
  have hleft := h.left.receive hdata
  have hdecoded := Embedded.toOption_run_fetch job.data supply
  have hrun : (Embedded.fetch job.data).run supply
      = (((Embedded.fetch job.data).run supply).1, supply) :=
    Prod.ext rfl (Embedded.run_fetch_of_identified h.identified supply)
  -- From here on only the answer counts, and what it leaves in the store.
  generalize ((Embedded.fetch job.data).run supply).1 = answer at hleft hdecoded hrun
  have hkept : ∀ features, answer = .ok features →
      (s.received job answer).store.getAll? job.layer.id job.data = some features := by
    rintro features rfl
    have hdeposit : job.layer.deposit? supply
        = some (Store.keyOf job.layer.id job.data, features) := by
      rw [SimpleLayer.deposit?_of_data hdata, ← hdecoded]
      rfl
    rw [Session.received, hleft.getAll?_eq, SimpleLayer.left_append, hdeposit]
    simp
  have hfinish : (s.resume (.evaluate job) answer).2
      = (s.received job answer).finishJob job answer := by
    rw [s.resume_evaluate]
    cases answer with
    | error fault => rfl
    | ok features =>
      exact congrArg (fun kept : Option (List Feature) ↦
        (s.received job (.ok features)).finishJob job (.ok (kept.getD []))) (hkept features rfl)
  have hseen : answer.toOption.getD [] = job.layer.seen supply earlier := by
    rw [hdecoded, SimpleLayer.seen, hdata]
    cases hembedded : job.data.isEmbedded with
    | true => simp [SimpleLayer.own, hdata, hembedded]
    | false =>
      rw [Source.heldAll?, hembedded, if_neg Bool.false_ne_true, h.left.getAll?_eq] at hheld
      simp [hheld, hembedded, Embedded.decoded?_of_not_isEmbedded hembedded]
  obtain ⟨view, hview, hshows⟩ :=
    (s.received job answer).view?_finishJob_shows h.current hkept
  refine ⟨(s.resume (.evaluate job) answer).2, ?_, ?_, view, ?_, hseen ▸ hshows⟩
  · rw [StateT.run_bind, hrun]
    rfl
  · rw [hfinish]
    exact hleft
  · rw [hfinish, hview]

end Job

theorem job?_dispatch_setLayer (s : ComputeState) (l : SimpleLayer) :
    (s.dispatch (.setLayer (some (.simple l)))).2.job?
      = l.data.map ({ generation := s.generation + 1, layer := l, data := · }) := by
  cases hdata : l.data <;>
    simp [ComputeState.dispatch, ComputeState.setLayer, ComputeState.job?,
      ComputeState.fetchable?, Layer.fetchable?, Layer.simple?, hdata, Effect.job?]

theorem store_changed_setLayer (s : Session) (layer : Option Layer) :
    (s.changed (.setLayer layer)).store = s.store := by
  rw [Session.changed, ComputeState.dispatch, ComputeState.setLayer]
  split <;> rfl

/-- A layer that is computed after others shows what is seen of it, and leaves its own features. -/
theorem computes_setLayer (memo : Memo) (h : Left supply earlier store) (hl : l.Identified) :
    Computes supply earlier l (Session.run (fun data _ ↦ Embedded.fetch data) { store, memo }
      (.setLayer (some (.simple l)))) := by
  let s : Session := { store, memo }
  have hjob := job?_dispatch_setLayer s.state l
  have hcommand : ∀ range, Command.setLayer (some (.simple l)) ≠ .requestFetch range := nofun
  cases hdata : l.data with
  | none =>
    rw [hdata, Option.map_none] at hjob
    refine ⟨{ s with state := (s.state.dispatch (.setLayer (some (.simple l)))).1 }, ?_, ?_,
      { layer := .simple l, status := .ready, features := [], held := [], appearances := {} },
      ?_, rfl, rfl, ?_, ?_⟩
    · rw [Session.run, s.start_of_none hcommand hjob]
      rfl
    · exact h.append_of_none (by rw [SimpleLayer.deposit?, hdata, Option.bind_none])
    · simp [s, Session.view?, ComputeState.view?, ComputeState.dispatch, ComputeState.setLayer,
        ComputeState.job?, ComputeState.fetchable?, Layer.fetchable?, Layer.simple?, hdata]
    · simp [SimpleLayer.seen, hdata]
    · simp [SimpleLayer.seen, hdata, LayerView.carried]
  | some data =>
    rw [hdata, Option.map_some] at hjob
    have hready : Ready supply earlier (s.changed (.setLayer (some (.simple l)))) ⟨1, l, data⟩ :=
      ⟨(ComputeState.dispatch_of_some hjob).1, (store_changed_setLayer s _).symm ▸ h, hl data hdata⟩
    rw [Session.run, s.start_of_some hjob, Session.startJob]
    cases hheld : Source.heldAll? (s.changed (.setLayer (some (.simple l)))).store l.id data with
    | some features => exact computes_kept hready hheld
    | none => exact computes_fetched hready hheld

/-- The layers that follow earlier ones show what is seen of them one by one. -/
theorem exists_run_views {rest : List SimpleLayer} (memo : Memo) (h : Left supply earlier store)
    (hrest : ∀ l ∈ rest, l.Identified) :
    ∃ shown, (views (fun data _ ↦ Embedded.fetch data) store memo rest).run supply
        = (shown, supply) ∧
      shown.length = rest.length ∧
      ∀ (i : Nat) (l : SimpleLayer) (view : LayerView), rest[i]? = some l →
        shown[i]? = some view → view.Shows l (l.seen supply (earlier ++ rest.take i)) := by
  -- A layer leaves a store after `earlier ++ [l]`, so the earlier layers grow as the rest shrinks.
  induction rest generalizing earlier store memo with
  | nil => exact ⟨[], rfl, rfl, by simp⟩
  | cons l rest ih =>
    obtain ⟨session, hrun, hleft, view, hview, hshows⟩ :=
      computes_setLayer memo h (hrest l List.mem_cons_self)
    obtain ⟨others, hothers, hlength, hall⟩ :=
      ih session.memo hleft fun l' hl' ↦ hrest l' (List.mem_cons_of_mem _ hl')
    refine ⟨view :: others, ?_, congrArg (· + 1) hlength, fun i l' view' hl' hview' ↦ ?_⟩
    · rw [views, StateT.run_bind, hrun]
      change StateT.run (views (fun data _ ↦ Embedded.fetch data) session.store session.memo rest
        >>= fun others ↦ pure (session.view?.toList ++ others)) supply = _
      rw [StateT.run_bind, hothers, hview]
      rfl
    · cases i with
      | zero =>
        cases hl'
        cases hview'
        simpa using hshows
      | succ i =>
        have hi := hall i l' view' hl' hview'
        rwa [List.append_assoc] at hi

theorem left_nil (supply : Identifiers) : Left supply [] {} := fun _ ↦ rfl

/-- A layer by itself shows its own features. -/
theorem exists_run_compute_singleton (config : Config) (supply : Identifiers)
    (hl : l.Identified) :
    ∃ alone, (compute config [.simple l]).run supply = ([alone], supply) ∧
      alone.Shows l (l.own supply) := by
  have hsimple : [Layer.simple l].flatMap Layer.simpleLayers = [l] := by
    simp [Layer.simpleLayers]
  have hidentified : ∀ l' ∈ [l], l'.Identified := List.forall_mem_singleton.mpr hl
  obtain ⟨shown, hrun, hlength, hall⟩ :=
    exists_run_views (Memo.empty config) (left_nil supply) hidentified
  obtain ⟨alone, rfl⟩ := List.length_eq_one_iff.mp hlength
  refine ⟨alone, ?_, ?_⟩
  · rw [compute, hsimple, hrun]
  · have hseen : l.seen supply [] = l.own supply :=
      SimpleLayer.seen_eq_own_iff.mpr fun _ _ _ ↦ rfl
    exact hseen ▸ hall 0 l alone rfl rfl

/-- Layers whose embedded features carry identifiers are computed without the supply, and each is
ready and shown in its place. A layer shows the features that it shows by itself, which are its own,
exactly if earlier layers left none for data of its own that is not embedded. -/
theorem compute_eq_alone_iff (config : Config) {layers : List Layer}
    (hlayers : ∀ l ∈ layers.flatMap Layer.simpleLayers, l.Identified) (supply : Identifiers) :
    ∃ shown, (compute config layers).run supply = (shown, supply) ∧
      shown.length = (layers.flatMap Layer.simpleLayers).length ∧
      ∀ (i : Nat) (l : SimpleLayer) (view : LayerView),
        (layers.flatMap Layer.simpleLayers)[i]? = some l → shown[i]? = some view →
        view.layer = .simple l ∧ view.status = .ready ∧
        ∃ alone, (compute config [.simple l]).run supply = ([alone], supply) ∧
          alone.Shows l (l.own supply) ∧
          (view.held = alone.held ∧ view.carried = alone.carried ↔
            l.Unaffected supply ((layers.flatMap Layer.simpleLayers).take i)) := by
  obtain ⟨shown, hrun, hlength, hall⟩ :=
    exists_run_views (Memo.empty config) (left_nil supply) hlayers
  refine ⟨shown, hrun, hlength, fun i l view hl hview ↦ ?_⟩
  have hshows := hall i l view hl hview
  obtain ⟨alone, halone, hown⟩ :=
    exists_run_compute_singleton config supply (hlayers l (List.mem_of_getElem? hl))
  refine ⟨hshows.layer, hshows.ready, alone, halone, hown, ?_⟩
  rw [hshows.held, hown.held, hshows.carried, hown.carried, List.nil_append,
    ← SimpleLayer.seen_eq_own_iff]
  exact ⟨And.left, fun heq ↦ ⟨heq, by rw [heq]⟩⟩

/-- A layer with an embedded feature. -/
def embedded : SimpleLayer where
  id := "A"
  data := some { format := "geojson", value := some (.array [.object [("id", .string "a")]]) }

/-- A layer of the given identifier whose data is not embedded. -/
def remote (id : String) : SimpleLayer where
  id
  data := some { format := "geojson" }

theorem identified_embedded : embedded.Identified := by
  rintro data ⟨rfl⟩ v ⟨rfl⟩ item hitem
  obtain rfl := List.mem_singleton.mp hitem
  rintro fields ⟨rfl⟩
  exact ⟨.string "a", rfl, nofun⟩

theorem identified_remote (id : String) : (remote id).Identified := by
  rintro data ⟨rfl⟩ v hv
  cases hv

/-- In a group a layer of another identifier shows nothing, as it does by itself. -/
theorem compute_eq_alone_elsewhere :
    let layers := [Layer.group "map" [.simple embedded, .simple (remote "B")]]
    (∀ l ∈ layers.flatMap Layer.simpleLayers, l.Identified) ∧
      ∃ shown view, (compute {} layers).run ⟨0⟩ = (shown, ⟨0⟩) ∧ shown[1]? = some view ∧
        view.layer = .simple (remote "B") ∧ view.status = .ready ∧
        view.held = [] ∧ view.carried = [] := by
  intro layers
  have hidentified : ∀ l ∈ layers.flatMap Layer.simpleLayers, l.Identified := by
    have hsimple : layers.flatMap Layer.simpleLayers = [embedded, remote "B"] := rfl
    rw [hsimple]
    simp [identified_embedded, identified_remote]
  obtain ⟨shown, hrun, hlength, hall⟩ := compute_eq_alone_iff {} hidentified ⟨0⟩
  obtain ⟨view, hview⟩ : ∃ view, shown[1]? = some view :=
    ⟨_, List.getElem?_eq_getElem (by rw [hlength]; exact Nat.one_lt_two)⟩
  obtain ⟨hlayer, hready, alone, -, hown, hiff⟩ := hall 1 (remote "B") view rfl hview
  obtain ⟨hheld, hcarried⟩ := hiff.mpr (by
    rintro data ⟨rfl⟩ -
    rfl)
  exact ⟨hidentified, shown, view, hrun, hview, hlayer, hready, hheld.trans hown.held,
    hcarried.trans hown.carried⟩

/-- After an embedded layer of its identifier, a layer shows the feature of the other one. -/
theorem compute_ne_alone_remote :
    (∀ l ∈ [embedded, remote "A"], l.Identified) ∧
      ((compute {} [.simple embedded, .simple (remote "A")]).run ⟨0⟩).1.map
        (fun view ↦ (view.held.map Feature.id, view.carried.map Feature.id))
        = [(["a"], ["a"]), (["a"], ["a"])] ∧
      ((compute {} [.simple (remote "A")]).run ⟨0⟩).1.map
        (fun view ↦ (view.held.map Feature.id, view.carried.map Feature.id)) = [([], [])] := by
  refine ⟨by simp [identified_embedded, identified_remote], ?_, ?_⟩
  · cbv
  · cbv

end Batch

end MapStyle
