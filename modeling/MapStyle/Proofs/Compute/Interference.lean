import MapStyle.Proofs.Compute.Calls
import MapStyle.Proofs.Override

/-!
# Overrides take no part in the computation

Commands and outcomes do the same whatever the overrides are, and the overrides become what the
overriding commands make of them, whatever else happens. In the view they reach the appearances of
features alone. An override that is set and removed again leaves no trace, since owners do not
disturb each other's place among the overrides.
-/

namespace MapStyle

/-! ## Owners -/

namespace Overrides

variable {o : Overrides} {owner other : String}

/-- An owner without an override has none to remove. -/
theorem set_none_of_not_mem (h : owner ∉ o.owners) : o.set owner none = o := by
  have hkept : o.entries.filter (fun e ↦ e.1 != owner) = o.entries := by
    rw [List.filter_eq_self]
    intro e he
    rw [bne_iff_ne]
    rintro rfl
    exact h (List.mem_map_of_mem he)
  rw [set, hkept]

/-- An override that is removed leaves the overrides of the others. -/
theorem set_some_set_none (o : Overrides) (owner : String) (value : Json) :
    (o.set owner (some value)).set owner none = o.set owner none := by
  by_cases hname : owner = "" <;> simp [set, hname]

/-- Another owner's override may be set before or after one is removed. -/
theorem set_set_none (h : other ≠ owner) (o : Overrides) (value : Option Json) :
    (o.set other value).set owner none = (o.set owner none).set other value := by
  have hcomm : (o.entries.filter fun e ↦ e.1 != other).filter (fun e ↦ e.1 != owner)
      = (o.entries.filter fun e ↦ e.1 != owner).filter fun e ↦ e.1 != other := by
    rw [List.filter_filter, List.filter_filter]
    exact List.filter_congr fun e _ ↦ Bool.and_comm _ _
  cases value with
  | none => rw [set, set, set, set, hcomm]
  | some v =>
    by_cases hname : other = ""
    · subst hname
      simp [set, h, hcomm]
    · simp [set, hname, h, hcomm]

end Overrides

/-- What is seen of a layer without the appearances of its features. -/
def LayerView.plain (v : LayerView) : LayerView :=
  { v with features := v.features.map fun f ↦ { f with appearances := {} } }

namespace ComputeState

/-- The owner whose override a call sets or removes. -/
def Call.owner? : Call → Option String
  | dispatch (.override owner _) => some owner
  | _ => none

/-- Whether a call sets or removes an override. -/
def Call.isOverride (c : Call) : Bool := c.owner?.isSome

/-- What a call makes of the overrides. -/
def Call.changeOverrides (o : Overrides) : Call → Overrides
  | dispatch (.override owner value) => o.set owner value
  | _ => o

/-! ## Calls under other overrides -/

/-- A command works alike under all overrides, and what it makes of them depends on nothing else. -/
theorem dispatch_withOverrides (s : ComputeState) (o : Overrides) (command : Command) :
    { s with overrides := o }.dispatch command
      = ({ (s.dispatch command).1 with
            overrides := Call.changeOverrides o (.dispatch command) },
          (s.dispatch command).2) := by
  have hfetchable : { s with overrides := o }.fetchable? = s.fetchable? := rfl
  cases command with
  | setLayer layer =>
    cases hlayer : layer.bind Layer.fetchable? <;>
      simp [dispatch, setLayer, job?, fetchable?, hlayer, Call.changeOverrides]
  | requestFetch range =>
    cases hcurrent : s.fetchable? <;>
      simp [dispatch, hfetchable, hcurrent, Call.changeOverrides]
  | writeFeatures features =>
    cases hcurrent : s.fetchable? <;>
      simp [dispatch, changeFeatures, hfetchable, hcurrent, Call.changeOverrides]
  | deleteFeatures ids =>
    cases hcurrent : s.fetchable? <;>
      simp [dispatch, changeFeatures, hfetchable, hcurrent, Call.changeOverrides]
  | override owner value => rfl

/-- An outcome works alike under all overrides, and leaves them. -/
theorem complete_withOverrides (s : ComputeState) (o : Overrides) (generation : Nat)
    (outcome : Outcome) :
    { s with overrides := o }.complete generation outcome
      = ({ (s.complete generation outcome).1 with overrides := o },
          (s.complete generation outcome).2) := by
  refine Prod.ext (complete_overrides s o generation outcome) ?_
  unfold complete
  dsimp only
  split
  · rfl
  · cases outcome <;> rfl

/-- Whatever the overrides are, a call gives back the same and leaves the same state, and it changes
the overrides whatever the state is. -/
theorem call_withOverrides (s : ComputeState) (o : Overrides) (c : Call) :
    { s with overrides := o }.call c
      = ({ (s.call c).1 with overrides := c.changeOverrides o }, (s.call c).2) := by
  cases c with
  | dispatch command => rw [call, call, dispatch_withOverrides]
  | complete generation outcome =>
    rw [call, call, complete_withOverrides]
    rfl

/-- An overriding call changes nothing else. -/
theorem call_of_isOverride (s : ComputeState) {c : Call} (h : c.isOverride = true) :
    (s.call c).1 = { s with overrides := c.changeOverrides s.overrides } := by
  cases c with
  | complete generation outcome => cases h
  | dispatch command =>
    cases command with
    | override owner value => rfl
    | setLayer layer => cases h
    | requestFetch range => cases h
    | writeFeatures features => cases h
    | deleteFeatures ids => cases h

theorem changeOverrides_of_not (o : Overrides) {c : Call} (h : c.isOverride = false) :
    c.changeOverrides o = o := by
  cases c with
  | complete generation outcome => rfl
  | dispatch command =>
    cases command with
    | override owner value => cases h
    | setLayer layer => rfl
    | requestFetch range => rfl
    | writeFeatures features => rfl
    | deleteFeatures ids => rfl

/-! ## Sequences under other overrides -/

theorem run_withOverrides (s : ComputeState) (o : Overrides) (calls : List Call) :
    { s with overrides := o }.run calls
      = { s.run calls with overrides := calls.foldl Call.changeOverrides o } := by
  induction calls generalizing s o with
  | nil => rfl
  | cons c rest ih => rw [run_cons, run_cons, call_withOverrides, ih, List.foldl_cons]

theorem trace_withOverrides (s : ComputeState) (o : Overrides) (calls : List Call) :
    { s with overrides := o }.trace calls = s.trace calls := by
  induction calls generalizing s o with
  | nil => rfl
  | cons c rest ih => rw [trace, trace, call_withOverrides, ih]

/-- The overrides after several calls are what the calls make of them one by one. -/
theorem overrides_run (s : ComputeState) (calls : List Call) :
    (s.run calls).overrides = calls.foldl Call.changeOverrides s.overrides :=
  congrArg overrides (run_withOverrides s s.overrides calls)

/-- Without the overriding calls all else is left as it was. -/
theorem run_eq_run_filter (s : ComputeState) (calls : List Call) :
    s.run calls
      = { s.run (calls.filter fun c ↦ !c.isOverride) with
          overrides := calls.foldl Call.changeOverrides s.overrides } := by
  induction calls generalizing s with
  | nil => rfl
  | cons c rest ih =>
    cases h : c.isOverride with
    | true =>
      rw [run_cons, s.call_of_isOverride h, run_withOverrides, ih s]
      simp [h]
    | false =>
      have hoverrides : (s.call c).1.overrides = s.overrides := by
        have hcall := congrArg (fun p ↦ p.1.overrides) (s.call_withOverrides s.overrides c)
        exact hcall.trans (changeOverrides_of_not s.overrides h)
      rw [run_cons, ih (s.call c).1, hoverrides]
      simp [h, changeOverrides_of_not]

/-- The other calls give back what they gave back. -/
theorem filter_trace (s : ComputeState) (calls : List Call) :
    (s.trace calls).filter (fun e ↦ !e.1.isOverride)
      = s.trace (calls.filter fun c ↦ !c.isOverride) := by
  induction calls generalizing s with
  | nil => rfl
  | cons c rest ih =>
    rw [trace]
    cases h : c.isOverride with
    | true =>
      rw [s.call_of_isOverride h, trace_withOverrides]
      simp [h, ih]
    | false => simp [h, ih, trace]

/-- The overriding calls alone lead to the same overrides. -/
theorem foldl_changeOverrides_filter (o : Overrides) (calls : List Call) :
    (calls.filter Call.isOverride).foldl Call.changeOverrides o
      = calls.foldl Call.changeOverrides o := by
  induction calls generalizing o with
  | nil => rfl
  | cons c rest ih =>
    cases h : c.isOverride with
    | true => simp [h, ih]
    | false => simp [h, ih, changeOverrides_of_not]

/-- Calls that do not concern an owner do the same before and after the override of that owner is
removed. -/
theorem foldl_changeOverrides_set_none {owner : String} {calls : List Call}
    (h : ∀ c ∈ calls, c.owner? ≠ some owner) (o : Overrides) :
    (calls.foldl Call.changeOverrides o).set owner none
      = calls.foldl Call.changeOverrides (o.set owner none) := by
  induction calls generalizing o with
  | nil => rfl
  | cons c rest ih =>
    have hc : (Call.changeOverrides o c).set owner none
        = Call.changeOverrides (o.set owner none) c := by
      cases hoverride : c.isOverride with
      | false => rw [changeOverrides_of_not _ hoverride, changeOverrides_of_not _ hoverride]
      | true =>
        obtain ⟨other, hother⟩ := Option.isSome_iff_exists.mp hoverride
        cases c with
        | complete generation outcome => cases hother
        | dispatch command =>
          cases command with
          | setLayer layer => cases hother
          | requestFetch range => cases hother
          | writeFeatures features => cases hother
          | deleteFeatures ids => cases hother
          | override name value =>
            refine Overrides.set_set_none ?_ o value
            rintro rfl
            exact h _ List.mem_cons_self rfl
    rw [List.foldl_cons, List.foldl_cons, ih (fun c' hc' ↦ h c' (List.mem_cons_of_mem _ hc')), hc]

/-- An override that is set and removed again leaves the state as it would be without. -/
theorem run_set_and_removed (s : ComputeState) {owner : String} (value : Json) {between : List Call}
    (hnew : owner ∉ s.overrides.owners) (hothers : ∀ c ∈ between, c.owner? ≠ some owner) :
    s.run (.dispatch (.override owner (some value)) :: between ++
        [.dispatch (.override owner none)]) = s.run between := by
  have hset : s.run (.dispatch (.override owner (some value)) :: between)
      = { s.run between with
          overrides := between.foldl Call.changeOverrides (s.overrides.set owner (some value)) } :=
    run_withOverrides s _ between
  have hremoved : (between.foldl Call.changeOverrides
      (s.overrides.set owner (some value))).set owner none = (s.run between).overrides := by
    rw [foldl_changeOverrides_set_none hothers, Overrides.set_some_set_none,
      Overrides.set_none_of_not_mem hnew, overrides_run]
  rw [run_append, hset]
  exact congrArg (fun o ↦ { s.run between with overrides := o }) hremoved

/-- Other overrides change the view in the appearances of features alone. -/
theorem plain_view?_withOverrides (s : ComputeState) (o : Overrides)
    (held : Option (List Feature)) :
    ({ s with overrides := o }.view? held).map LayerView.plain
      = (s.view? held).map LayerView.plain := by
  cases hlayer : s.layer <;> simp [view?, hlayer, LayerView.plain]

/-- Overrides and the computation do not interfere. Without the overriding calls, all others give
back what they gave back, and the state differs in the overrides alone; the overriding calls alone
lead to the same overrides; the view depends on the overrides in the appearances of features alone;
and an override that an owner without one sets and removes again leaves the view as it would be
without, whatever happens in between. -/
theorem overrides_apart (s : ComputeState) (calls : List Call) :
    let others := calls.filter fun c ↦ !c.isOverride
    (s.trace calls).filter (fun e ↦ !e.1.isOverride) = s.trace others ∧
    s.run calls = { s.run others with overrides := (s.run calls).overrides } ∧
    (s.run (calls.filter Call.isOverride)).overrides = (s.run calls).overrides ∧
    (∀ held, ((s.run calls).view? held).map LayerView.plain
      = ((s.run others).view? held).map LayerView.plain) ∧
    ∀ owner value between, owner ∉ (s.run calls).overrides.owners →
      (∀ c ∈ between, c.owner? ≠ some owner) → ∀ held,
      (s.run (calls ++ (.dispatch (.override owner (some value)) :: between ++
        [.dispatch (.override owner none)]))).view? held
          = (s.run (calls ++ between)).view? held := by
  intro others
  have hrun : s.run calls = { s.run others with overrides := (s.run calls).overrides } := by
    rw [overrides_run]
    exact s.run_eq_run_filter calls
  refine ⟨s.filter_trace calls, hrun, ?_, fun held ↦ ?_,
    fun owner value between hnew hothers held ↦ ?_⟩
  · rw [overrides_run, overrides_run, foldl_changeOverrides_filter]
  · rw [hrun]
    exact plain_view?_withOverrides _ _ held
  · rw [s.run_append calls, s.run_append calls, run_set_and_removed _ value hnew hothers]

/-- A layer is set under an override. -/
def pinned : List Call :=
  [.dispatch (.override "pin" (some (.object [("marker", .object [("show", .bool true)])]))),
    .dispatch (.setLayer (some (.simple { id := "A", data := some { format := "geojson" } })))]

/-- The evaluation comes back, and two owners change their places among the overrides. -/
def rearranged : List Call :=
  [.dispatch (.override "" (some (.object []))),
    .complete 1 (.ok (some
      { layer := {}, features := [{ feature := { id := "a" }, appearances := {} }] })),
    .dispatch (.override "pin" (some (.object [])))]

theorem overrides_apart_rearranged :
    "hover" ∉ (run {} pinned).overrides.owners ∧ (∀ c ∈ rearranged, c.owner? ≠ some "hover") ∧
    (run {} (pinned ++ (.dispatch (.override "hover" (some (.object [("marker", .null)]))) ::
      rearranged ++ [.dispatch (.override "hover" none)]))).view? (some [{ id := "a" }])
        = (run {} (pinned ++ rearranged)).view? (some [{ id := "a" }]) := by
  have hnew : "hover" ∉ (run {} pinned).overrides.owners := by decide
  have hothers : ∀ c ∈ rearranged, c.owner? ≠ some "hover" := by decide
  exact ⟨hnew, hothers,
    (overrides_apart {} pinned).2.2.2.2 "hover" _ rearranged hnew hothers _⟩

end ComputeState

end MapStyle
