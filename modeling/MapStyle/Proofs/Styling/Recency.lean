import Mathlib
import MapStyle.Proofs.Recent
import MapStyle.Styling.Memo

/-!
# What a memory holds

The past calls on a memory tell what it holds. References and expressions are looked up and stored
in one call, so that what is answered is a function of the text alone. A result is found if it is
still held, and is then the one that was stored last under its key. Each of the three tables holds
the latest uses of different keys since it was cleared, as many as it has room for.
-/

namespace MapStyle.Memo

/-! ## Calls -/

inductive Call where
  | references (source : String)
  | styleReferences (e : StyleExpression)
  | program (source : String)
  | result (key : String)
  | remember (key : String) (value : Value)
  | clearReferences
  | clear

/-- What a memory replies to a call. -/
inductive Reply where
  | references (references : List String)
  | program (e : Except Expr.Fault Expr)
  | result (found : Option Value)
  | done

def Call.reply : Call → StateM Memo Reply
  | references source => .references <$> onReferences (textReferences source)
  | styleReferences e => .references <$> onReferences (Memo.styleReferences e)
  | program source => .program <$> onPrograms (Memo.program source)
  | result key => .result <$> result? key
  | remember key value => (fun _ ↦ .done) <$> Memo.remember key value
  | clearReferences => (fun _ ↦ .done) <$> onReferences (modify Recent.clear)
  | clear => (fun _ ↦ .done) <$> modify Memo.clear

/-- A call and the reply to it. -/
structure Event where
  call : Call
  reply : Reply

/-- What has happened after some calls on a new memory, the latest first, and the memory then. -/
def run (config : Config) (calls : List Call) : List Event × Memo :=
  calls.foldl (fun (past, memo) call ↦
    let (reply, memo) := call.reply memo
    (⟨call, reply⟩ :: past, memo)) ([], empty config)

/-! ## What the past tells -/

def Call.sources : Call → List String
  | references source => [source]
  | styleReferences e => e.texts
  | _ => []

/-- The uses of references since they were cleared, the latest first: every text that was looked
up. -/
def referenceUses : List Event → List (String × List String)
  | [] => []
  | ⟨.clear, _⟩ :: _ => []
  | ⟨.clearReferences, _⟩ :: _ => []
  | ⟨call, _⟩ :: past =>
    (call.sources.map fun s ↦ (s, Placeholder.references s)).reverse ++ referenceUses past

/-- The uses of expressions since they were cleared, the latest first: every text that was looked up
and denotes one. -/
def programUses : List Event → List (String × Expr)
  | [] => []
  | ⟨.clear, _⟩ :: _ => []
  | ⟨.program source, _⟩ :: past =>
    match Styling.read source with
    | .ok e => (source, e) :: programUses past
    | .error _ => programUses past
  | _ :: past => programUses past

/-- The uses of results since they were cleared, the latest first: every result that was stored or
found. -/
def resultUses : List Event → List (String × Value)
  | [] => []
  | ⟨.clear, _⟩ :: _ => []
  | ⟨.remember key value, _⟩ :: past => (key, value) :: resultUses past
  | ⟨.result key, .result (some value)⟩ :: past => (key, value) :: resultUses past
  | _ :: past => resultUses past

/-- The result that was stored last under a key since results were cleared. -/
def lastStored? (key : String) : List Event → Option Value
  | [] => none
  | ⟨.clear, _⟩ :: _ => none
  | ⟨.remember k value, _⟩ :: past => if k = key then some value else lastStored? key past
  | _ :: past => lastStored? key past

/-- The memory whose tables hold the latest uses of different keys, as many as each has room for. -/
def ofPast (config : Config) (past : List Event) : Memo where
  references := .ofUses config.referenceCapacity (referenceUses past)
  programs := .ofUses config.programCapacity (programUses past)
  results := .ofUses config.resultCapacity (resultUses past)

/-- The reply that the past tells. References and expressions do not depend on it; a result is found
if its key is among the latest uses, and is then the one that was stored last. -/
def Call.replyAfter (config : Config) (past : List Event) : Call → Reply
  | references source => .references (Placeholder.references source)
  | styleReferences e => .references (e.texts.flatMap Placeholder.references)
  | program source => .program (Styling.read source)
  | result key =>
    .result (if key ∈ (ofPast config past).results.keys then lastStored? key past else none)
  | remember .. => .done
  | clearReferences => .done
  | clear => .done

/-- Calls with the replies that the past of each of them tells, the latest first. -/
def history (config : Config) (calls : List Call) : List Event :=
  calls.foldl (fun past call ↦ ⟨call, call.replyAfter config past⟩ :: past) []

variable {config : Config} {past : List Event}

theorem run_concat (config : Config) (calls : List Call) (call : Call) :
    run config (calls ++ [call])
      = (⟨call, (call.reply (run config calls).2).1⟩ :: (run config calls).1,
        (call.reply (run config calls).2).2) := by
  rw [run, List.foldl_append]
  rfl

theorem history_concat (config : Config) (calls : List Call) (call : Call) :
    history config (calls ++ [call])
      = ⟨call, call.replyAfter config (history config calls)⟩ :: history config calls := by
  rw [history, List.foldl_append]
  rfl

/-! ## References -/

/-- What was once stored for a text are its references. -/
theorem references_of_mem_referenceUses {use : String × List String}
    (h : use ∈ referenceUses past) : use.2 = Placeholder.references use.1 := by
  fun_induction referenceUses past with
  | case1 | case2 | case3 => cases h
  | case4 call _ past _ _ ih =>
    rcases List.mem_append.mp h with hcall | hpast
    · obtain ⟨source, -, rfl⟩ := List.mem_map.mp (List.mem_reverse.mp hcall)
      rfl
    · exact ih hpast

/-- The references of a text are found or stored, and either is a use. -/
theorem textReferences_ofUses {uses : List (String × List String)}
    (h : ∀ use ∈ uses, use.2 = Placeholder.references use.1) (capacity : Nat) (source : String) :
    textReferences source (.ofUses capacity uses)
      = (Placeholder.references source,
        .ofUses capacity ((source, Placeholder.references source) :: uses)) := by
  rw [textReferences]
  cases hfound : (Recent.ofUses capacity uses).find? source with
  | none =>
    rw [Recent.get_of_none hfound]
    exact congrArg (Prod.mk _) (Recent.put_ofUses ..)
  | some references =>
    have hvalue : references = Placeholder.references source :=
      h _ (Recent.mem_of_find?_ofUses hfound)
    rw [Recent.get_ofUses_of_some hfound, hvalue]

/-- The texts of a style are used in their order. -/
theorem allReferences_ofUses {uses : List (String × List String)}
    (h : ∀ use ∈ uses, use.2 = Placeholder.references use.1) (capacity : Nat)
    (sources : List String) :
    allReferences sources (.ofUses capacity uses)
      = (sources.flatMap Placeholder.references, .ofUses capacity
        ((sources.map fun s ↦ (s, Placeholder.references s)).reverse ++ uses)) := by
  induction sources generalizing uses with
  | nil => rfl
  | cons source rest ih =>
    have hfirst : ∀ use ∈ (source, Placeholder.references source) :: uses,
        use.2 = Placeholder.references use.1 := List.forall_mem_cons.mpr ⟨rfl, h⟩
    have hbind : allReferences (source :: rest) (.ofUses capacity uses)
        = ((textReferences source (.ofUses capacity uses)).1
            ++ (allReferences rest (textReferences source (.ofUses capacity uses)).2).1,
          (allReferences rest (textReferences source (.ofUses capacity uses)).2).2) := rfl
    rw [hbind, textReferences_ofUses h, ih hfirst]
    simp

/-! ## Expressions -/

/-- Only texts that can be read were stored. -/
theorem read_of_mem_programUses {use : String × Expr} (h : use ∈ programUses past) :
    Styling.read use.1 = .ok use.2 := by
  fun_induction programUses past with
  | case1 | case2 => cases h
  | case3 source _ past e hread ih =>
    rcases List.mem_cons.mp h with rfl | hpast
    · exact hread
    · exact ih hpast
  | case4 _ _ _ _ _ ih | case5 _ _ _ _ ih => exact ih h

/-- The expression that a text denotes is found or stored, and either is a use. -/
theorem program_ofUses_of_ok {uses : List (String × Expr)}
    (h : ∀ use ∈ uses, Styling.read use.1 = .ok use.2) (capacity : Nat) {source : String} {e : Expr}
    (hread : Styling.read source = .ok e) :
    program source (.ofUses capacity uses) = (.ok e, .ofUses capacity ((source, e) :: uses)) := by
  rw [program]
  cases hfound : (Recent.ofUses capacity uses).find? source with
  | none =>
    rw [Recent.get_of_none hfound]
    simp only [hread, Recent.put_ofUses]
  | some found =>
    have hvalue : Except.ok found = Except.ok e :=
      (h _ (Recent.mem_of_find?_ofUses hfound)).symm.trans hread
    cases hvalue
    rw [Recent.get_ofUses_of_some hfound]

/-- A text that denotes no expression is neither found nor stored. -/
theorem program_ofUses_of_error {uses : List (String × Expr)}
    (h : ∀ use ∈ uses, Styling.read use.1 = .ok use.2) (capacity : Nat) {source : String}
    {fault : Expr.Fault} (hread : Styling.read source = .error fault) :
    program source (.ofUses capacity uses) = (.error fault, .ofUses capacity uses) := by
  have hfound : (Recent.ofUses capacity uses).find? source = none := by
    refine Option.eq_none_iff_forall_ne_some.mpr fun e hfound ↦ ?_
    have hvalue := h _ (Recent.mem_of_find?_ofUses hfound)
    rw [hread] at hvalue
    contradiction
  rw [program, Recent.get_of_none hfound]
  simp only [hread]

/-! ## Results -/

/-- What was used last under a key is what was stored last under it. -/
theorem lookup_resultUses (config : Config) (calls : List Call) (key : String) :
    (resultUses (history config calls)).lookup key = lastStored? key (history config calls) := by
  induction calls using List.reverseRecOn with
  | nil => rfl
  | append_singleton calls call ih =>
    rw [history_concat]
    cases call with
    | clear => rfl
    | references | styleReferences | program | clearReferences => exact ih
    | remember k value =>
      rw [resultUses, lastStored?, List.lookup_cons]
      by_cases hkey : key = k
      · rw [beq_iff_eq.mpr hkey, if_pos hkey.symm]
      · rw [beq_false_of_ne hkey, if_neg (Ne.symm hkey), ih]
    | result k =>
      simp only [Call.replyAfter, lastStored?]
      cases hfound : if k ∈ (ofPast config (history config calls)).results.keys
        then lastStored? k (history config calls) else none with
      | none => exact ih
      | some value =>
        rw [Option.ite_none_right_eq_some] at hfound
        rw [resultUses, List.lookup_cons]
        by_cases hkey : key = k
        · rw [beq_iff_eq.mpr hkey, hkey, hfound.2]
        · rw [beq_false_of_ne hkey, ih]

/-! ## The whole memory -/

theorem map_onReferences {α β : Type} (f : α → β) (act : StateM (Recent (List String)) α)
    (memo : Memo) :
    (f <$> onReferences act) memo
      = (f (act memo.references).1, { memo with references := (act memo.references).2 }) := rfl

theorem map_onPrograms {α β : Type} (f : α → β) (act : StateM (Recent Expr) α) (memo : Memo) :
    (f <$> onPrograms act) memo
      = (f (act memo.programs).1, { memo with programs := (act memo.programs).2 }) := rfl

theorem references_ofPast :
    (ofPast config past).references = .ofUses config.referenceCapacity (referenceUses past) := rfl

theorem programs_ofPast :
    (ofPast config past).programs = .ofUses config.programCapacity (programUses past) := rfl

theorem results_ofPast :
    (ofPast config past).results = .ofUses config.resultCapacity (resultUses past) := rfl

/-- A text that denotes no expression leaves the memory as it is. -/
theorem reply_program_of_error {source : String} {fault : Expr.Fault}
    (hread : Styling.read source = .error fault) :
    (Call.program source).reply (ofPast config past)
      = (.program (.error fault), ofPast config past) := by
  rw [Call.reply, map_onPrograms, programs_ofPast,
    program_ofUses_of_error (fun _ ↦ read_of_mem_programUses) _ hread]
  rfl

/-- A call on the memory that the past tells is replied to as the past tells, and leaves the memory
that the past tells together with the call. -/
theorem reply_ofPast (h : ∀ key, (resultUses past).lookup key = lastStored? key past)
    (call : Call) :
    call.reply (ofPast config past)
      = (call.replyAfter config past,
        ofPast config (⟨call, call.replyAfter config past⟩ :: past)) := by
  cases call with
  | clear =>
    have hclear : (ofPast config past).clear = ofPast config (⟨.clear, .done⟩ :: past) := by
      simp [Memo.clear, ofPast, referenceUses, programUses, resultUses]
    exact congrArg (Prod.mk Reply.done) hclear
  | clearReferences =>
    have hclear : { ofPast config past with references := (ofPast config past).references.clear }
        = ofPast config (⟨.clearReferences, .done⟩ :: past) := by
      simp [ofPast, referenceUses, programUses, resultUses]
    exact congrArg (Prod.mk Reply.done) hclear
  | references source =>
    rw [Call.reply, map_onReferences, references_ofPast,
      textReferences_ofUses fun _ ↦ references_of_mem_referenceUses]
    rfl
  | styleReferences e =>
    rw [Call.reply, map_onReferences, references_ofPast, Memo.styleReferences,
      allReferences_ofUses fun _ ↦ references_of_mem_referenceUses]
    rfl
  | program source =>
    cases hread : Styling.read source with
    | ok e =>
      rw [Call.reply, map_onPrograms, programs_ofPast,
        program_ofUses_of_ok (fun _ ↦ read_of_mem_programUses) _ hread]
      simp [Call.replyAfter, ofPast, programUses, hread, referenceUses, resultUses, Call.sources]
    | error fault =>
      rw [reply_program_of_error hread]
      simp [Call.replyAfter, ofPast, programUses, hread, referenceUses, resultUses, Call.sources]
  | remember key value =>
    have hput := Recent.put_ofUses config.resultCapacity (resultUses past) key value
    exact congrArg (fun results ↦ (Reply.done, { ofPast config past with results })) hput
  | result key =>
    have hfind : (Call.result key).replyAfter config past
        = .result ((ofPast config past).results.find? key) := by
      rw [results_ofPast, Recent.find?_ofUses, h]
      rfl
    have hreply : (Call.result key).reply (ofPast config past)
        = (.result ((ofPast config past).results.get key).1,
          { ofPast config past with results := ((ofPast config past).results.get key).2 }) := rfl
    rw [hfind, hreply]
    cases hfound : (ofPast config past).results.find? key with
    | none =>
      rw [Recent.get_of_none hfound]
      rfl
    | some value =>
      rw [results_ofPast, Recent.get_ofUses_of_some hfound]
      rfl

/-- After any calls, each call was replied to as the calls before it tell, and the memory is the one
that they tell. A text that denotes no expression then leaves the memory as it is. -/
theorem run_eq_history (config : Config) (calls : List Call) :
    run config calls = (history config calls, ofPast config (history config calls)) ∧
      ∀ source fault, Styling.read source = .error fault →
        (Call.program source).reply (run config calls).2
          = (.program (.error fault), (run config calls).2) := by
  have hrun : run config calls = (history config calls, ofPast config (history config calls)) := by
    induction calls using List.reverseRecOn with
    | nil => simp [run, history, ofPast, empty, referenceUses, programUses, resultUses]
    | append_singleton calls call ih =>
      rw [run_concat, history_concat, ih, reply_ofPast (lookup_resultUses config calls)]
  refine ⟨hrun, fun source fault hread ↦ ?_⟩
  rw [hrun]
  exact reply_program_of_error hread

/-- With room for two results, the one that was found is kept and the other one forgotten; with room
for one expression, a text that denotes none leaves it. A style looks up more texts than there is
room for. -/
theorem run_eq_history_unreadable :
    let config : Config := { referenceCapacity := 2, programCapacity := 0, resultCapacity := 2 }
    let calls : List Call := [.program "null", .program "null +", .remember "k" .null,
      .remember "l" (.bool true), .result "k", .remember "m" .undefined, .result "l",
      .styleReferences (.conditions [("${a}", "${b}"), ("${a}", "${c}")])]
    Styling.read "null +" = .error (.unreadable "null +") ∧
      (Call.program "null +").reply (run config calls).2
        = (.program (.error (.unreadable "null +")), (run config calls).2) ∧
      (run config calls).2.programs.keys = ["null"] ∧
      (run config calls).2.results.entries = [("m", .undefined), ("k", .null)] ∧
      (run config calls).2.references.entries = [("${c}", ["c"]), ("${a}", ["a"])] := by
  intro config calls
  have hrun := run_eq_history config calls
  have hread : Styling.read "null +" = .error (.unreadable "null +") := by cbv
  refine ⟨hread, hrun.2 _ _ hread, ?_⟩
  rw [hrun.1]
  refine ⟨?_, ?_, ?_⟩
  · cbv
  · cbv
  · cbv

end MapStyle.Memo
