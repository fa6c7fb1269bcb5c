import Mathlib
import WizardLogic.Proofs.Descriptor.Asked

/-!
# Engines that interpret a document alike

Of an engine a run depends on three things: on the rules that it has for the descriptors that stand
in the document, on the remote actions that it calls, and on the names of the remote actions that
there are. So two engines that have these in common (`Engine.ReadsAlike`) interpret the document
alike (`Engine.alike_of_involves`): contexts come to the same, conditions hold in the same states, and
actions and blocks are the same runs, in all that they return, note, send and change.

The proof follows what descriptors ask for. A descriptor is interpreted alike if all that it asks
for is (`Engine.alike_of_asks`), because its rule sees of the rest of the document only the services
that it asked for.
-/

namespace WizardLogic.Engine

variable {en en' : Engine} {F : Footprint}

/-! ### What engines may have in common -/

/-- Two engines have the same rule for a descriptor. -/
def SameRule (en en' : Engine) : Descriptor → Prop
  | ⟨.one .context, d⟩ => en.contextRule d = en'.contextRule d
  | ⟨.one .condition, c⟩ => en.conditionRule? c = en'.conditionRule? c
  | ⟨.one .action, d⟩ => en.actionRule? d = en'.actionRule? d
  | ⟨.one .block, b⟩ => en.blockRule? b = en'.blockRule? b
  | ⟨.listed _, _⟩ => True

/-- Whether the rule for a descriptor may look at more of the wizard than the names of its remote
actions: it calls one of them, or it is a custom rule. -/
def LooksOut (en : Engine) : Descriptor → Prop
  | ⟨.one .context, d⟩ => en.contextRule d = .ok .remoteAction ∨
      ∃ handler, en.contextRule d = .ok (.custom handler)
  | ⟨.one .condition, c⟩ => ∃ key, en.conditionRule? c = some (key, .remote) ∨
      ∃ handler, en.conditionRule? c = some (key, .custom handler)
  | ⟨.one .action, d⟩ => ∃ type handler, en.actionRule? d = some (type, .custom handler)
  | ⟨.one .block, b⟩ => ∃ handler, en.blockRule? b = some (.custom handler)
  | ⟨.listed _, _⟩ => False

/-- **Two engines read a descriptor alike**: they have the same rule for it, and the same wizard and
the same way of calling its remote actions if the rule may look at these. -/
structure ReadsAlike (en en' : Engine) (x : Descriptor) : Prop where
  rule : en.SameRule en' x
  outside : en.LooksOut x → en.wizard = en'.wizard ∧ en.userAgent = en'.userAgent

/-- The wizards of two engines declare remote actions with the same names. -/
def SameRemoteNames (en en' : Engine) : Prop :=
  ∀ name, (en.wizard.remoteAction? name).isNone = (en'.wizard.remoteAction? name).isNone

/-- **Two engines interpret a descriptor alike.** -/
def Alike (en en' : Engine) : Descriptor → Prop
  | ⟨.one .context, d⟩ => ∀ s, en.resolve s d = en'.resolve s d
  | ⟨.listed .context, v⟩ => ∀ s, en.resolveAll s v = en'.resolveAll s v
  | ⟨.one .condition, c⟩ => ∀ s, en.evaluate s c = en'.evaluate s c
  | ⟨.listed .condition, v⟩ => ∀ s whole, en.evaluateList s whole v = en'.evaluateList s whole v
  | ⟨.one .action, d⟩ => en.runAction d = en'.runAction d
  | ⟨.listed .action, v⟩ => en.runActions v = en'.runActions v
  | ⟨.one .block, b⟩ => en.runBlock b = en'.runBlock b
  | ⟨.listed .block, v⟩ => en.runBlocks v = en'.runBlocks v

/-! ### Services -/

/-- The services for an object agree on what is interpreted alike. -/
theorem services_agreeOn {es : Entries Value} {asked : Asking}
    (h : ∀ role step p, (role, step :: p) ∈ asked →
      en.Alike en' ⟨role, (Value.obj es).part (step :: p)⟩) :
    (en.services es).AgreeOn asked (en'.services es) := by
  rw [services, services]
  -- Nothing is asked of the object itself: there both engines fail.
  refine ⟨fun p hp s => ?_, fun p hp s => ?_, fun p hp s => ?_⟩ <;> cases p with
  | nil => rfl
  | cons step p => exact h _ step p hp s

theorem wizard_services (es : Entries Value) : (en.services es).wizard = en.wizard := by
  rw [services]

theorem operandServices_agreeOn {v : Value} {asked : Asking}
    (h : ∀ role p, (role, p) ∈ asked → en.Alike en' ⟨role, v.part p⟩) :
    (en.operandServices v).AgreeOn asked (en'.operandServices v) := by
  rw [operandServices, operandServices]
  exact ⟨fun p hp => h _ p hp, fun p hp => h _ p hp, fun p hp => h _ p hp⟩

theorem wizard_operandServices (v : Value) : (en.operandServices v).wizard = en.wizard := by
  rw [operandServices]

theorem runServices_agreeOn {es : Entries Value} {asked : Asking}
    (h : ∀ role step p, (role, step :: p) ∈ asked →
      en.Alike en' ⟨role, (Value.obj es).part (step :: p)⟩) :
    (en.runServices es).AgreeOn asked (en'.runServices es) := by
  have hservices := services_agreeOn h
  rw [runServices, runServices]
  refine ⟨hservices, fun p hp => ?_, fun p hp => ?_, fun p hp => ?_, fun p hp => ?_⟩ <;>
    cases p with
    | nil => rfl
    | cons step p =>
      have halike := h _ step p hp
      dsimp only [Alike] at halike ⊢
      rw [halike]

theorem wizard_runServices (es : Entries Value) : (en.runServices es).wizard = en.wizard := by
  rw [runServices]
  exact wizard_services es

/-! ### Contexts -/

/-- A call looks at the wizard and at how requests introduce themselves. -/
theorem callRemote_congr (hwizard : en.wizard = en'.wizard)
    (hagent : en.userAgent = en'.userAgent) (name : Value) (contexts : Entries Value) :
    en.callRemote name contexts = en'.callRemote name contexts := by
  rw [callRemote, callRemote, hwizard, hagent]

/-- Every rule of a context asks for the contexts nested in it. -/
theorem listed_contexts_mem_asks (rule : ContextRule) (d : Value) :
    (Role.listed .context, ("contexts" : PartPath)) ∈ rule.asks F d := by
  cases rule <;> simp [ContextRule.asks]

theorem alike_context (hF : F.Covers en.registry) {d : Value}
    (hreads : en.ReadsAlike en' (.context d))
    (hasked : ∀ y, en.Asks F (.context d) y → en.Alike en' y) : en.Alike en' (.context d) := by
  intro s
  have hsame : en.contextRule d = en'.contextRule d := hreads.rule
  rw [resolve_eq, resolve_eq, ← hsame]
  cases hrule : en.contextRule d with
  | error e => rfl
  | ok rule =>
    obtain ⟨es, rfl⟩ := exists_eq_obj_of_contextRule hrule
    have hparts : ∀ role step p, (role, step :: p) ∈ rule.asks F (.obj es) →
        en.Alike en' ⟨role, (Value.obj es).part (step :: p)⟩ :=
      fun role step p hp => hasked _ (.context hrule hp)
    -- What the nested contexts come to is the same, so it remains to compare the rule at work.
    have hbindings : en.resolveAll s ((Value.obj es).field "contexts") =
        en'.resolveAll s ((Value.obj es).field "contexts") :=
      hparts _ _ _ (listed_contexts_mem_asks rule _) s
    dsimp only
    rw [hbindings]
    refine bind_congr fun bindings => ?_
    cases rule with
    | remoteAction =>
      obtain ⟨hwizard, hagent⟩ := hreads.outside (.inl hrule)
      rw [resolveByRule, resolveByRule]
      simp only [callRemote_congr hwizard hagent]
    | custom handler =>
      obtain ⟨hwizard, -⟩ := hreads.outside (.inr ⟨handler, hrule⟩)
      obtain ⟨type, -, hmem⟩ := exists_type_of_contextRule hrule
      have hagree : (en.services es).AgreeOn (F.context handler (.obj es)) (en'.services es) :=
        services_agreeOn fun role step p hp => hparts role step p (.inr hp)
      have hhandler := hF.context hmem (by rw [wizard_services, wizard_services, hwizard]) hagree
      exact congrFun (hhandler _) bindings
    -- No other rule looks at anything but the descriptor and the state.
    | _ => rw [resolveByRule.eq_def, resolveByRule.eq_def]

theorem alike_contexts {v : Value} (hasked : ∀ y, en.Asks F (.contexts v) y → en.Alike en' y) :
    en.Alike en' (.contexts v) := by
  intro s
  by_cases hlist : ∃ items, v = .list items
  · obtain ⟨items, rfl⟩ := hlist
    have hmembers : ∀ d ∈ items, en.resolve s d = en'.resolve s d :=
      fun d hd => hasked (.context d) (.member hd) s
    have hkeyed : items.mapM (en.resolveKeyed s) = items.mapM (en'.resolveKeyed s) := by
      clear hasked
      induction items with
      | nil => rw [List.mapM_nil, List.mapM_nil]
      | cons d rest ih =>
        obtain ⟨hd, hrest⟩ := List.forall_mem_cons.mp hmembers
        rw [List.mapM_cons, List.mapM_cons, ih hrest, resolveKeyed, resolveKeyed, hd]
    rw [resolveAll_list, resolveAll_list, hkeyed]
  · have hne : ∀ items, v ≠ .list items := fun items hv => hlist ⟨items, hv⟩
    rw [resolveAll_of_ne_list s hne, resolveAll_of_ne_list s hne]

/-! ### Conditions -/

theorem evaluate_obj (s : State) (es : Entries Value) :
    en.evaluate s (.obj es) = match en.conditionRule? (.obj es) with
      | none => pure false
      | some (key, rule) => en.evaluateByRule s ((Value.obj es).field key) rule := by
  rw [evaluate]
  rfl

/-- Two names of remote actions are missing alike. -/
theorem SameRemoteNames.remoteActionOf? (h : en.SameRemoteNames en') (name : Value) :
    (en.wizard.remoteActionOf? name).isNone = (en'.wizard.remoteActionOf? name).isNone := by
  cases name with
  | str name => exact h name
  | _ => rfl

theorem evaluateByRule_congr {operand : Value} {rule : ConditionRule}
    (hparts : ∀ role p, (role, p) ∈ rule.asks F operand → en.Alike en' ⟨role, operand.part p⟩)
    (hremote : rule = .remote → en.wizard = en'.wizard ∧ en.userAgent = en'.userAgent)
    (hcustom : ∀ handler, rule = .custom handler → ∀ s,
      handler (en.operandServices operand) s operand =
        handler (en'.operandServices operand) s operand) (s : State) :
    en.evaluateByRule s operand rule = en'.evaluateByRule s operand rule := by
  have hagree := operandServices_agreeOn hparts
  rw [evaluateByRule.eq_def, evaluateByRule.eq_def]
  cases rule with
  | isEmpty =>
    have hcontext := hagree.resolve_eq "context" (by simp [ConditionRule.asks]) s
    simp only [Services.evaluateIsEmpty, Services.subject, Services.resolveValue, hcontext]
  | matchesRegex =>
    have hcontext := hagree.resolve_eq "context" (by simp [ConditionRule.asks]) s
    simp only [Services.evaluateMatches, Services.subject, Services.resolveValue, hcontext]
  | equals =>
    have hcontext := hagree.resolve_eq "context" (by simp [ConditionRule.asks]) s
    have hvalue := hagree.resolve_eq "value" (by simp [ConditionRule.asks]) s
    simp only [Services.evaluateEquals, Services.leftSide, Services.rightSide,
      Services.resolveValue, hcontext, hvalue]
  | lessThan | moreThan =>
    have hcontext := hagree.resolve_eq "context" (by simp [ConditionRule.asks]) s
    have hvalue := hagree.resolve_eq "value" (by simp [ConditionRule.asks]) s
    simp only [Services.evaluateOrder, Services.numberSides, Services.leftSide,
      Services.rightSide, Services.resolveValue, hcontext, hvalue]
  | all => exact hparts (.listed .condition) [] (by simp [ConditionRule.asks]) s true
  | any => exact hparts (.listed .condition) [] (by simp [ConditionRule.asks]) s false
  | negation =>
    have hnegated : en.evaluate s operand = en'.evaluate s operand :=
      hparts (.one .condition) [] (by simp [ConditionRule.asks]) s
    simp only [hnegated]
  | remote =>
    obtain ⟨hwizard, hagent⟩ := hremote rfl
    have hcontexts := hagree.resolveAll_eq (remoteContextsField operand)
      (by simp [ConditionRule.asks]) s
    simp only [evaluateRemote, hcontexts, callRemote_congr hwizard hagent, hwizard]
  | context =>
    have hcontext := hagree.resolve_eq [] (by simp [ConditionRule.asks]) s
    simp only [Services.evaluateContext, Services.resolveValue, hcontext]
  | custom handler => exact hcustom handler rfl s

theorem alike_condition (hF : F.Covers en.registry) {c : Value}
    (hreads : en.ReadsAlike en' (.condition c))
    (hasked : ∀ y, en.Asks F (.condition c) y → en.Alike en' y) :
    en.Alike en' (.condition c) := by
  intro s
  have hsame : en.conditionRule? c = en'.conditionRule? c := hreads.rule
  cases c with
  | obj es =>
    rw [evaluate_obj, evaluate_obj, ← hsame]
    cases hrule : en.conditionRule? (.obj es) with
    | none => rfl
    | some keyAndRule =>
      obtain ⟨key, rule⟩ := keyAndRule
      have hparts : ∀ role p, (role, p) ∈ rule.asks F ((Value.obj es).field key) →
          en.Alike en' ⟨role, ((Value.obj es).field key).part p⟩ :=
        fun role p hp => hasked _ (.condition hrule hp)
      refine evaluateByRule_congr hparts (fun hr => ?_) (fun handler hr t => ?_) s
      · exact hreads.outside ⟨key, .inl (hr ▸ hrule)⟩
      · subst hr
        obtain ⟨hwizard, -⟩ := hreads.outside ⟨key, .inr ⟨handler, hrule⟩⟩
        exact hF.condition (List.mem_of_find?_eq_some hrule)
          (by rw [wizard_operandServices, wizard_operandServices, hwizard])
          (operandServices_agreeOn hparts) t
  | _ => rw [evaluate.eq_def, evaluate.eq_def]

theorem alike_conditions {v : Value}
    (hasked : ∀ y, en.Asks F (.conditions v) y → en.Alike en' y) :
    en.Alike en' (.conditions v) := by
  intro s whole
  cases v with
  | list items =>
    rw [evaluateList, evaluateList]
    have hmembers : ∀ c ∈ items, en.evaluate s c = en'.evaluate s c :=
      fun c hc => hasked (.condition c) (.member hc) s
    clear hasked
    induction items with
    | nil => rw [evaluateItems, evaluateItems]
    | cons c rest ih =>
      obtain ⟨hc, hrest⟩ := List.forall_mem_cons.mp hmembers
      rw [evaluateItems, evaluateItems, hc, ih hrest]
  | _ => rw [evaluateList.eq_def, evaluateList.eq_def]

/-! ### Actions -/

section Payload

variable {d : Value} {s : State}

theorem renderOver_congr {text contexts : Value} (h : en.Alike en' (.contexts contexts)) :
    en.renderOver s text contexts = en'.renderOver s text contexts := by
  rw [renderOver, renderOver, h s]

theorem actionValue_congr (h : en.Alike en' (.context (d.field "context"))) :
    en.actionValue s d = en'.actionValue s d := by
  rw [actionValue, actionValue, h s]

theorem targetStep_congr (h : en.Alike en' (.context (d.field "stepName"))) :
    en.targetStep s d = en'.targetStep s d := by
  unfold targetStep
  cases hstep : d.field "stepName" with
  | obj es =>
    rw [hstep] at h
    dsimp only
    rw [resolveValue, resolveValue, h s]
  | _ => rfl

/-- **The payload of an action depends on the contexts that its rule asks for**, and on which remote
actions there are. -/
theorem payload_congr (hnames : en.SameRemoteNames en') {rule : ActionRule}
    (hparts : ∀ role step p, (role, step :: p) ∈ rule.asks F d →
      en.Alike en' ⟨role, d.part (step :: p)⟩) (s : State) :
    en.payload s d rule = en'.payload s d rule := by
  have hcontext (name : String) (h : (Role.one .context, (name : PartPath)) ∈ rule.asks F d) :
      en.Alike en' (.context (d.field name)) := hparts _ _ _ h
  have hcontexts (name : String) (h : (Role.listed .context, (name : PartPath)) ∈ rule.asks F d) :
      en.Alike en' (.contexts (d.field name)) := hparts _ _ _ h
  cases rule with
  | goToStep =>
    rw [payload, payload, targetStep_congr (hcontext "stepName" (by simp [ActionRule.asks]))]
  | updateComponent | setValue =>
    simp only [payload, renderedField,
      renderOver_congr (hcontexts "targetContexts" (by simp [ActionRule.asks])),
      actionValue_congr (hcontext "context" (by simp [ActionRule.asks]))]
  | addError =>
    simp only [payload, renderedField,
      renderOver_congr (hcontexts "fieldContexts" (by simp [ActionRule.asks])),
      renderOver_congr (hcontexts "contexts" (by simp [ActionRule.asks]))]
  | clearErrors =>
    simp only [payload, renderedField,
      renderOver_congr (hcontexts "fieldContexts" (by simp [ActionRule.asks]))]
  | consoleLog =>
    simp only [payload, renderOver_congr (hcontexts "contexts" (by simp [ActionRule.asks]))]
  | remoteUpdateComponent => simp only [payload, hnames.remoteActionOf?]
  | removeGroup =>
    simp only [payload, resolveValue, hcontext "groupIndex" (by simp [ActionRule.asks]) s]
  | _ => rfl

end Payload

theorem runByRule_congr (hnames : en.SameRemoteNames en') {d : Value} {rule : ActionRule}
    (hparts : ∀ role step p, (role, step :: p) ∈ rule.asks F d →
      en.Alike en' ⟨role, d.part (step :: p)⟩)
    (hcustom : ∀ handler, rule ≠ .custom handler) : en.runByRule d rule = en'.runByRule d rule := by
  by_cases hbind : rule = .setLocalContext
  · subst hbind
    have hvalue : en.Alike en' (.context (d.field "context")) :=
      hparts (.one .context) (.field "context") [] (by simp [ActionRule.asks])
    rw [runByRule_setLocalContext, runByRule_setLocalContext]
    simp only [runSetLocalContext, actionValue_congr hvalue]
  · rw [runByRule_eq_look hbind hcustom, runByRule_eq_look hbind hcustom]
    simp only [payload_congr hnames hparts]

theorem alike_action (hF : F.Covers en.registry) (hnames : en.SameRemoteNames en') {d : Value}
    (hreads : en.ReadsAlike en' (.action d))
    (hasked : ∀ y, en.Asks F (.action d) y → en.Alike en' y) : en.Alike en' (.action d) := by
  have hsame : en.actionRule? d = en'.actionRule? d := hreads.rule
  refine StateT.ext fun w => ?_
  cases hrule : en.actionRule? d with
  | none => rw [run_runAction_unknown hrule, run_runAction_unknown (hsame ▸ hrule)]
  | some typeAndRule =>
    obtain ⟨type, rule⟩ := typeAndRule
    obtain ⟨es, rfl⟩ := exists_eq_obj_of_actionRule? hrule
    have hparts : ∀ role step p, (role, step :: p) ∈ rule.asks F (.obj es) →
        en.Alike en' ⟨role, (Value.obj es).part (step :: p)⟩ :=
      fun role step p hp => hasked _ (.action hrule hp)
    -- A custom rule is compared through its services; a built-in one is opened.
    have hrun : en.runByRule (.obj es) rule = en'.runByRule (.obj es) rule := by
      by_cases hcustom : ∃ handler, rule = .custom handler
      · obtain ⟨handler, rfl⟩ := hcustom
        obtain ⟨hwizard, -⟩ := hreads.outside ⟨type, handler, hrule⟩
        rw [runByRule, runByRule]
        exact hF.action (Rules.mem_of_lookup (actionRule?_eq_some.mp hrule).2)
          (by rw [wizard_runServices, wizard_runServices, hwizard]) (runServices_agreeOn hparts)
      · exact runByRule_congr hnames hparts fun handler hr => hcustom ⟨handler, hr⟩
    rw [run_runAction_known hrule, run_runAction_known (hsame ▸ hrule), hrun]

theorem alike_actions {v : Value} (hasked : ∀ y, en.Asks F (.actions v) y → en.Alike en' y) :
    en.Alike en' (.actions v) := by
  change en.runActions v = en'.runActions v
  cases hv : siblingsOf v with
  | error f => rw [runActions_of_error hv, runActions_of_error hv]
  | ok items =>
    have hmembers : ∀ d ∈ items, en.runAction d = en'.runAction d :=
      fun d hd => hasked (.action d) (asks_sibling hv hd)
    rw [runActions_of_ok hv, runActions_of_ok hv]
    congr 1
    clear hasked hv
    induction items with
    | nil => rw [runEach, runEach]
    | cons d rest ih =>
      obtain ⟨hd, hrest⟩ := List.forall_mem_cons.mp hmembers
      rw [runEach, runEach, hd, ih hrest]

/-! ### Blocks -/

theorem passes_congr {b : Value} (h : en.Alike en' (.condition (b.field "conditions"))) :
    en.passes b = en'.passes b := by
  unfold passes
  simp only [h _]

theorem loopItems_congr {b : Value} (h : en.Alike en' (.context (b.field "context"))) :
    en.loopItems b = en'.loopItems b := by
  unfold loopItems resolveValue
  simp only [h _]

theorem loopBody_congr {b : Value} (hactions : en.Alike en' (.actions (b.field "actions")))
    (hblocks : en.Alike en' (.blocks (b.field "blocks"))) : en.loopBody b = en'.loopBody b := by
  change en.runActions _ = en'.runActions _ at hactions
  change en.runBlocks _ = en'.runBlocks _ at hblocks
  rw [loopBody, loopBody, hactions, hblocks]

theorem branchBody_congr {b : Value} (hactions : en.Alike en' (.actions (b.field "actions")))
    (hbranch : ∀ passed, en.Alike en' (.blocks (b.field (branchField passed)))) :
    en.branchBody b = en'.branchBody b := by
  change en.runActions _ = en'.runActions _ at hactions
  funext passed
  have hblocks : en.runBlocks _ = en'.runBlocks _ := hbranch passed
  rw [branchBody, branchBody, hactions, hblocks]

/-- The rule of a block is one of the vocabulary. -/
theorem exists_mem_of_blockRule? {b : Value} {rule : BlockRule} (h : en.blockRule? b = some rule) :
    ∃ tag, (tag, rule) ∈ en.registry.blocks := by
  unfold blockRule? at h
  split at h
  · exact ⟨_, Rules.mem_of_lookup h⟩
  · cases h

theorem alike_block (hF : F.Covers en.registry) {b : Value} (hreads : en.ReadsAlike en' (.block b))
    (hasked : ∀ y, en.Asks F (.block b) y → en.Alike en' y) : en.Alike en' (.block b) := by
  have hsame : en.blockRule? b = en'.blockRule? b := hreads.rule
  change en.runBlock b = en'.runBlock b
  cases b with
  | obj es =>
    have hpart (role : Role) (name : String)
        (h : (role, (name : PartPath)) ∈ BlockRule.asks F (.obj es) (en.blockRule? (.obj es))) :
        en.Alike en' ⟨role, (Value.obj es).field name⟩ := hasked _ (.block h)
    rw [runBlock_obj, runBlock_obj, ← hsame]
    rcases hrule : en.blockRule? (.obj es) with - | - | - | - | - | handler
    case none => exact hpart (.listed .action) "actions" (by simp [hrule, BlockRule.asks])
    case some.actions => exact hpart (.listed .action) "actions" (by simp [hrule, BlockRule.asks])
    case some.conditional =>
      have hpasses := passes_congr (hpart (.one .condition) "conditions"
        (by simp [hrule, BlockRule.asks]))
      have hbranch := branchBody_congr
        (hpart (.listed .action) "actions" (by simp [hrule, BlockRule.asks])) fun passed =>
        hpart (.listed .block) (branchField passed)
          (by cases passed <;> simp [hrule, BlockRule.asks, branchField])
      dsimp only
      rw [hpasses, hbranch]
    case some.forEach =>
      have hitems := loopItems_congr (hpart (.one .context) "context"
        (by simp [hrule, BlockRule.asks]))
      have hbody := loopBody_congr
        (hpart (.listed .action) "actions" (by simp [hrule, BlockRule.asks]))
        (hpart (.listed .block) "blocks" (by simp [hrule, BlockRule.asks]))
      dsimp only
      rw [hitems, hbody]
    case some.scheduleTask =>
      exact hpart (.listed .block) "blocks" (by simp [hrule, BlockRule.asks])
    case some.custom =>
      obtain ⟨hwizard, -⟩ := hreads.outside ⟨handler, hrule⟩
      obtain ⟨tag, hmem⟩ := exists_mem_of_blockRule? hrule
      refine hF.block hmem (by rw [wizard_runServices, wizard_runServices, hwizard]) ?_
      exact runServices_agreeOn fun role step p hp => hasked _ (.block (hrule ▸ hp))
  | _ => rw [runBlock_of_not_isObject rfl, runBlock_of_not_isObject rfl]

theorem alike_blocks {v : Value} (hasked : ∀ y, en.Asks F (.blocks v) y → en.Alike en' y) :
    en.Alike en' (.blocks v) := by
  change en.runBlocks v = en'.runBlocks v
  cases hv : siblingsOf v with
  | error f => rw [runBlocks_of_error hv, runBlocks_of_error hv]
  | ok items =>
    have hmembers : ∀ b ∈ items, en.runBlock b = en'.runBlock b :=
      fun b hb => hasked (.block b) (asks_sibling hv hb)
    rw [runBlocks_of_ok hv, runBlocks_of_ok hv]
    clear hasked hv
    induction items with
    | nil => rw [runBlockList_nil, runBlockList_nil]
    | cons b rest ih =>
      obtain ⟨hb, hrest⟩ := List.forall_mem_cons.mp hmembers
      rw [runBlockList_cons, runBlockList_cons, hb, ih hrest]

/-! ### Documents -/

/-- A descriptor that is read alike is interpreted alike, if all that it asks for is. -/
theorem alike_of_asks (hF : F.Covers en.registry) (hnames : en.SameRemoteNames en')
    {x : Descriptor} (hreads : en.ReadsAlike en' x)
    (hasked : ∀ y, en.Asks F x y → en.Alike en' y) : en.Alike en' x := by
  obtain ⟨⟨_ | _ | _ | _⟩ | ⟨_ | _ | _ | _⟩, v⟩ := x
  · exact alike_context hF hreads hasked
  · exact alike_condition hF hreads hasked
  · exact alike_action hF hnames hreads hasked
  · exact alike_block hF hreads hasked
  · exact alike_contexts hasked
  · exact alike_conditions hasked
  · exact alike_actions hasked
  · exact alike_blocks hasked

/-- **Engines that read alike all that a descriptor involves interpret it alike.** -/
theorem alike_of_involves (hF : F.Covers en.registry) (hnames : en.SameRemoteNames en')
    (x : Descriptor) (h : ∀ y, en.Involves F x y → en.ReadsAlike en' y) : en.Alike en' x := by
  induction x using asks_induction en F with
  | step x ih =>
    -- What is asked for by what is asked for is involved too.
    refine alike_of_asks hF hnames (h x .refl) fun y hy => ih y hy fun z hz => ?_
    exact h z (.head hy hz)

end WizardLogic.Engine
