import Mathlib
import WizardLogic.Proofs.Condition.Agreement
import WizardLogic.Proofs.Run.Deed

/-!
# Runs side by side

What effects side by side are for resolution and conditions, runs side by side are for actions and
blocks. Two worlds *match* (`World.Matches`) if their exchanges are related and their states differ
in what their local contexts hold only, and there by a relation under which equals show the same
value (`Holding.Likeness`). A run is related to another if from matching worlds they end alike and
leave matching worlds (`Run.Related`).

With the built-in vocabulary every action is related to itself (`Engine.matches_runAction`), since
all it reads are values that match and all it writes is a binding of holdings that match. So by
induction are lists of actions, blocks and events (`Engine.related_runActions`,
`Engine.related_runBlocks`, `Engine.related_dispatch`).
-/

namespace WizardLogic

variable {α β γ δ : Type}

/-! ### Worlds that match -/

/-- A way of comparing what names are bound to, in states with the same slices: equals show the same
value, and the running loops make no difference. -/
structure Holding.Likeness (A : Slices → Holding → Holding → Prop) : Prop where
  refl : ∀ σ h, A σ h h
  look_eq : ∀ {σ h h'}, A σ h h' → σ.look h = σ.look h'
  frames : ∀ {σ : Slices} {h h'}, A σ h h' → ∀ frames, A { σ with frames := frames } h h'

/-- Identity is the strictest likeness. -/
theorem Holding.likeness_eq : Holding.Likeness fun _ => Eq where
  refl _ _ := rfl
  look_eq h := congrArg _ h
  frames h _ := h

/-- Holdings compared by what they show. -/
def Holding.ShownAlike (σ : Slices) (h h' : Holding) : Prop := σ.look h = σ.look h'

/-- Two states match if they have the same slices, and local contexts that correspond. -/
structure State.Matches (A : Slices → Holding → Holding → Prop) (s t : State) : Prop where
  toSlices_eq : s.toSlices = t.toSlices
  localContexts : Entries.Corresponds (A s.toSlices) s.localContexts t.localContexts

/-- **Two worlds match** if their states do and their exchanges are related. -/
structure World.Matches (A : Slices → Holding → Holding → Prop) (R : Exchange → Exchange → Prop)
    (w w' : World) : Prop where
  state : w.state.Matches A w'.state
  exchange : R w.exchange w'.exchange

namespace State.Matches

variable {A : Slices → Holding → Holding → Prop} {s t : State}

/-- States that match with identity as likeness are the same. -/
theorem eq (h : s.Matches (fun _ => Eq) t) : s = t := by
  obtain ⟨slices, contexts⟩ := s
  obtain ⟨slices', contexts'⟩ := t
  obtain ⟨hslices, hcontexts⟩ := h
  have hentries : List.Forall₂ Eq contexts contexts' :=
    List.Forall₂.imp (fun _ _ he => Prod.ext he.1 he.2) hcontexts
  rw [List.forall₂_eq_eq_eq] at hentries
  rw [show slices = slices' from hslices, hentries]

theorem self (hA : Holding.Likeness A) (s : State) : s.Matches A s where
  toSlices_eq := rfl
  localContexts := List.forall₂_same.mpr fun _ _ => ⟨rfl, hA.refl _ _⟩

/-- States that match correspond for all contexts. -/
theorem corresponds (hA : Holding.Likeness A) (h : s.Matches A t) (reads : Value → Prop) :
    s.Corresponds (A s.toSlices) reads t where
  refl := hA.refl _
  look_eq hheld := (hA.look_eq hheld).trans (congrArg (Slices.look · _) h.toSlices_eq)
  groupIndex?_eq := congrArg Slices.groupIndex? h.toSlices_eq
  component_eq _ _ _ := by rw [h.toSlices_eq]
  frame_eq _ _ _ := by rw [h.toSlices_eq]
  local_rel _ _ _ _ _ k _ := h.localContexts.rel_get? k

/-- Binding what corresponds keeps states matching. -/
theorem bind (h : s.Matches A t) (k : Key) {held held' : Holding}
    (hheld : A s.toSlices held held') :
    (s.bind k held).Matches A (t.bind k held') :=
  ⟨h.toSlices_eq, h.localContexts.insert k hheld⟩

/-- The loops that run may change in both states alike. -/
theorem frames (hA : Holding.Likeness A) (h : s.Matches A t) (f : List Frame → List Frame) :
    State.Matches A { s with frames := f s.frames } { t with frames := f t.frames } where
  toSlices_eq := congrArg (fun σ : Slices => { σ with frames := f σ.frames }) h.toSlices_eq
  localContexts := List.Forall₂.imp (fun _ _ he => ⟨he.1, hA.frames he.2 _⟩) h.localContexts

end State.Matches

/-! ### Related runs -/

/-- **Related runs**: from matching worlds they end alike and leave matching worlds. -/
def Run.Related (A : Slices → Holding → Holding → Prop) (R : Exchange → Exchange → Prop)
    (B : α → β → Prop) (r : Run α) (r' : Run β) : Prop :=
  ∀ w w', World.Matches A R w w' →
    EndAlike B (r.runFrom w).1 (r'.runFrom w').1 ∧
      World.Matches A R (r.runFrom w).2 (r'.runFrom w').2

namespace Run.Related

variable {A : Slices → Holding → Holding → Prop} {R : Exchange → Exchange → Prop}
  {B : α → β → Prop} {C : γ → δ → Prop}

theorem pure {a : α} {b : β} (h : B a b) :
    Related A R B (Pure.pure a : Run α) (Pure.pure b : Run β) :=
  fun _ _ hw => ⟨.ok h, hw⟩

theorem throw (f : Failure) :
    Related A R B (MonadExcept.throw f : Run α) (MonadExcept.throw f : Run β) :=
  fun _ _ hw => ⟨.error f, hw⟩

/-- **A sequence of related parts is related.** -/
theorem bind {r : Run α} {r' : Run β} {k : α → Run γ} {l : β → Run δ} (hr : Related A R B r r')
    (hk : ∀ a b, B a b → Related A R C (k a) (l b)) : Related A R C (r >>= k) (r' >>= l) := by
  intro w w' hw
  obtain ⟨hend, hleft⟩ := hr w w' hw
  rcases hend.cases_pair hleft with ⟨a, b, v, v', ha, hb, hab, hv⟩ | ⟨f, v, v', hf, hf', hv⟩
  · rw [runFrom_bind_ok ha, runFrom_bind_ok hb]
    exact hk a b hab v v' hv
  · rw [runFrom_bind_error hf, runFrom_bind_error hf']
    exact ⟨.error f, hv⟩

theorem bind_eq {r r' : Run α} {k : α → Run γ} {l : α → Run δ} (hr : Related A R Eq r r')
    (hk : ∀ a, Related A R C (k a) (l a)) : Related A R C (r >>= k) (r' >>= l) := by
  refine hr.bind ?_
  rintro a _ rfl
  exact hk a

/-- Looks that are related in matching states are related. -/
theorem look {f : State → Effect α} {g : State → Effect β}
    (h : ∀ s t, s.Matches A t → Effect.Related R B (f s) (g t)) :
    Related A R B (Run.look f) (Run.look g) := by
  intro w w' hw
  obtain ⟨hend, hleft⟩ := h w.state w'.state hw.state w.exchange w'.exchange hw.exchange
  exact ⟨hend, hw.state, hleft⟩

/-- An iteration is related to one with a related body. -/
theorem within (hA : Holding.Likeness A) (f : Frame) {body : Run α} {body' : Run β}
    (h : Related A R B body body') :
    Related A R B (Run.within f body) (Run.within f body') := by
  intro w w' hw
  obtain ⟨hend, hleft⟩ :=
    h (w.enter f) (w'.enter f) ⟨hw.state.frames hA (f :: ·), hw.exchange⟩
  exact ⟨hend, hleft.state.frames hA List.tail, hleft.exchange⟩

end Run.Related

/-! ### Actions -/

namespace Engine

variable {en : Engine} {A : Slices → Holding → Holding → Prop} {R : Exchange → Exchange → Prop}
  {s t : State}

section Actions

variable (hen : en.registry = .builtIn) (hA : Holding.Likeness A) (hcalls : en.CallsAlike R)
  (h : s.Matches A t)
include hen hA hcalls h

theorem related_renderOver (text contexts : Value) :
    Effect.Related R Eq (en.renderOver s text contexts) (en.renderOver t text contexts) := by
  unfold renderOver
  split
  · exact .pure rfl
  · refine Effect.Related.bind (related_resolveAll fun items _ d _ =>
      related_resolve hen hcalls d (h.corresponds hA _)) fun found found' hfound => ?_
    rw [(h.corresponds hA fun _ => True).lookAll_eq hfound]
    exact .bind_eq (.ofExcept_self _) fun _ => .pure rfl

theorem related_renderedField (d : Value) (field contexts : String) :
    Effect.Related R Eq (en.renderedField s d field contexts)
      (en.renderedField t d field contexts) :=
  .bind_eq (.ofExcept_self _) fun _ => related_renderOver hen hA hcalls h _ _

theorem related_actionValue (d : Value) :
    Effect.Related R (A s.toSlices) (en.actionValue s d) (en.actionValue t d) := by
  unfold actionValue
  split
  · exact related_resolve hen hcalls _ (h.corresponds hA _)
  · exact .pure (hA.refl _ _)

theorem related_targetStep (d : Value) :
    Effect.Related R Eq (en.targetStep s d) (en.targetStep t d) := by
  unfold targetStep
  split
  · split
    · exact .fail _
    · exact .pure rfl
  · refine .bind_eq (related_resolveValue hen hcalls _ (h.corresponds hA _)) fun v => ?_
    split
    · exact .pure rfl
    · exact .ofFault_self _
  · exact .fail _

/-- **The payload of an action is the same in matching states.** Only a message to the console is
noted besides the calls that are made. -/
theorem related_payload (d : Value) (rule : ActionRule)
    (hnoted : rule = .consoleLog → ∀ {x y}, R x y → ∀ r, R (x.noted r) (y.noted r)) :
    Effect.Related R Eq (en.payload s d rule) (en.payload t d rule) := by
  have hshown := h.corresponds hA fun _ => True
  have hname := related_renderedField hen hA hcalls h d "targetName" "targetContexts"
  have hfield := related_renderedField hen hA hcalls h d "fieldName" "fieldContexts"
  have hvalue := related_actionValue hen hA hcalls h d
  cases rule with
  | goToStep => exact .bind_eq (related_targetStep hen hA hcalls h d) fun _ => .pure rfl
  | saveStepValues => exact .pure (by rw [hshown.currentStepValues_eq])
  | finishWizard => exact .pure (by rw [hshown.allStepValues_eq])
  | updateComponent =>
    refine .bind_eq (.ofExcept_self _) fun name => .bind_eq (.ofExcept_self _) fun prop => ?_
    refine .bind_eq (related_renderOver hen hA hcalls h _ _) fun name => hvalue.bind fun v v' hv => ?_
    exact .pure (by rw [hshown.look_eq hv])
  | setValue =>
    refine .bind_eq hname fun name => hvalue.bind fun v v' hv => ?_
    exact .pure (by rw [hshown.look_eq hv])
  | addError =>
    exact .bind_eq hfield fun _ => .bind_eq (related_renderOver hen hA hcalls h _ _) fun _ => .pure rfl
  | clearErrors => exact .bind_eq hfield fun _ => .pure rfl
  | consoleLog =>
    refine .bind_eq (related_renderOver hen hA hcalls h _ _) fun message => ?_
    exact .bind_eq (.note fun hxy => hnoted rfl hxy _) fun _ => .pure rfl
  | remoteUpdateComponent =>
    refine .bind_eq (.ofExcept_self _) fun target => .bind_eq (.ofExcept_self _) fun prop => ?_
    refine .bind_eq (.ofExcept_self _) fun name => ?_
    split
    · exact .fail _
    · exact .pure rfl
  | removeGroup =>
    refine .bind_eq (.ofExcept_self _) fun name => ?_
    dsimp only
    split
    · exact .pure rfl
    · exact .bind_eq (related_resolveValue hen hcalls _ (h.corresponds hA _)) fun _ => .pure rfl
  | addGroup | takePhoto | killTask => exact .bind_eq (.ofExcept_self _) fun _ => .pure rfl
  | initStepValues | confirmLeavePage | setLocalContext | custom _ => exact .pure rfl

end Actions

section Rules

variable (hen : en.registry = .builtIn) (hA : Holding.Likeness A) (hcalls : en.CallsAlike R)
include hen hA hcalls

/-- **Binding a local context is related to itself**: what it binds corresponds. -/
theorem related_runSetLocalContext (d : Value) :
    Run.Related A R Eq (en.runSetLocalContext d) (en.runSetLocalContext d) := by
  unfold runSetLocalContext
  refine .bind_eq (.look fun _ _ _ => .ofExcept_self _) fun name w w' hw => ?_
  obtain ⟨hend, hleft⟩ :=
    related_actionValue hen hA hcalls hw.state d w.exchange w'.exchange hw.exchange
  rw [Run.runFrom_bind, Run.runFrom_bind, Run.runFrom_look, Run.runFrom_look]
  rcases hend.cases_pair hleft with
    ⟨held, held', x, x', hx, hx', hheld, hxx'⟩ | ⟨f, x, x', hx, hx', hxx'⟩
  · rw [hx, hx']
    dsimp only
    cases name.toKey? with
    | none => exact ⟨.error _, hw.state, hxx'⟩
    | some k =>
      -- The value is shown by the state in which it is bound, and shown alike on both sides.
      have hshown : w.state.look held = w'.state.look held' :=
        (hw.state.corresponds hA fun _ => True).look_eq hheld
      have hshow : Run.Related A R Eq
          (if name.isWritable && (w.state.look held).isWritable then
            Pure.pure (.obj [(.str "contextName", name), (.str "value", w.state.look held)])
          else MonadExcept.throw (Failure.fault .badValue) : Run Value)
          (if name.isWritable && (w'.state.look held').isWritable then
            Pure.pure (.obj [(.str "contextName", name), (.str "value", w'.state.look held')])
          else MonadExcept.throw (Failure.fault .badValue)) := by
        rw [hshown]
        split
        · exact .pure rfl
        · exact .throw _
      exact hshow _ _ ⟨hw.state.bind k hheld, hxx'⟩
  · rw [hx, hx']
    exact ⟨.error f, hw.state, hxx'⟩

theorem related_runByRule (d : Value) {rule : ActionRule}
    (hcustom : ∀ handler, rule ≠ .custom handler)
    (hnoted : rule = .consoleLog → ∀ {x y}, R x y → ∀ r, R (x.noted r) (y.noted r)) :
    Run.Related A R Eq (en.runByRule d rule) (en.runByRule d rule) := by
  by_cases hbind : rule = .setLocalContext
  · subst hbind
    rw [runByRule_setLocalContext]
    exact related_runSetLocalContext hen hA hcalls d
  · rw [runByRule_eq_look hbind hcustom]
    exact .look fun s t h => related_payload hen hA hcalls h d rule hnoted

end Rules

variable (hen : en.registry = .builtIn) (hA : Holding.Likeness A) (hR : en.Parallel R)
include hen hA hR

/-- **An action has the same result in matching worlds**, and leaves matching worlds. -/
theorem matches_runAction (d : Value) {w w' : World} (hw : World.Matches A R w w') :
    ((en.runAction d).run w).1 = ((en.runAction d).run w').1 ∧
      World.Matches A R ((en.runAction d).run w).2 ((en.runAction d).run w').2 := by
  cases hrule : en.actionRule? d with
  | none =>
    rw [run_runAction_unknown hrule, run_runAction_unknown hrule]
    exact ⟨rfl, hw.state, hR.noted hw.exchange _⟩
  | some typeAndRule =>
    obtain ⟨type, rule⟩ := typeAndRule
    have hcustom : ∀ handler, rule ≠ .custom handler := by
      rintro handler rfl
      have hlookup := (actionRule?_eq_some.mp hrule).2
      rw [hen] at hlookup
      exact Registry.builtIn_actions_ne_custom hlookup
    obtain ⟨hend, hleft⟩ := related_runByRule hen hA hR.calls d hcustom (fun _ => hR.noted) w w' hw
    rw [run_runAction_known hrule, run_runAction_known hrule]
    rcases hend.cases_pair hleft with ⟨p, q, v, v', hp, hq, hpq, hv⟩ | ⟨f, v, v', hf, hf', hv⟩
    · rw [hp, hq]
      exact ⟨by rw [hpq], hv⟩
    · rw [hf, hf']
      exact ⟨rfl, hv.state, hR.noted hv.exchange _⟩

/-- **Actions have the same results in matching worlds**, and leave matching worlds. -/
theorem matches_runEach (items : List Value) {w w' : World} (hw : World.Matches A R w w') :
    ((en.runEach items).run w).1 = ((en.runEach items).run w').1 ∧
      World.Matches A R ((en.runEach items).run w).2 ((en.runEach items).run w').2 := by
  induction items generalizing w w' with
  | nil =>
    rw [run_runEach_nil, run_runEach_nil]
    exact ⟨rfl, hw⟩
  | cons d rest ih =>
    obtain ⟨hresult, hnext⟩ := matches_runAction hen hA hR d hw
    obtain ⟨hresults, hleft⟩ := ih hnext
    rw [run_runEach_cons, run_runEach_cons]
    exact ⟨congrArg₂ List.cons hresult hresults, hleft⟩

theorem related_runActions (v : Value) :
    Run.Related A R Eq (en.runActions v) (en.runActions v) := by
  cases hv : siblingsOf v with
  | error f =>
    rw [runActions_of_error hv]
    exact .throw _
  | ok items =>
    rw [runActions_of_ok hv]
    intro w w' hw
    obtain ⟨hresults, hleft⟩ := matches_runEach hen hA hR items hw
    exact ⟨.ok hresults, hleft⟩

/-! ### Blocks and events -/

/-- A run of actions followed by a run of blocks. -/
theorem related_runActions_append {k : Run (List ActionResult)} (v : Value)
    (hk : Run.Related A R Eq k k) :
    Run.Related A R Eq (do return (← en.runActions v) ++ (← k))
      (do return (← en.runActions v) ++ (← k)) :=
  .bind_eq (related_runActions hen hA hR v) fun _ => .bind_eq hk fun _ => .pure rfl

theorem related_passes (b : Value) : Run.Related A R Eq (en.passes b) (en.passes b) := by
  unfold passes
  split
  · exact .pure rfl
  · exact .look fun s t h => related_evaluate hen hR.calls _ (h.corresponds hA _)

theorem related_loopItems (b : Value) : Run.Related A R Eq (en.loopItems b) (en.loopItems b) := by
  unfold loopItems
  split
  · exact .throw _
  · refine .bind_eq (.look fun s t h => related_resolveValue hen hR.calls _ (h.corresponds hA _)) ?_
    intro v
    split <;> exact .pure rfl

omit hen hR in
theorem related_iterate (name : Value) (array : List Value) {body : Run (List ActionResult)}
    (hbody : Run.Related A R Eq body body) (i : Nat) (items : List Value) :
    Run.Related A R Eq (iterate name array body i items) (iterate name array body i items) := by
  induction items generalizing i with
  | nil => exact .pure rfl
  | cons item rest ih =>
    exact .bind_eq (.within hA _ hbody) fun _ => .bind_eq (ih (i + 1)) fun _ => .pure rfl

/-- Runs of blocks are related to themselves, by induction along them. -/
theorem related_blocks :
    (∀ b, Run.Related A R Eq (en.runBlock b) (en.runBlock b)) ∧
      (∀ v, Run.Related A R Eq (en.runBlocks v) (en.runBlocks v)) ∧
      ∀ items, Run.Related A R Eq (en.runBlockList items) (en.runBlockList items) := by
  refine block_induction hen (P := fun b => Run.Related A R Eq (en.runBlock b) (en.runBlock b))
    (Q := fun v => Run.Related A R Eq (en.runBlocks v) (en.runBlocks v))
    (R := fun items => Run.Related A R Eq (en.runBlockList items) (en.runBlockList items))
    ?noObject ?plain ?conditional ?forEach ?scheduleTask ?malformed ?siblings ?nil ?cons
  case noObject =>
    intro b hb
    rw [runBlock_of_not_isObject hb]
    exact .throw _
  case plain =>
    intro es hrule
    rw [runBlock_plain hrule]
    exact related_runActions hen hA hR _
  case conditional =>
    intro es hrule hbranch
    rw [runBlock_conditional hrule]
    exact .bind_eq (related_passes hen hA hR _) fun passed =>
      related_runActions_append hen hA hR _ (hbranch passed)
  case forEach =>
    intro es hrule hblocks
    rw [runBlock_forEach hrule]
    exact .bind_eq (related_loopItems hen hA hR _) fun items =>
      related_iterate hA _ _ (related_runActions_append hen hA hR _ hblocks) _ _
  case scheduleTask =>
    intro es hrule hblocks
    rw [runBlock_scheduleTask hrule]
    exact hblocks
  case malformed =>
    intro v f hv
    rw [runBlocks_of_error hv]
    exact .throw _
  case siblings =>
    intro v items hv hitems
    rw [runBlocks_of_ok hv]
    exact hitems
  case nil =>
    rw [runBlockList_nil]
    exact .pure rfl
  case cons =>
    intro b rest hb hrest
    rw [runBlockList_cons]
    exact .bind_eq hb fun _ => .bind_eq hrest fun _ => .pure rfl

/-- **A run of sibling blocks is related to itself.** -/
theorem related_runBlocks (v : Value) : Run.Related A R Eq (en.runBlocks v) (en.runBlocks v) :=
  (related_blocks hen hA hR).2.1 v

end Engine

end WizardLogic
