import WizardLogic.Proofs.Run.Course

/-!
# What one deed changes

Of all that a run does, only the binding of a local context changes the state. Deciding a condition
and looking for the array of a loop leave it as it is, and so does every action of another type,
whether it succeeds or fails. An action that binds a local context either fails before it binds
anything, or it binds the value that it found and then says so, unless the binding cannot be
written out (`Engine.runAction_cases`).
-/

namespace WizardLogic

/-- The world with one more record noted. -/
def World.noted (w : World) (r : Log.Record) : World :=
  { w with exchange := w.exchange.noted r }

/-- The local context that a result says has been bound, with the value that it shows. -/
def ActionResult.binding? (r : ActionResult) : Option (Key × Value) :=
  if r.type = "SET_LOCAL_CONTEXT" ∧ r.ok then
    (r.payload.field "contextName").toKey?.map fun k => (k, r.payload.field "value")
  else none

/-- A result with an error says that nothing has been bound. -/
theorem ActionResult.binding?_of_error {r : ActionResult} {e : String} (h : r.error = some e) :
    r.binding? = none := by
  refine if_neg ?_
  rintro ⟨-, hok⟩
  rw [ok, h] at hok
  cases hok

/-- A value is a key exactly when it is the value that the key is. -/
theorem Value.toKey?_eq_some {v : Value} {k : Key} : v.toKey? = some k ↔ v = .ofKey k := by
  cases v <;> cases k <;> simp [toKey?, ofKey]

namespace Engine

variable {en : Engine} {d : Value} {w : World}

/-! ### Actions by their rule -/

/-- The type of an action and its rule, if the type is in the vocabulary. -/
def actionRule? (en : Engine) (d : Value) : Option (String × ActionRule) :=
  match d.field "type" with
  | .str type => (en.registry.actions.lookup type).map fun rule => (type, rule)
  | _ => none

theorem actionRule?_eq_some {type : String} {rule : ActionRule} :
    en.actionRule? d = some (type, rule) ↔
      d.field "type" = .str type ∧ en.registry.actions.lookup type = some rule := by
  unfold actionRule?
  cases d.field "type" with
  | str t =>
    simp only [Option.map_eq_some_iff, Prod.mk.injEq, Value.str.injEq]
    constructor
    · rintro ⟨_, hr, rfl, rfl⟩
      exact ⟨rfl, hr⟩
    · rintro ⟨rfl, hr⟩
      exact ⟨rule, hr, rfl, rfl⟩
  | _ => simp

/-- The warning that an action of no known type gives. -/
def unknownText (d : Value) : String := "Unknown action type: " ++ (d.field "type").text

/-- An action of no known type does nothing but say so. -/
theorem run_runAction_unknown (h : en.actionRule? d = none) :
    (en.runAction d).run w =
      ({ type := unknownType, error := some (unknownText d) },
        w.noted ⟨.warning, .engine, unknownText d⟩) := by
  unfold actionRule? at h
  unfold runAction unknownText
  cases hd : d.field "type" with
  | str type =>
    rw [hd] at h
    dsimp only
    rw [Option.map_eq_none_iff.mp h]
    rfl
  | _ => rfl

/-- An action of a known type has the result of its rule, and a failure is noted. -/
theorem run_runAction_known {type : String} {rule : ActionRule}
    (h : en.actionRule? d = some (type, rule)) :
    (en.runAction d).run w = match (en.runByRule d rule).runFrom w with
      | (.ok payload, w') => ({ type, payload }, w')
      | (.error f, w') =>
        ({ type, error := some f.text },
          w'.noted ⟨.warning, .engine, s!"Action {type} failed: {f.text}"⟩) := by
  obtain ⟨hd, hrule⟩ := actionRule?_eq_some.mp h
  unfold runAction
  rw [hd]
  dsimp only
  rw [hrule]
  dsimp only [Option.map_some]
  rw [StateT.run_bind]
  change (match (en.runByRule d rule).run.run w with | (r, w') => _) = _
  unfold Run.runFrom
  rcases (en.runByRule d rule).run.run w with ⟨_ | _, _⟩ <;> rfl

theorem runByRule_setLocalContext : en.runByRule d .setLocalContext = en.runSetLocalContext d := by
  rw [runByRule]

/-- An action that neither binds a local context nor has a rule of its own only looks at the
state. -/
theorem runByRule_eq_look {rule : ActionRule} (hbind : rule ≠ .setLocalContext)
    (hcustom : ∀ handler, rule ≠ .custom handler) :
    en.runByRule d rule = Run.look fun s => en.payload s d rule := by
  cases rule with
  | setLocalContext => exact absurd rfl hbind
  | custom handler => exact absurd rfl (hcustom handler)
  | _ => rw [runByRule.eq_def]

/-! ### Binding a local context -/

theorem eq_field_of_requireActionField {field : String} {v : Value}
    (h : requireActionField d field = .ok v) : v = d.field field := by
  unfold requireActionField at h
  split at h
  · cases h
  · cases h
  · exact (Except.ok.inj h).symm

/-- The payload of an action that has bound a local context. -/
def bindingPayload (k : Key) (v : Value) : Value :=
  .obj [(.str "contextName", .ofKey k), (.str "value", v)]

theorem binding?_bindingPayload (k : Key) (v : Value) :
    ({ type := "SET_LOCAL_CONTEXT", payload := bindingPayload k v } : ActionResult).binding? =
      some (k, v) := by
  have hname : ((bindingPayload k v).field "contextName").toKey? = some k :=
    Value.toKey?_eq_some.mpr rfl
  have hvalue : (bindingPayload k v).field "value" = v := rfl
  refine (if_pos ⟨rfl, rfl⟩).trans ?_
  rw [hname, hvalue, Option.map_some]

/-- Without the name of a local context nothing is bound. -/
theorem runFrom_runSetLocalContext_of_error {f : Failure}
    (hname : requireActionField d "contextName" = .error f) :
    (en.runSetLocalContext d).runFrom w = (.error f, w) := by
  unfold runSetLocalContext
  rw [hname]
  rfl

/-- **With a name and a value, a local context is bound.** The action succeeds exactly when both can
be written out. -/
theorem runFrom_runSetLocalContext_of_ok {k : Key} {held : Holding} {x : Exchange}
    (hname : requireActionField d "contextName" = .ok (.ofKey k))
    (hvalue : (en.actionValue w.state d).runFrom w.exchange = (.ok held, x)) :
    (en.runSetLocalContext d).runFrom w =
      (if (Value.ofKey k).isWritable && (w.state.look held).isWritable then
          .ok (bindingPayload k (w.state.look held))
        else .error (Failure.fault .badValue),
        ⟨w.state.bind k held, x⟩) := by
  have hlook : (Run.look fun _ => Effect.ofExcept (Except.ok (Value.ofKey k))).runFrom w =
      (.ok (.ofKey k), w) := rfl
  have hheld : (Run.look fun s => en.actionValue s d).runFrom w =
      (.ok held, { w with exchange := x }) := by rw [Run.runFrom_look, hvalue]
  -- The value is looked at once more after the binding, which no slice depends on.
  have hshown : (Run.look fun s => pure (s.look held)).runFrom ⟨w.state.bind k held, x⟩ =
      (.ok (w.state.look held), ⟨w.state.bind k held, x⟩) := rfl
  unfold runSetLocalContext
  rw [hname, Run.runFrom_bind_ok hlook, Run.runFrom_bind_ok hheld, Value.toKey?_eq_some.mpr rfl]
  dsimp only
  rw [Run.runFrom_bind_ok (Run.runFrom_change _ _), Run.runFrom_bind_ok hshown]
  split <;> rfl

/-- **How binding a local context ends.** Either nothing is bound and the action fails, or the value
that the action is about is bound; then the action succeeds exactly when both name and value can be
written out. -/
theorem runFrom_runSetLocalContext (en : Engine) (d : Value) (w : World) :
    (∃ f x, (en.runSetLocalContext d).runFrom w = (.error f, { w with exchange := x })) ∨
      ∃ k held x, d.field "contextName" = .ofKey k ∧
        (en.actionValue w.state d).runFrom w.exchange = (.ok held, x) ∧
        (en.runSetLocalContext d).runFrom w =
          (if (Value.ofKey k).isWritable && (w.state.look held).isWritable then
              .ok (bindingPayload k (w.state.look held))
            else .error (Failure.fault .badValue),
            ⟨w.state.bind k held, x⟩) := by
  cases hname : requireActionField d "contextName" with
  | error f => exact Or.inl ⟨f, w.exchange, runFrom_runSetLocalContext_of_error hname⟩
  | ok name =>
    have hlook : (Run.look fun _ => Effect.ofExcept (Except.ok name)).runFrom w = (.ok name, w) :=
      rfl
    rcases hvalue : (en.actionValue w.state d).runFrom w.exchange with ⟨f | held, x⟩
    · have hfail : (Run.look fun s => en.actionValue s d).runFrom w =
          (.error f, { w with exchange := x }) := by rw [Run.runFrom_look, hvalue]
      unfold runSetLocalContext
      rw [hname, Run.runFrom_bind_ok hlook, Run.runFrom_bind_error hfail]
      exact Or.inl ⟨f, x, rfl⟩
    · cases hkey : name.toKey? with
      | none =>
        have hheld : (Run.look fun s => en.actionValue s d).runFrom w =
            (.ok held, { w with exchange := x }) := by rw [Run.runFrom_look, hvalue]
        unfold runSetLocalContext
        rw [hname, Run.runFrom_bind_ok hlook, Run.runFrom_bind_ok hheld, hkey]
        exact Or.inl ⟨_, x, rfl⟩
      | some k =>
        obtain rfl : name = .ofKey k := Value.toKey?_eq_some.mp hkey
        exact Or.inr ⟨k, held, x, (eq_field_of_requireActionField hname).symm, rfl,
          runFrom_runSetLocalContext_of_ok hname hvalue⟩

/-! ### What a deed does to the state -/

/-- **What executing an action changes.** Either the state stays as it is and the result binds
nothing, or the action binds the value that it is about to its name. Then the result says so, if
both can be written out, and else it is an error. -/
theorem runAction_cases (hen : en.registry = .builtIn) (d : Value) (w : World) :
    (((en.runAction d).run w).2.state = w.state ∧ ((en.runAction d).run w).1.binding? = none) ∨
      ∃ k held, d.field "type" = .str "SET_LOCAL_CONTEXT" ∧ d.field "contextName" = .ofKey k ∧
        ((en.actionValue w.state d).runFrom w.exchange).1 = .ok held ∧
        ((en.runAction d).run w).2.state = w.state.bind k held ∧
        ((en.runAction d).run w).1.binding? =
          if (Value.ofKey k).isWritable && (w.state.look held).isWritable then
            some (k, w.state.look held)
          else none := by
  cases hrule : en.actionRule? d with
  | none =>
    rw [run_runAction_unknown hrule]
    exact Or.inl ⟨rfl, ActionResult.binding?_of_error rfl⟩
  | some typeAndRule =>
    obtain ⟨type, rule⟩ := typeAndRule
    obtain ⟨htype, hlookup⟩ := actionRule?_eq_some.mp hrule
    rw [run_runAction_known hrule]
    rw [hen] at hlookup
    by_cases hbind : rule = .setLocalContext
    · subst hbind
      obtain rfl := Registry.builtIn_actions_lookup_setLocalContext.mp hlookup
      rw [runByRule_setLocalContext]
      rcases en.runFrom_runSetLocalContext d w with
        ⟨f, x, h⟩ | ⟨k, held, x, hname, hvalue, h⟩
      · rw [h]
        exact Or.inl ⟨rfl, ActionResult.binding?_of_error rfl⟩
      · rw [h]
        refine Or.inr ⟨k, held, htype, hname, by rw [hvalue], ?_⟩
        by_cases hwritable :
            ((Value.ofKey k).isWritable && (w.state.look held).isWritable) = true
        · rw [if_pos hwritable, if_pos hwritable]
          exact ⟨rfl, binding?_bindingPayload k (w.state.look held)⟩
        · rw [if_neg hwritable, if_neg hwritable]
          exact ⟨rfl, ActionResult.binding?_of_error rfl⟩
    -- All other actions of the built-in vocabulary only look at the state.
    · have hcustom : ∀ handler, rule ≠ .custom handler := fun handler hr =>
        Registry.builtIn_actions_ne_custom (hr ▸ hlookup)
      have hne : type ≠ "SET_LOCAL_CONTEXT" := fun ht => hbind (by
        subst ht
        exact Option.some.inj (hlookup.symm.trans
          (Registry.builtIn_actions_lookup_setLocalContext.mpr rfl)))
      rw [runByRule_eq_look hbind hcustom, Run.runFrom_look]
      refine Or.inl ?_
      cases ((en.payload w.state d rule).runFrom w.exchange).1 with
      | ok payload => exact ⟨rfl, if_neg fun h => hne h.1⟩
      | error f => exact ⟨rfl, ActionResult.binding?_of_error rfl⟩

theorem runFrom_perform_action (d : Value) (w : World) :
    (en.perform (.action d)).runFrom w =
      (.ok [((en.runAction d).run w).1], ((en.runAction d).run w).2) := rfl

/-- A deed that is no action leaves the state as it is. -/
theorem state_perform {δ : Deed} (hδ : ∀ d, δ ≠ .action d) (w : World) :
    ((en.perform δ).runFrom w).2.state = w.state := by
  cases δ with
  | action d => exact absurd rfl (hδ d)
  | condition c =>
    rw [perform, Run.runFrom_bind, Run.runFrom_look]
    cases ((en.evaluate w.state c).runFrom w.exchange).1 <;> rfl
  | source d =>
    rw [perform, Run.runFrom_bind, Run.runFrom_look]
    cases ((en.resolveValue w.state d).runFrom w.exchange).1 <;> rfl

/-- **Whatever is done, only local contexts change.** -/
theorem toSlices_perform (hen : en.registry = .builtIn) (δ : Deed) (w : World) :
    ((en.perform δ).runFrom w).2.state.toSlices = w.state.toSlices := by
  cases δ with
  | action d =>
    rw [runFrom_perform_action]
    rcases runAction_cases hen d w with ⟨h, -⟩ | ⟨k, held, -, -, -, h, -⟩
    · exact congrArg State.toSlices h
    · exact (congrArg State.toSlices h).trans rfl
  | condition c => exact congrArg State.toSlices (state_perform (by simp) w)
  | source d => exact congrArg State.toSlices (state_perform (by simp) w)

end Engine

end WizardLogic
