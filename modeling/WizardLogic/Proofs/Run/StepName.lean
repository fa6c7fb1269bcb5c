import Mathlib
import WizardLogic.Proofs.Json.Reading
import WizardLogic.Proofs.Run.Deed
import WizardLogic.Proofs.Siblings.Isolation
import WizardLogic.Proofs.Template.RoundTrip

/-!
# Steps that are named by templates

An action leads to a step that it names. The name may be written down, or it may come from a
template, and then it goes through more hands: the template prints it as it is (`render_stepName`),
the context reads what is printed as JSON, where it can, and the action takes the text of what was
read (`stepNamed`). Reading as JSON is what a template context is for, so that it can give numbers
and objects. A name that happens to be JSON comes out as the text of the value that it spells, and
that is another name for `true`, for a quoted text, and for a number in another notation than its
own.

`Engine.runAction_stepName` says for which names both ways lead to the same step.
-/

namespace WizardLogic

/-! ### Templates that print a text -/

namespace Template

open Render Stateful

theorem parse?_stepName : parse? "{{ n }}" = some [.print (.name "n")] := by
  have htokens : Token.ofText? "{{ n }}" = some [.printBegin, .name "n", .printEnd] := by
    decide +kernel
  unfold parse?
  rw [htokens]
  cbv

/-- **A text is printed as it is.** -/
theorem render_stepName {data : Entries Value} {text : String}
    (hget : data.get? (.str "n") = some (.str text)) :
    render (.str "{{ n }}") data = .ok text := by
  refine render_print (prepare_name parse?_stepName) (by decide) fun {env s} h => ?_
  obtain ⟨w, hread, hrep⟩ := h.given "n" _ hget
  obtain rfl : w = .str text := hrep
  have heval : evalExpr (powersWithin maxDepth) env (.name "n") s = .ok (.str text, s) := by
    rw [evalExpr]
    exact hread
  rw [bind_of_ok heval, printText_str h.escape]

end Template

/-! ### Two ways of naming a step -/

/-- The step that a value names: null names none, and all else goes by its text. -/
def Value.stepNamed : Value → String
  | .null => ""
  | v => v.text

/-- The result of an action that leads to a step. -/
def ActionResult.goesTo (name : String) : ActionResult :=
  { type := "GO_TO_STEP", payload := .obj [(.str "stepName", .str name)] }

theorem ActionResult.goesTo_inj {name name' : String} :
    goesTo name = goesTo name' ↔ name = name' := by
  simp [goesTo]

/-- An action names the step that it leads to. -/
structure NamesStep (d : Value) (name : String) : Prop where
  type : d.field "type" = .str "GO_TO_STEP"
  step : d.field "stepName" = .str name

/-- An action leads to the step whose name a template prints that is given the name. -/
structure PrintsStep (d : Value) (name : String) : Prop where
  type : d.field "type" = .str "GO_TO_STEP"
  step : IsTemplate (d.field "stepName") "{{ n }}" "n" (.str name)

/-- A text names itself through a template if it is no JSON, or JSON for something that has it as its
text. -/
theorem stepNamed_readOrText_iff {name : String} (hname : name ≠ "") :
    (Json.readOrText name).stepNamed = name ↔
      Json.read? name = none ∨ ∃ v, Json.read? name = some v ∧ v ≠ .null ∧ v.text = name := by
  rw [Json.readOrText]
  cases hread : Json.read? name with
  | none => simp [Value.stepNamed, Value.text]
  | some v =>
    rw [Option.getD_some]
    cases v with
    | null => simp [Value.stepNamed, hname.symm]
    | _ => simp [Value.stepNamed]

namespace Engine

variable {en : Engine} {d : Value} {name : String} {w : World}

theorem targetStep_of_name (s : State) (hname : name ≠ "") (h : NamesStep d name) :
    en.targetStep s d = pure name := by
  have hfull : name.isEmpty = false := by simpa using hname
  rw [targetStep, h.step]
  dsimp only
  rw [hfull, if_neg Bool.false_ne_true]

theorem targetStep_of_template (hen : en.registry.HasTemplates) (s : State)
    (h : PrintsStep d name) :
    en.targetStep s d = pure (Json.readOrText name).stepNamed := by
  obtain ⟨data, hget, hresolve⟩ := resolve_template (s := s) hen (by decide) (by decide) h.step
  have hvalue : en.resolveValue s (d.field "stepName") = pure (Json.readOrText name) := by
    rw [resolveValue, hresolve _ (Template.render_stepName hget)]
    rfl
  obtain ⟨es, hes⟩ := Value.exists_obj_of_field h.step.type
  rw [hes] at hvalue
  rw [targetStep, hes]
  dsimp only
  rw [hvalue, pure_bind]
  have hwritten := Value.written_of_isWritable (Json.isWritable_readOrText name)
  cases hread : Json.readOrText name with
  | null => rfl
  | _ =>
    rw [hread] at hwritten
    dsimp only
    rw [hwritten]
    rfl

/-- **An action that finds its step leads there**, and neither changes the state nor touches the
outside. -/
theorem run_goToStep (hen : en.registry = .builtIn) (htype : d.field "type" = .str "GO_TO_STEP")
    (htarget : en.targetStep w.state d = pure name) :
    (en.runAction d).run w = (.goesTo name, w) := by
  have hrule : en.actionRule? d = some ("GO_TO_STEP", .goToStep) :=
    actionRule?_eq_some.mpr ⟨htype, by rw [hen]; rfl⟩
  have hpayload : en.payload w.state d .goToStep =
      pure (.obj [(.str "stepName", .str name)]) := by
    rw [payload, htarget, pure_bind]
  rw [run_runAction_known hrule, runByRule_eq_look (by simp) (by simp), Run.runFrom_look, hpayload]
  rfl

theorem run_of_name (hen : en.registry = .builtIn) (hname : name ≠ "") (h : NamesStep d name) :
    (en.runAction d).run w = (.goesTo name, w) :=
  run_goToStep hen h.type (targetStep_of_name w.state hname h)

theorem run_of_template (hen : en.registry = .builtIn) (h : PrintsStep d name) :
    (en.runAction d).run w = (.goesTo (Json.readOrText name).stepNamed, w) :=
  run_goToStep hen h.type
    (targetStep_of_template (hen ▸ Registry.hasTemplates_builtIn) w.state h)

/-- **When a template names the step that it is given.** An action with the name of a step leads to
that step. One with a template that is given the name leads to the step that is named by what the
name reads as in JSON, if it is JSON, and else to the step itself. So both do the same for exactly
the names that are no JSON, or JSON for something other than null that has the name as its text. -/
theorem runAction_stepName (hen : en.registry = .builtIn) (hname : name ≠ "")
    {written printed : Value} (hwritten : NamesStep written name)
    (hprinted : PrintsStep printed name) (w : World) :
    (en.runAction written).run w = (.goesTo name, w) ∧
      (en.runAction printed).run w = (.goesTo (Json.readOrText name).stepNamed, w) ∧
      ((en.runAction printed).run w = (en.runAction written).run w ↔
        Json.read? name = none ∨
          ∃ v, Json.read? name = some v ∧ v ≠ .null ∧ v.text = name) := by
  have hfirst := run_of_name (w := w) hen hname hwritten
  have hsecond := run_of_template (w := w) hen hprinted
  refine ⟨hfirst, hsecond, ?_⟩
  rw [hfirst, hsecond, Prod.mk.injEq, ActionResult.goesTo_inj, stepNamed_readOrText_iff hname]
  exact and_iff_left rfl

/-- An action that names a step. -/
def writtenStep (name : String) : Value :=
  .obj [(.str "type", .str "GO_TO_STEP"), (.str "stepName", .str name)]

/-- An action with a template for the name of a step. -/
def printedStep (name : String) : Value :=
  .obj [(.str "type", .str "GO_TO_STEP"),
    (.str "stepName", .templateOf "{{ n }}" "n" (.str name))]

theorem namesStep_writtenStep (name : String) : NamesStep (writtenStep name) name := ⟨rfl, rfl⟩

theorem printsStep_printedStep (name : String) : PrintsStep (printedStep name) name :=
  ⟨rfl, Value.isTemplate_templateOf _ _ _⟩

/-- A name that starts like JSON and is none. -/
theorem runAction_stepName_trueStep :
    bare.registry = .builtIn ∧ "true step" ≠ "" ∧
      NamesStep (writtenStep "true step") "true step" ∧
      PrintsStep (printedStep "true step") "true step" ∧
      (bare.runAction (printedStep "true step")).run .ofCaller =
        (.goesTo "true step", .ofCaller) := by
  have hread : Json.read? "true step" = none := by decide +kernel
  have hen : bare.registry = .builtIn := rfl
  obtain ⟨hwritten, -, hsame⟩ := runAction_stepName hen (by decide)
    (namesStep_writtenStep "true step") (printsStep_printedStep "true step") .ofCaller
  exact ⟨hen, by decide, namesStep_writtenStep _, printsStep_printedStep _,
    (hsame.mpr (.inl hread)).trans hwritten⟩

/-- **A name that is JSON may come out as another one**: a step called `true` is not reached through
a template. -/
theorem printedStep_true_ne :
    "true" ≠ "" ∧ NamesStep (writtenStep "true") "true" ∧ PrintsStep (printedStep "true") "true" ∧
      (bare.runAction (writtenStep "true")).run .ofCaller = (.goesTo "true", .ofCaller) ∧
      (bare.runAction (printedStep "true")).run .ofCaller = (.goesTo "True", .ofCaller) ∧
      ActionResult.goesTo "True" ≠ .goesTo "true" := by
  have hread : (Json.readOrText "true").stepNamed = "True" := by decide +kernel
  refine ⟨by decide, namesStep_writtenStep _, printsStep_printedStep _,
    run_of_name rfl (by decide) (namesStep_writtenStep _), ?_, ?_⟩
  · rw [run_of_template rfl (printsStep_printedStep _), hread]
  · rw [Ne, ActionResult.goesTo_inj]
    decide

end Engine

end WizardLogic
