import WizardLogic.Engine.Block

/-!
# Events

An event of the user interface happens on a step or on one of its components and runs the blocks
that are declared for it there (`Engine.dispatch`). All that can be wrong with the address of an
event is found before anything runs.
-/

namespace WizardLogic

/-- The step with a name, which may be any value. -/
def Wizard.stepOf? (w : Wizard) : Value → Option Step
  | .str name => w.step? name
  | _ => none

/-- The component of a step with a name, which may be any value. -/
def Step.componentOf? (s : Step) : Value → Option Component
  | .str name => s.component? name
  | _ => none

/-- The event that a value names. -/
def EventType.ofValue? : Value → Option EventType
  | .str name => ofName? name
  | _ => none

namespace Engine

/-- The events declared at a step, or at one of its components unless that is null. -/
def eventsAt (en : Engine) (step component : Value) : Except Failure Events :=
  match en.wizard.stepOf? step with
  | none => .error (Error.noStep step)
  | some s =>
    if component.isNull then .ok s.events
    else match s.componentOf? component with
      | none => .error (Error.noComponent component step)
      | some c => .ok c.events

/-- The blocks declared for an event at an address. -/
def blocksFor (en : Engine) (step event component : Value) : Except Failure (List Value) :=
  match en.eventsAt step component with
  | .error e => .error e
  | .ok events =>
    match EventType.ofValue? event with
    | none => .error (.fault .badValue)
    | some e => .ok (events.blocks e)

/-- **Runs the blocks that are declared for an event.** -/
def dispatch (en : Engine) (step event component : Value) : Run (List ActionResult) :=
  match en.blocksFor step event component with
  | .error e => throw e
  | .ok blocks => en.runBlocks (.list blocks)

end Engine

end WizardLogic
