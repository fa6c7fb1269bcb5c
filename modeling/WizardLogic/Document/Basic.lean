import WizardLogic.Document.Vocabulary
import WizardLogic.Value

/-!
# Wizard documents

A wizard is a list of steps; a step holds components, and a component holds further components at
its four sides. Steps and components declare which blocks run on which event. A wizard also
declares the remote actions that its logic may call. Blocks, conditions and contexts are opaque
here: they stay values, which the engine interprets.

Every part of a document keeps the fields that it does not know (`extra`), in their order.

Components of a step are looked up in pre-order (`Component.all`): a component comes before the
components at its sides, and the sides are taken top, left, right, bottom.
-/

namespace WizardLogic

/-- A declared outbound call. -/
structure RemoteAction where
  name : String
  method : HttpMethod
  /-- A template, like the other parts of the request. -/
  url : String
  contentType : ContentType
  body : Option String
  params : Option String
  headers : Option String
  /-- How the answer is reduced; it is kept whole without one. -/
  expression : Option String
  expressionKind : ExpressionKind
  certificateName : Option String
  extra : Entries Value

/-- One side of a component, with the components placed there. -/
structure Position (α : Type) where
  className : Option String
  components : List α
  extra : Entries Value

/-- The blocks that run on an event, by event. -/
abbrev Events := List (EventType × List Value)

/-- An element of the user interface. -/
structure Component where
  order : Int
  name : String
  componentType : Option String
  /-- What the user interface makes of the component. -/
  component : Value
  className : Option String
  events : Events
  top : Option (Position Component)
  left : Option (Position Component)
  right : Option (Position Component)
  bottom : Option (Position Component)
  extra : Entries Value

/-- One step of a wizard. -/
structure Step where
  name : String
  title : Option String
  description : Option String
  className : Option String
  components : List Component
  events : Events
  extra : Entries Value

/-- A wizard document. -/
structure Wizard where
  name : String
  description : Option String
  initialStep : String
  isActive : Option Bool
  steps : List Step
  remoteActions : List RemoteAction
  extra : Entries Value

/-- The blocks declared for an event; none when nothing is declared. -/
def Events.blocks (es : Events) (e : EventType) : List Value := (es.lookup e).getD []

mutual

/-- A component and all components at its sides, in pre-order. -/
def Component.all : Component → List Component
  | c@⟨_, _, _, _, _, _, top, left, right, bottom, _⟩ =>
    c :: (Component.allAt top ++ Component.allAt left ++ Component.allAt right ++
      Component.allAt bottom)

/-- All components at a side. -/
def Component.allAt : Option (Position Component) → List Component
  | none => []
  | some ⟨_, components, _⟩ => Component.allOf components

/-- All components of a list. -/
def Component.allOf : List Component → List Component
  | [] => []
  | c :: cs => c.all ++ Component.allOf cs

end

namespace Step

/-- All components of a step, in pre-order. -/
def allComponents (s : Step) : List Component := Component.allOf s.components

/-- The first component with a name, at any depth. -/
def component? (s : Step) (name : String) : Option Component :=
  s.allComponents.find? fun c => c.name = name

end Step

namespace Wizard

/-- The step with a name. -/
def step? (w : Wizard) (name : String) : Option Step := w.steps.find? fun s => s.name = name

/-- The remote action with a name. -/
def remoteAction? (w : Wizard) (name : String) : Option RemoteAction :=
  w.remoteActions.find? fun a => a.name = name

end Wizard

end WizardLogic
