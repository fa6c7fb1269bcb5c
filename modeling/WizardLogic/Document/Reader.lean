import WizardLogic.Document.Basic
import WizardLogic.Document.Reading

/-!
# Reading wizard documents

`Wizard.read` makes a wizard of a value or says everything that is wrong with it. Fields may be
spelled in either of two ways, with the wire spelling first in rank; the spelling that loses counts
as an unknown field, and unknown fields are kept.

The rules that concern a document as a whole (`Wizard.brokenRule?`) are looked at only when every
field has been read: step names are distinct, names of remote actions are distinct, and the initial
step is one of the steps.
-/

namespace WizardLogic

open Reading

/-- The fields of a remote action, each with its spellings. -/
def RemoteAction.fields : List (List String) :=
  [["name"], ["method"], ["url"], ["contentType", "content_type"], ["body"], ["params"],
    ["headers"], ["expression"], ["expressionKind", "expression_kind"],
    ["certificateName", "certificate_name"]]

/-- Reads a remote action. -/
def RemoteAction.read : Value → Reading RemoteAction
  | .obj es =>
    RemoteAction.mk <$> field es ["name"] Reading.name
      <*> field es ["method"] (word HttpMethod.ofName?)
      <*> field es ["url"] nonEmptyText
      <*> field es ["contentType", "content_type"] (word ContentType.ofName?)
      <*> fieldOr es ["body"] none (optional Reading.text)
      <*> fieldOr es ["params"] none (optional Reading.text)
      <*> fieldOr es ["headers"] none (optional Reading.text)
      <*> fieldOr es ["expression"] none (optional Reading.text)
      <*> fieldOr es ["expressionKind", "expression_kind"] .query (word ExpressionKind.ofName?)
      <*> fieldOr es ["certificateName", "certificate_name"] none (optional Reading.text)
      <*> unknownFields es RemoteAction.fields
  | _ => issue .modelType

/-- The events of an object from one entry on. -/
def Events.readEntries : Entries Value → Reading Events
  | [] => pure []
  | (k, v) :: es =>
    let place := Value.ofKey k
    let event : Reading EventType :=
      match k with
      | .str s => match EventType.ofName? s with
        | some e => pure e
        | none => under place (under (.str "[key]") (issue .enumeration))
      | _ => under place (under (.str "[key]") (issue .enumeration))
    (fun e blocks rest => (e, blocks) :: rest) <$> event
      <*> under place (Reading.list descriptor v)
      <*> readEntries es

/-- Reads the blocks declared for events. -/
def Events.read : Value → Reading Events
  | .obj es => readEntries es
  | _ => issue .dictType

/-- The fields of a position, each with its spellings. -/
def Position.fields : List (List String) := [["className", "class_name"], ["components"]]

/-- The fields of a component, each with its spellings. -/
def Component.fields : List (List String) :=
  [["order"], ["name"], ["componentType", "component_type"], ["component"],
    ["className", "class_name"], ["events"], ["top"], ["left"], ["right"], ["bottom"]]

mutual

/-- Reads a component. -/
def Component.read (v : Value) : Reading Component :=
  match v with
  | .obj es =>
    Component.mk <$> fieldOr es ["order"] 0 integer
      <*> field es ["name"] Reading.text
      <*> fieldOr es ["componentType", "component_type"] none (optional Reading.text)
      <*> fieldOr es ["component"] .null pure
      <*> fieldOr es ["className", "class_name"] none (optional Reading.text)
      <*> fieldOr es ["events"] [] Events.read
      <*> under (.str "top") (Component.readSide ((Value.obj es).field "top"))
      <*> under (.str "left") (Component.readSide ((Value.obj es).field "left"))
      <*> under (.str "right") (Component.readSide ((Value.obj es).field "right"))
      <*> under (.str "bottom") (Component.readSide ((Value.obj es).field "bottom"))
      <*> unknownFields es Component.fields
  | _ => issue .modelType
termination_by sizeOf v
decreasing_by all_goals exact Value.sizeOf_field_lt es _

/-- Reads what stands at a side of a component: nothing, when it is null or absent. -/
def Component.readSide (v : Value) : Reading (Option (Position Component)) :=
  match v with
  | .null => pure none
  | .obj es =>
    some <$> (Position.mk <$> fieldOr es ["className", "class_name"] none (optional Reading.text)
      <*> (if Entries.contains (.str "components") es then
          under (.str "components") (Component.readList ((Value.obj es).field "components"))
        else pure [])
      <*> unknownFields es Position.fields)
  | _ => issue .modelType
termination_by sizeOf v
decreasing_by exact Value.sizeOf_field_lt es _

/-- Reads a list of components. -/
def Component.readList (v : Value) : Reading (List Component) :=
  match v with
  | .list vs => Component.readItems 0 vs
  | _ => issue .listType
termination_by sizeOf v

/-- Reads the components of a list from a position on. -/
def Component.readItems (i : Nat) (vs : List Value) : Reading (List Component) :=
  match vs with
  | [] => pure []
  | v :: vs => List.cons <$> under (.int i) (Component.read v) <*> Component.readItems (i + 1) vs
termination_by sizeOf vs

end

/-- The fields of a step, each with its spellings. -/
def Step.fields : List (List String) :=
  [["name"], ["title"], ["description"], ["className", "class_name"], ["components"], ["events"]]

/-- Reads a step. -/
def Step.read : Value → Reading Step
  | .obj es =>
    Step.mk <$> field es ["name"] Reading.text
      <*> fieldOr es ["title"] none (optional Reading.text)
      <*> fieldOr es ["description"] none (optional Reading.text)
      <*> fieldOr es ["className", "class_name"] none (optional Reading.text)
      <*> fieldOr es ["components"] [] Component.readList
      <*> fieldOr es ["events"] [] Events.read
      <*> unknownFields es Step.fields
  | _ => issue .modelType

/-- The fields of a wizard, each with its spellings. -/
def Wizard.fields : List (List String) :=
  [["name"], ["description"], ["initialStep", "initial_step"], ["isActive", "is_active"],
    ["steps"], ["remoteActions", "remote_actions"]]

/-- Reads the fields of a wizard. -/
def Wizard.readFields : Value → Reading Wizard
  | .obj es =>
    Wizard.mk <$> field es ["name"] Reading.text
      <*> fieldOr es ["description"] none (optional Reading.text)
      <*> field es ["initialStep", "initial_step"] Reading.text
      <*> fieldOr es ["isActive", "is_active"] none (optional truth)
      <*> field es ["steps"] (Reading.list Step.read)
      <*> fieldOr es ["remoteActions", "remote_actions"] [] (Reading.list RemoteAction.read)
      <*> unknownFields es Wizard.fields
  | _ => issue .modelType

/-- The first rule about the document as a whole that a wizard breaks. -/
def Wizard.brokenRule? (w : Wizard) : Option String :=
  if ¬ (w.steps.map Step.name).Nodup then some "Duplicate step names"
  else if ¬ (w.remoteActions.map RemoteAction.name).Nodup then some "Duplicate action names"
  else if w.initialStep ∉ w.steps.map Step.name then
    some s!"initialStep '{w.initialStep}' not found in steps"
  else none

/-- **The wizard that a document describes,** or all that is wrong with the document. -/
def Wizard.read (v : Value) : Except Error Wizard :=
  match Wizard.readFields v with
  | .error issues => .error (.documentInvalid issues)
  | .ok w =>
    match w.brokenRule? with
    | some text => .error (.documentInvalid [⟨[], .invariant text⟩])
    | none => .ok w

end WizardLogic
