import WizardLogic.Display
import WizardLogic.Document.Basic

/-!
# Writing wizard documents

The value that describes a wizard: declared fields in their order and wire spelling, then unknown
fields in theirs. With `Nulls.dropped` a field or unknown field that is null is left out, at every
level of the document's own structure; values that the document only carries keep their nulls. With
`Nulls.kept` nothing is left out, so that two wizards are the same wizard (`Wizard.same`) exactly
when they describe themselves alike.
-/

namespace WizardLogic

/-- Whether null fields are written. -/
inductive Nulls
  | kept
  | dropped
deriving DecidableEq, Repr

/-- An object of declared fields and unknown ones. -/
def Nulls.object (nulls : Nulls) (declared : List (String × Value)) (extra : Entries Value) :
    Value :=
  let all := declared.map (fun (k, v) => (Key.str k, v)) ++ extra
  match nulls with
  | .kept => .obj all
  | .dropped => .obj (all.filter fun (_, v) => !v.isNull)

/-- A text or null. -/
def Value.ofText? : Option String → Value
  | some s => .str s
  | none => .null

/-- The description of a remote action. -/
def RemoteAction.toValue (nulls : Nulls) (a : RemoteAction) : Value :=
  nulls.object
    [("name", .str a.name), ("method", .str a.method.name), ("url", .str a.url),
      ("contentType", .str a.contentType.name), ("body", .ofText? a.body),
      ("params", .ofText? a.params), ("headers", .ofText? a.headers),
      ("expression", .ofText? a.expression), ("expressionKind", .str a.expressionKind.name),
      ("certificateName", .ofText? a.certificateName)]
    a.extra

/-- The description of the blocks declared for events. -/
def Events.toValue (es : Events) : Value :=
  .obj (es.map fun (e, blocks) => (.str e.name, .list blocks))

mutual

/-- The description of a component. -/
def Component.toValue (nulls : Nulls) : Component → Value
  | ⟨order, name, componentType, component, className, events, top, left, right, bottom, extra⟩ =>
    nulls.object
      [("order", .int order), ("name", .str name), ("componentType", .ofText? componentType),
        ("component", component), ("className", .ofText? className),
        ("events", events.toValue), ("top", Component.sideToValue nulls top),
        ("left", Component.sideToValue nulls left), ("right", Component.sideToValue nulls right),
        ("bottom", Component.sideToValue nulls bottom)]
      extra

/-- The description of what stands at a side. -/
def Component.sideToValue (nulls : Nulls) : Option (Position Component) → Value
  | none => .null
  | some ⟨className, components, extra⟩ =>
    nulls.object
      [("className", .ofText? className),
        ("components", .list (Component.listToValues nulls components))]
      extra

/-- The descriptions of components. -/
def Component.listToValues (nulls : Nulls) : List Component → List Value
  | [] => []
  | c :: cs => c.toValue nulls :: Component.listToValues nulls cs

end

/-- The description of a step. -/
def Step.toValue (nulls : Nulls) (s : Step) : Value :=
  nulls.object
    [("name", .str s.name), ("title", .ofText? s.title), ("description", .ofText? s.description),
      ("className", .ofText? s.className),
      ("components", .list (Component.listToValues nulls s.components)),
      ("events", s.events.toValue)]
    s.extra

/-- The description of a wizard. -/
def Wizard.toValue (nulls : Nulls) (w : Wizard) : Value :=
  nulls.object
    [("name", .str w.name), ("description", .ofText? w.description),
      ("initialStep", .str w.initialStep),
      ("isActive", match w.isActive with | some b => .bool b | none => .null),
      ("steps", .list (w.steps.map (Step.toValue nulls))),
      ("remoteActions", .list (w.remoteActions.map (RemoteAction.toValue nulls)))]
    w.extra

/-- **The document of a wizard:** its description without null fields. -/
def Wizard.document (w : Wizard) : Value := w.toValue .dropped

/-! ### Keys as text -/

/-- The text that a key becomes where all keys are text. -/
def Key.text : Key → String
  | .str s => s
  | .bool b => if b then "true" else "false"
  | k => String.ofList k.literal

mutual

/-- A value in which all keys are text. Where two keys become the same, the later entry wins. -/
def Value.withTextKeys : Value → Value
  | .list items => .list (Value.withTextKeysItems items)
  | .obj es => .obj (Entries.ofList (Value.withTextKeysEntries es))
  | v => v

/-- The items with text keys. -/
def Value.withTextKeysItems : List Value → List Value
  | [] => []
  | v :: vs => v.withTextKeys :: Value.withTextKeysItems vs

/-- The entries with text keys. -/
def Value.withTextKeysEntries : List (Key × Value) → List (Key × Value)
  | [] => []
  | (k, v) :: rest => (.str k.text, v.withTextKeys) :: Value.withTextKeysEntries rest

end

/-- The document of a wizard as JSON has it, in which all keys are text. -/
def Wizard.jsonDocument (w : Wizard) : Value := w.document.withTextKeys

/-- Whether two wizards are the same: equal field by field, without regard to the order of unknown
fields. -/
def Wizard.same (w v : Wizard) : Bool := (w.toValue .kept).looseEq (v.toValue .kept)

end WizardLogic
