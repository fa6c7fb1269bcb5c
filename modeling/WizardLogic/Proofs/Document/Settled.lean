import WizardLogic.Proofs.Document.Written

/-!
# Settled wizards

A part of a wizard document is *settled* if writing it without nulls and reading it again loses
nothing of it (`Wizard.isSettled`). Only unknown fields can get lost or be mistaken for declared
ones, so it is a matter of the unknown fields of the part and of the parts inside it.

For each kind of part the file lists the declared fields with their spellings and with what is
written for them, and says when reading an object gives the part: when reading each of its fields
gives the field.
-/

namespace WizardLogic

open Reading

/-! ### Declared fields -/

/-- The declared fields of a remote action. -/
def RemoteAction.declared (a : RemoteAction) : List Declared :=
  [⟨"name", [], .str a.name⟩, ⟨"method", [], .str a.method.name⟩, ⟨"url", [], .str a.url⟩,
    ⟨"contentType", ["content_type"], .str a.contentType.name⟩, ⟨"body", [], .ofText? a.body⟩,
    ⟨"params", [], .ofText? a.params⟩, ⟨"headers", [], .ofText? a.headers⟩,
    ⟨"expression", [], .ofText? a.expression⟩,
    ⟨"expressionKind", ["expression_kind"], .str a.expressionKind.name⟩,
    ⟨"certificateName", ["certificate_name"], .ofText? a.certificateName⟩]

/-- The sides of a component, each under the name of its field. -/
def Component.sides (c : Component) : List (String × Option (Position Component)) :=
  [("top", c.top), ("left", c.left), ("right", c.right), ("bottom", c.bottom)]

/-- The declared fields of a component. -/
def Component.declared (nulls : Nulls) (c : Component) : List Declared :=
  [⟨"order", [], .int c.order⟩, ⟨"name", [], .str c.name⟩,
    ⟨"componentType", ["component_type"], .ofText? c.componentType⟩,
    ⟨"component", [], c.component⟩, ⟨"className", ["class_name"], .ofText? c.className⟩,
    ⟨"events", [], c.events.toValue⟩] ++
  c.sides.map fun side => ⟨side.1, [], Component.sideToValue nulls side.2⟩

/-- The declared fields of a position. -/
def Position.declared (nulls : Nulls) (p : Position Component) : List Declared :=
  [⟨"className", ["class_name"], .ofText? p.className⟩,
    ⟨"components", [], .list (p.components.map (Component.toValue nulls))⟩]

/-- The declared fields of a step. -/
def Step.declared (nulls : Nulls) (s : Step) : List Declared :=
  [⟨"name", [], .str s.name⟩, ⟨"title", [], .ofText? s.title⟩,
    ⟨"description", [], .ofText? s.description⟩,
    ⟨"className", ["class_name"], .ofText? s.className⟩,
    ⟨"components", [], .list (s.components.map (Component.toValue nulls))⟩,
    ⟨"events", [], s.events.toValue⟩]

/-- What is written for a truth value that may be null. -/
def Value.ofTruth? : Option Bool → Value
  | some b => .bool b
  | none => .null

/-- The declared fields of a wizard. -/
def Wizard.declared (nulls : Nulls) (w : Wizard) : List Declared :=
  [⟨"name", [], .str w.name⟩, ⟨"description", [], .ofText? w.description⟩,
    ⟨"initialStep", ["initial_step"], .str w.initialStep⟩,
    ⟨"isActive", ["is_active"], .ofTruth? w.isActive⟩,
    ⟨"steps", [], .list (w.steps.map (Step.toValue nulls))⟩,
    ⟨"remoteActions", ["remote_actions"],
      .list (w.remoteActions.map (RemoteAction.toValue nulls))⟩]

/-! ### Settled parts -/

/-- Whether writing and reading a remote action loses nothing. -/
def RemoteAction.isSettled (a : RemoteAction) : Bool := keepsExtra a.declared a.extra

mutual

/-- Whether writing and reading a component loses nothing. -/
def Component.isSettled : Component → Bool
  | c@⟨_, _, _, _, _, _, top, left, right, bottom, extra⟩ =>
    keepsExtra (c.declared .dropped) extra && Component.isSideSettled top &&
      Component.isSideSettled left && Component.isSideSettled right &&
      Component.isSideSettled bottom

/-- Whether writing and reading what stands at a side loses nothing. -/
def Component.isSideSettled : Option (Position Component) → Bool
  | none => true
  | some p@⟨_, components, extra⟩ =>
    keepsExtra (p.declared .dropped) extra && Component.areSettled components

/-- Whether writing and reading components loses nothing. -/
def Component.areSettled : List Component → Bool
  | [] => true
  | c :: cs => c.isSettled && Component.areSettled cs

end

/-- Whether writing and reading a step loses nothing. -/
def Step.isSettled (s : Step) : Bool :=
  keepsExtra (s.declared .dropped) s.extra && s.components.all Component.isSettled

/-- **Whether writing and reading a wizard loses nothing**: at no depth is there an unknown field
that is null, or one that has another spelling of a declared field that is null. -/
def Wizard.isSettled (w : Wizard) : Bool :=
  keepsExtra (w.declared .dropped) w.extra && w.steps.all Step.isSettled &&
    w.remoteActions.all RemoteAction.isSettled

namespace Component

theorem isSettled_eq (c : Component) : c.isSettled =
    (keepsExtra (c.declared .dropped) c.extra && c.sides.all fun side => isSideSettled side.2) := by
  cases c
  simp only [isSettled, sides, List.all_cons, List.all_nil, Bool.and_true, Bool.and_assoc]

theorem isSideSettled_some (p : Position Component) : isSideSettled (some p) =
    (keepsExtra (p.declared .dropped) p.extra && p.components.all isSettled) := by
  have hall (cs : List Component) : areSettled cs = cs.all isSettled := by
    induction cs with
    | nil => rfl
    | cons c cs ih => rw [areSettled, ih, List.all_cons]
  rw [← hall]
  rfl

theorem listToValues_eq_map (nulls : Nulls) (cs : List Component) :
    listToValues nulls cs = cs.map (toValue nulls) := by
  induction cs with
  | nil => rfl
  | cons c cs ih => rw [listToValues, ih, List.map_cons]

end Component

/-! ### What is written of a part -/

theorem RemoteAction.toValue_eq (nulls : Nulls) (a : RemoteAction) :
    a.toValue nulls = nulls.objectOf a.declared a.extra := rfl

theorem Component.toValue_eq (nulls : Nulls) (c : Component) :
    c.toValue nulls = nulls.objectOf (c.declared nulls) c.extra := by
  cases c
  rfl

theorem Component.sideToValue_some (nulls : Nulls) (p : Position Component) :
    Component.sideToValue nulls (some p) = nulls.objectOf (p.declared nulls) p.extra := by
  rw [Component.sideToValue, Component.listToValues_eq_map]
  rfl

theorem Step.toValue_eq (nulls : Nulls) (s : Step) :
    s.toValue nulls = nulls.objectOf (s.declared nulls) s.extra := by
  rw [Step.toValue, Component.listToValues_eq_map]
  rfl

theorem Wizard.toValue_eq (nulls : Nulls) (w : Wizard) :
    w.toValue nulls = nulls.objectOf (w.declared nulls) w.extra := by
  obtain ⟨_, _, _, isActive, _, _, _⟩ := w
  cases isActive <;> rfl

/-! ### Reading a part -/

section Read

variable {es : Entries Value}

theorem RemoteAction.read_obj_eq_pure {a : RemoteAction} :
    RemoteAction.read (.obj es) = pure a ↔
      field es ["name"] Reading.name = pure a.name ∧
      field es ["method"] (word HttpMethod.ofName?) = pure a.method ∧
      field es ["url"] nonEmptyText = pure a.url ∧
      field es ["contentType", "content_type"] (word ContentType.ofName?) = pure a.contentType ∧
      fieldOr es ["body"] none (optional Reading.text) = pure a.body ∧
      fieldOr es ["params"] none (optional Reading.text) = pure a.params ∧
      fieldOr es ["headers"] none (optional Reading.text) = pure a.headers ∧
      fieldOr es ["expression"] none (optional Reading.text) = pure a.expression ∧
      fieldOr es ["expressionKind", "expression_kind"] .query (word ExpressionKind.ofName?) =
        pure a.expressionKind ∧
      fieldOr es ["certificateName", "certificate_name"] none (optional Reading.text) =
        pure a.certificateName ∧
      unknownFields es RemoteAction.fields = pure a.extra := by
  cases a
  simp only [read, seq_eq_pure, map_eq_pure, exists_and_left, exists_exists_and_eq_and,
    exists_exists_and_exists_and_eq_and, ↓existsAndEq, and_true, and_assoc, mk.injEq]

theorem Component.read_obj_eq_pure {c : Component} :
    Component.read (.obj es) = pure c ↔
      fieldOr es ["order"] 0 integer = pure c.order ∧
      field es ["name"] Reading.text = pure c.name ∧
      fieldOr es ["componentType", "component_type"] none (optional Reading.text) =
        pure c.componentType ∧
      fieldOr es ["component"] .null pure = pure c.component ∧
      fieldOr es ["className", "class_name"] none (optional Reading.text) = pure c.className ∧
      fieldOr es ["events"] [] Events.read = pure c.events ∧
      (∀ side ∈ c.sides, readSide ((Value.obj es).field side.1) = pure side.2) ∧
      unknownFields es Component.fields = pure c.extra := by
  cases c
  simp only [read, sides, List.forall_mem_cons, List.not_mem_nil, false_implies, implies_true,
    seq_eq_pure, map_eq_pure, under_eq_pure, exists_and_left, exists_exists_and_eq_and,
    exists_exists_and_exists_and_eq_and, ↓existsAndEq, and_true, and_assoc, mk.injEq]

/-- Components are read like any other list. -/
theorem Component.readList_eq (v : Value) :
    Component.readList v = Reading.list Component.read v := by
  have hitems (vs : List Value) (i : Nat) : readItems i vs = items Component.read i vs := by
    induction vs generalizing i with
    | nil => rw [readItems, items]
    | cons v vs ih => rw [readItems, items, ih]
  cases v with
  | list vs =>
    rw [readList, hitems]
    rfl
  | _ =>
    rw [readList]
    · rfl
    · intro vs h
      cases h

theorem Component.readSide_obj_eq_pure {side : Option (Position Component)} :
    readSide (.obj es) = pure side ↔ ∃ p, some p = side ∧
      fieldOr es ["className", "class_name"] none (optional Reading.text) = pure p.className ∧
      fieldOr es ["components"] [] (Reading.list Component.read) = pure p.components ∧
      unknownFields es Position.fields = pure p.extra := by
  rw [readSide, fieldOr_singleton, funext readList_eq, map_eq_pure]
  constructor
  · rintro ⟨⟨className, components, extra⟩, hp, rfl⟩
    refine ⟨_, rfl, ?_⟩
    simpa only [seq_eq_pure, map_eq_pure, exists_and_left, exists_exists_and_eq_and, ↓existsAndEq,
      and_true, and_assoc, Position.mk.injEq] using hp
  · rintro ⟨⟨className, components, extra⟩, rfl, hp⟩
    refine ⟨_, ?_, rfl⟩
    simpa only [seq_eq_pure, map_eq_pure, exists_and_left, exists_exists_and_eq_and, ↓existsAndEq,
      and_true, and_assoc, Position.mk.injEq] using hp

theorem Step.read_obj_eq_pure {s : Step} :
    Step.read (.obj es) = pure s ↔
      field es ["name"] Reading.text = pure s.name ∧
      fieldOr es ["title"] none (optional Reading.text) = pure s.title ∧
      fieldOr es ["description"] none (optional Reading.text) = pure s.description ∧
      fieldOr es ["className", "class_name"] none (optional Reading.text) = pure s.className ∧
      fieldOr es ["components"] [] (Reading.list Component.read) = pure s.components ∧
      fieldOr es ["events"] [] Events.read = pure s.events ∧
      unknownFields es Step.fields = pure s.extra := by
  cases s
  have hcomponents : Component.readList = Reading.list Component.read :=
    funext Component.readList_eq
  simp only [read, hcomponents, seq_eq_pure, map_eq_pure, exists_and_left,
    exists_exists_and_eq_and, exists_exists_and_exists_and_eq_and, ↓existsAndEq, and_true,
    and_assoc, mk.injEq]

theorem Wizard.readFields_obj_eq_pure {w : Wizard} :
    Wizard.readFields (.obj es) = pure w ↔
      field es ["name"] Reading.text = pure w.name ∧
      fieldOr es ["description"] none (optional Reading.text) = pure w.description ∧
      field es ["initialStep", "initial_step"] Reading.text = pure w.initialStep ∧
      fieldOr es ["isActive", "is_active"] none (optional truth) = pure w.isActive ∧
      field es ["steps"] (Reading.list Step.read) = pure w.steps ∧
      fieldOr es ["remoteActions", "remote_actions"] [] (Reading.list RemoteAction.read) =
        pure w.remoteActions ∧
      unknownFields es Wizard.fields = pure w.extra := by
  cases w
  simp only [readFields, seq_eq_pure, map_eq_pure, exists_and_left, exists_exists_and_eq_and,
    exists_exists_and_exists_and_eq_and, ↓existsAndEq, and_true, and_assoc, mk.injEq]

end Read

end WizardLogic
