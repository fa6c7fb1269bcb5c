import Mathlib
import WizardLogic.Proofs.Context.Scope
import WizardLogic.Proofs.Run.Deed

/-!
# The descriptors of a document

Which parts of a document are descriptors, and of which family, is not said by their looks: an
object under `value` may look like a context and is a constant all the same. It is said by the rules.
The rule of a descriptor asks the engine to interpret some of its parts, each in a role
(`ContextRule.asks` and its like), so from one descriptor others are asked for (`Engine.Asks`). A
descriptor *involves* what it asks for directly or over others (`Engine.Involves`). Nothing else is
ever interpreted: what the state holds or a remote action answers is not part of any document.

What the built-in rules ask for is known. Of custom rules it is known only that they ask for parts
of what they are given, so it is a parameter (`Footprint`), of which one may require that the custom
rules of a vocabulary keep to it (`Footprint.Covers`). The footprint of everything is kept to by
every rule (`Footprint.covers_whole`).

A descriptor asks for smaller values only (`Engine.Asks.sizeOf_lt`), which gives the induction along
what is asked for.
-/

namespace WizardLogic

/-! ### Roles -/

/-- The families of descriptors. -/
inductive Family
  | context
  | condition
  | action
  | block
deriving DecidableEq

/-- As what the engine takes a part of a document. -/
inductive Role
  /-- As a descriptor of a family. -/
  | one (family : Family)
  /-- As a list of descriptors of a family. -/
  | listed (family : Family)
deriving DecidableEq

/-- A value in a role. -/
structure Descriptor where
  role : Role
  value : Value

/-- A list of contexts that is to be resolved. -/
abbrev Descriptor.contexts (v : Value) : Descriptor := ⟨.listed .context, v⟩

/-- A context that is to be resolved. -/
abbrev Descriptor.context (d : Value) : Descriptor := ⟨.one .context, d⟩

/-- A list of conditions that are to be evaluated. -/
abbrev Descriptor.conditions (v : Value) : Descriptor := ⟨.listed .condition, v⟩

/-- A condition that is to be evaluated. -/
abbrev Descriptor.condition (c : Value) : Descriptor := ⟨.one .condition, c⟩

/-- A list of actions that are to be run. -/
abbrev Descriptor.actions (v : Value) : Descriptor := ⟨.listed .action, v⟩

/-- An action that is to be run. -/
abbrev Descriptor.action (d : Value) : Descriptor := ⟨.one .action, d⟩

/-- A list of blocks that are to be run. -/
abbrev Descriptor.blocks (v : Value) : Descriptor := ⟨.listed .block, v⟩

/-- A block that is to be run. -/
abbrev Descriptor.block (b : Value) : Descriptor := ⟨.one .block, b⟩

/-- Parts that a rule asks for, each in a role. -/
abbrev Asking := Set (Role × PartPath)

namespace Asking

/-- A descriptor of a family. -/
def one (family : Family) (p : PartPath) : Asking := {(.one family, p)}

/-- A list of descriptors of a family. -/
def listed (family : Family) (p : PartPath) : Asking := {(.listed family, p)}

@[simp] theorem mem_one {family : Family} {role : Role} {p q : PartPath} :
    (role, q) ∈ one family p ↔ role = .one family ∧ q = p := by
  simp [one]

@[simp] theorem mem_listed {family : Family} {role : Role} {p q : PartPath} :
    (role, q) ∈ listed family p ↔ role = .listed family ∧ q = p := by
  simp [listed]

end Asking

@[simp] theorem Value.part_nil (v : Value) : v.part [] = v := rfl

@[simp] theorem Value.part_field (v : Value) (name : String) (p : PartPath) :
    v.part (.field name :: p) = (v.field name).part p := rfl

/-! ### What custom rules ask for -/

/-- **The footprint of custom rules**: for each, what it asks for in a descriptor, or in the operand
of a condition. -/
structure Footprint where
  context : ContextHandler → Value → Asking
  condition : ConditionHandler → Value → Asking
  action : ActionHandler → Value → Asking
  block : BlockHandler → Value → Asking

/-- The footprint of everything: all parts in all roles. -/
def Footprint.whole : Footprint where
  context _ _ := Set.univ
  condition _ _ := Set.univ
  action _ _ := Set.univ
  block _ _ := Set.univ

/-- Services that agree on what is asked for. -/
structure Services.AgreeOn (asked : Asking) (f g : Services) : Prop where
  resolve_eq : ∀ p, (.one .context, p) ∈ asked → ∀ s, f.resolve s p = g.resolve s p
  resolveAll_eq : ∀ p, (.listed .context, p) ∈ asked → ∀ s, f.resolveAll s p = g.resolveAll s p
  evaluate_eq : ∀ p, (.one .condition, p) ∈ asked → ∀ s, f.evaluate s p = g.evaluate s p

/-- Services for running that agree on what is asked for. -/
structure RunServices.AgreeOn (asked : Asking) (f g : RunServices) : Prop where
  services : f.toServices.AgreeOn asked g.toServices
  runAction_eq : ∀ p, (.one .action, p) ∈ asked → f.runAction p = g.runAction p
  runActions_eq : ∀ p, (.listed .action, p) ∈ asked → f.runActions p = g.runActions p
  runBlock_eq : ∀ p, (.one .block, p) ∈ asked → f.runBlock p = g.runBlock p
  runBlocks_eq : ∀ p, (.listed .block, p) ∈ asked → f.runBlocks p = g.runBlocks p

/-- **A footprint covers a vocabulary** if its custom rules keep to the footprint: with services
that agree there, they do the same. -/
structure Footprint.Covers (F : Footprint) (r : Registry) : Prop where
  context : ∀ {tag handler}, (tag, .custom handler) ∈ r.contexts → ∀ {d} {f g : Services},
    f.wizard = g.wizard → f.AgreeOn (F.context handler d) g → ∀ s, handler f s d = handler g s d
  condition : ∀ {key handler}, (key, .custom handler) ∈ r.conditions → ∀ {v} {f g : Services},
    f.wizard = g.wizard → f.AgreeOn (F.condition handler v) g → ∀ s, handler f s v = handler g s v
  action : ∀ {tag handler}, (tag, .custom handler) ∈ r.actions → ∀ {d} {f g : RunServices},
    f.wizard = g.wizard → f.AgreeOn (F.action handler d) g → handler f d = handler g d
  block : ∀ {tag handler}, (tag, .custom handler) ∈ r.blocks → ∀ {b} {f g : RunServices},
    f.wizard = g.wizard → f.AgreeOn (F.block handler b) g → handler f b = handler g b

/-- Services that agree on everything are the same. -/
theorem Services.AgreeOn.eq {f g : Services} (hwizard : f.wizard = g.wizard)
    (h : f.AgreeOn Set.univ g) : f = g := by
  obtain ⟨wizard, resolve, resolveAll, evaluate⟩ := f
  obtain ⟨wizard', resolve', resolveAll', evaluate'⟩ := g
  obtain ⟨hresolve, hresolveAll, hevaluate⟩ := h
  have h₁ : resolve = resolve' := funext₂ fun s p => hresolve p trivial s
  have h₂ : resolveAll = resolveAll' := funext₂ fun s p => hresolveAll p trivial s
  have h₃ : evaluate = evaluate' := funext₂ fun s p => hevaluate p trivial s
  rw [show wizard = wizard' from hwizard, h₁, h₂, h₃]

theorem RunServices.AgreeOn.eq {f g : RunServices} (hwizard : f.wizard = g.wizard)
    (h : f.AgreeOn Set.univ g) : f = g := by
  obtain ⟨services, runAction, runActions, runBlock, runBlocks⟩ := f
  obtain ⟨services', runAction', runActions', runBlock', runBlocks'⟩ := g
  obtain ⟨hservices, hrunAction, hrunActions, hrunBlock, hrunBlocks⟩ := h
  have h₁ : services = services' := hservices.eq hwizard
  have h₂ : runAction = runAction' := funext fun p => hrunAction p trivial
  have h₃ : runActions = runActions' := funext fun p => hrunActions p trivial
  have h₄ : runBlock = runBlock' := funext fun p => hrunBlock p trivial
  have h₅ : runBlocks = runBlocks' := funext fun p => hrunBlocks p trivial
  rw [h₁, h₂, h₃, h₄, h₅]

/-- **The footprint of everything covers every vocabulary.** -/
theorem Footprint.covers_whole (r : Registry) : Footprint.whole.Covers r where
  context _ _ _ _ hwizard h s := by rw [h.eq hwizard]
  condition _ _ _ _ hwizard h s := by rw [h.eq hwizard]
  action _ _ _ _ hwizard h := by rw [h.eq hwizard]
  block _ _ _ _ hwizard h := by rw [h.eq hwizard]

/-! ### What rules ask for -/

section Rules

open Asking

variable (F : Footprint)

/-- What the rule of a context asks for: the contexts nested in it, and a built-in rule nothing
else. -/
def ContextRule.asks (d : Value) : ContextRule → Asking
  | .custom handler => listed .context "contexts" ∪ F.context handler d
  | _ => listed .context "contexts"

/-- What the rule of a condition asks for in its operand. -/
def ConditionRule.asks (operand : Value) : ConditionRule → Asking
  | .isEmpty | .matchesRegex => one .context "context"
  | .equals | .lessThan | .moreThan => one .context "context" ∪ one .context "value"
  | .all | .any => listed .condition []
  | .negation => one .condition []
  | .remote => listed .context (remoteContextsField operand)
  | .context => one .context []
  | .custom handler => F.condition handler operand

/-- What the rule of an action asks for. -/
def ActionRule.asks (d : Value) : ActionRule → Asking
  | .goToStep => one .context "stepName"
  | .updateComponent | .setValue => listed .context "targetContexts" ∪ one .context "context"
  | .addError => listed .context "fieldContexts" ∪ listed .context "contexts"
  | .clearErrors => listed .context "fieldContexts"
  | .consoleLog => listed .context "contexts"
  | .removeGroup => one .context "groupIndex"
  | .setLocalContext => one .context "context"
  | .custom handler => F.action handler d
  | .saveStepValues | .initStepValues | .finishWizard | .remoteUpdateComponent | .addGroup
  | .takePhoto | .killTask | .confirmLeavePage => ∅

/-- What a block asks for by its rule; without one it asks for its actions. -/
def BlockRule.asks (b : Value) : Option BlockRule → Asking
  | none | some .actions => listed .action "actions"
  | some .conditional => one .condition "conditions" ∪ listed .action "actions" ∪
      (listed .block "then" ∪ listed .block "else")
  | some .forEach => one .context "context" ∪ listed .action "actions" ∪ listed .block "blocks"
  | some .scheduleTask => listed .block "blocks"
  | some (.custom handler) => F.block handler b

end Rules

/-! ### What is asked for -/

namespace Engine

/-- The predicate that decides a condition, with its rule: the first key of the vocabulary under
which the condition has anything but null. -/
def conditionRule? (en : Engine) (c : Value) : Option (String × ConditionRule) :=
  en.registry.conditions.find? fun (k, _) => !(c.field k).isNull

/-- **A descriptor asks for another one** if its rule asks for the value of that one in its role. A
list asks for its members. -/
inductive Asks (en : Engine) (F : Footprint) : Descriptor → Descriptor → Prop
  | member {family : Family} {items : List Value} {v : Value} : v ∈ items →
      Asks en F ⟨.listed family, .list items⟩ ⟨.one family, v⟩
  | context {d : Value} {rule : ContextRule} {role : Role} {step : PathStep} {p : PartPath} :
      en.contextRule d = .ok rule → (role, step :: p) ∈ rule.asks F d →
      Asks en F (.context d) ⟨role, d.part (step :: p)⟩
  | condition {c : Value} {key : String} {rule : ConditionRule} {role : Role} {p : PartPath} :
      en.conditionRule? c = some (key, rule) → (role, p) ∈ rule.asks F (c.field key) →
      Asks en F (.condition c) ⟨role, (c.field key).part p⟩
  | action {d : Value} {type : String} {rule : ActionRule} {role : Role} {step : PathStep}
      {p : PartPath} :
      en.actionRule? d = some (type, rule) → (role, step :: p) ∈ rule.asks F d →
      Asks en F (.action d) ⟨role, d.part (step :: p)⟩
  | block {es : Entries Value} {role : Role} {step : PathStep} {p : PartPath} :
      (role, step :: p) ∈ BlockRule.asks F (.obj es) (en.blockRule? (.obj es)) →
      Asks en F (.block (.obj es)) ⟨role, (Value.obj es).part (step :: p)⟩

/-- **What a descriptor involves**: itself, and all that is asked for from there on. -/
abbrev Involves (en : Engine) (F : Footprint) : Descriptor → Descriptor → Prop :=
  Relation.ReflTransGen (en.Asks F)

variable {en : Engine} {F : Footprint}

/-- Siblings are the members of a list. -/
theorem exists_list_of_siblingsOf {v d : Value} {items : List Value}
    (h : siblingsOf v = .ok items) (hd : d ∈ items) : ∃ members, v = .list members ∧ d ∈ members := by
  unfold siblingsOf at h
  split at h
  · cases h
    cases hd
  · split at h
    · cases h
    · next members hmembers =>
      split at h
      · next hall =>
        cases h
        have hd' : d ∈ members := List.mem_mergeSort.mp hd
        have hobj : d.isObject = true := List.all_eq_true.mp hall d hd'
        -- Only a list has objects as elements.
        cases v with
        | list items => exact ⟨members, by rw [Option.some.inj hmembers], hd'⟩
        | obj es =>
          obtain ⟨⟨k, w⟩, -, rfl⟩ := List.mem_map.mp (Option.some.inj hmembers ▸ hd')
          cases k <;> cases hobj
        | str s =>
          obtain ⟨c, -, rfl⟩ := List.mem_map.mp (Option.some.inj hmembers ▸ hd')
          cases hobj
        | _ => cases hmembers
      · cases h

theorem asks_sibling {family : Family} {v d : Value} {items : List Value}
    (h : siblingsOf v = .ok items) (hd : d ∈ items) :
    en.Asks F ⟨.listed family, v⟩ ⟨.one family, d⟩ := by
  obtain ⟨members, rfl, hmem⟩ := exists_list_of_siblingsOf h hd
  exact .member hmem

/-- What has a type is an object. -/
theorem exists_eq_obj_of_field {d : Value} (name : String) (h : d.field name ≠ .null) :
    ∃ es, d = .obj es := by
  cases d with
  | obj es => exact ⟨es, rfl⟩
  | _ => exact absurd rfl h

theorem exists_eq_obj_of_contextRule {d : Value} {rule : ContextRule}
    (h : en.contextRule d = .ok rule) : ∃ es, d = .obj es := by
  obtain ⟨type, htype, -⟩ := exists_type_of_contextRule h
  exact exists_eq_obj_of_field "type" (by rw [htype]; simp)

theorem exists_eq_obj_of_actionRule? {d : Value} {type : String} {rule : ActionRule}
    (h : en.actionRule? d = some (type, rule)) : ∃ es, d = .obj es := by
  obtain ⟨htype, -⟩ := actionRule?_eq_some.mp h
  exact exists_eq_obj_of_field "type" (by rw [htype]; simp)

theorem field_ne_null_of_conditionRule? {c : Value} {key : String} {rule : ConditionRule}
    (h : en.conditionRule? c = some (key, rule)) : c.field key ≠ .null := by
  have hkey := List.find?_some h
  intro hnull
  simp [hnull, Value.isNull] at hkey

/-! ### What a descriptor of a known rule asks for -/

section Known

variable {d : Value} {x : Descriptor}

theorem Asks.of_list {family : Family} {items : List Value}
    (h : en.Asks F ⟨.listed family, .list items⟩ x) : ∃ v ∈ items, x = ⟨.one family, v⟩ := by
  cases h with
  | member hv => exact ⟨_, hv, rfl⟩

theorem Asks.of_context {rule : ContextRule} (hrule : en.contextRule d = .ok rule)
    (h : en.Asks F (.context d) x) :
    ∃ role step p, (role, step :: p) ∈ rule.asks F d ∧ x = ⟨role, d.part (step :: p)⟩ := by
  cases h with
  | context hrule' hasked =>
    cases hrule.symm.trans hrule'
    exact ⟨_, _, _, hasked, rfl⟩

theorem Asks.of_action {type : String} {rule : ActionRule}
    (hrule : en.actionRule? d = some (type, rule)) (h : en.Asks F (.action d) x) :
    ∃ role step p, (role, step :: p) ∈ rule.asks F d ∧ x = ⟨role, d.part (step :: p)⟩ := by
  cases h with
  | action hrule' hasked =>
    cases hrule.symm.trans hrule'
    exact ⟨_, _, _, hasked, rfl⟩

theorem Asks.of_block {b : Value} {rule? : Option BlockRule} (hrule : en.blockRule? b = rule?)
    (h : en.Asks F (.block b) x) :
    ∃ role step p, (role, step :: p) ∈ BlockRule.asks F b rule? ∧
      x = ⟨role, b.part (step :: p)⟩ := by
  cases h with
  | block hasked => exact ⟨_, _, _, hrule ▸ hasked, rfl⟩

end Known

/-- **A descriptor asks for smaller values only.** -/
theorem Asks.sizeOf_lt {x y : Descriptor} (h : en.Asks F x y) :
    sizeOf y.value < sizeOf x.value := by
  cases h with
  | member hv =>
    have := List.sizeOf_lt_of_mem hv
    simp only [Value.list.sizeOf_spec]
    omega
  | context hrule _ =>
    obtain ⟨es, rfl⟩ := exists_eq_obj_of_contextRule hrule
    exact Value.sizeOf_part_lt es _ _
  | @condition c key _ _ p hrule _ =>
    obtain ⟨es, rfl⟩ := exists_eq_obj_of_field _ (field_ne_null_of_conditionRule? hrule)
    exact Nat.lt_of_le_of_lt (Value.sizeOf_part_le _ p) (Value.sizeOf_field_lt es key)
  | action hrule _ =>
    obtain ⟨es, rfl⟩ := exists_eq_obj_of_actionRule? hrule
    exact Value.sizeOf_part_lt es _ _
  | block _ => exact Value.sizeOf_part_lt _ _ _

/-- **The induction along what is asked for**: a statement about descriptors may be shown of each
from those it asks for. -/
theorem asks_induction (en : Engine) (F : Footprint) {P : Descriptor → Prop}
    (step : ∀ x, (∀ y, en.Asks F x y → P y) → P x) (x : Descriptor) : P x := by
  induction hn : sizeOf x.value using Nat.strong_induction_on generalizing x with
  | _ n ih =>
    subst hn
    exact step x fun y hy => ih _ hy.sizeOf_lt y rfl

end Engine

/-! ### The tags that descriptors use -/

/-- **A descriptor uses a tag of a family**: it carries the tag as its type, where a block without
type that has conditions is conditional, or, if it is a condition, has anything but null under the
tag. -/
def Descriptor.Uses (family : Family) (tag : String) (x : Descriptor) : Prop :=
  x.role = .one family ∧
    match family with
    | .context | .action => x.value.field "type" = .str tag
    | .condition => (x.value.field tag).isNull = false
    | .block => Engine.blockType x.value = .str tag

end WizardLogic
