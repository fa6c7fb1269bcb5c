import Mathlib
import WizardLogic.Engine.Custom
import WizardLogic.Proofs.Descriptor.Alike
import WizardLogic.Proofs.Run.Balance

/-!
# Extending the vocabulary

Registering a rule for a tag, be it new or known, changes how the descriptors are interpreted that
use the tag in its family, and no others (`Engine.extended_eq`). Where a run never meets such a
descriptor, it is the same run: it has the same results and errors, leaves the same state, sends the
same requests and notes the same records. A document that uses the tag in another family, or has it
in its constants, is not touched, and neither is what a run reads from the state or from a remote
action.

Looking a tag up finds the same rule as before unless it is the registered tag
(`Rules.lookup_register`), and for conditions, whose keys are tried one after the other, a key
under which the condition has nothing is passed over wherever it is registered
(`Rules.find?_register`).
-/

namespace WizardLogic

/-! ### Registered rules -/

namespace Rules

variable {α : Type} {tag : String} {rule : α}

/-- **Other tags keep their rules.** -/
theorem lookup_register {t : String} (h : t ≠ tag) (rs : Rules α) :
    (rs.register tag rule).lookup t = rs.lookup t := by
  induction rs with
  | nil =>
    have hne : (t == tag) = false := beq_false_of_ne h
    rw [register, List.lookup_cons, hne]
  | cons r rs ih =>
    obtain ⟨t', rule'⟩ := r
    rw [register]
    split
    · next heq =>
      have hne : (t == t') = false := beq_false_of_ne (heq ▸ h)
      rw [List.lookup_cons, List.lookup_cons, hne]
    · rw [List.lookup_cons, List.lookup_cons, ih]

/-- **A search by tags that passes over a tag finds the same** with a rule registered for it. -/
theorem find?_register {p : String → Bool} (h : p tag = false) (rs : Rules α) :
    (rs.register tag rule).find? (fun r => p r.1) = rs.find? fun r => p r.1 := by
  induction rs with
  | nil => simp [register, h]
  | cons r rs ih =>
    obtain ⟨t, rule'⟩ := r
    rw [register]
    split
    · next heq =>
      rw [List.find?_cons_of_neg (by simp [heq, h]), List.find?_cons_of_neg (by simp [heq, h])]
    · rw [List.find?_cons, List.find?_cons, ih]

end Rules

/-- A rule that is registered for a tag of a family. -/
inductive Registration
  | context (tag : String) (rule : ContextRule)
  | condition (key : String) (rule : ConditionRule)
  | action (tag : String) (rule : ActionRule)
  | block (tag : String) (rule : BlockRule)

namespace Registration

/-- The family in which a rule is registered. -/
def family : Registration → Family
  | context .. => .context
  | condition .. => .condition
  | action .. => .action
  | block .. => .block

/-- The tag for which a rule is registered. -/
def tag : Registration → String
  | context tag _ | condition tag _ | action tag _ | block tag _ => tag

end Registration

/-- A vocabulary with one more rule registered. -/
def Registry.extended (r : Registry) : Registration → Registry
  | .context tag rule => r.withContext tag rule
  | .condition key rule => r.withCondition key rule
  | .action tag rule => r.withAction tag rule
  | .block tag rule => r.withBlock tag rule

namespace Engine

/-- An engine with one more rule registered. -/
def extended (en : Engine) (g : Registration) : Engine :=
  { en with registry := en.registry.extended g }

variable {en : Engine} {g : Registration}

/-! ### The rules of descriptors -/

theorem sameRule_extended_context {d : Value} (h : ¬ (Descriptor.context d).Uses g.family g.tag) :
    en.contextRule d = (en.extended g).contextRule d := by
  cases g with
  | context tag rule =>
    unfold contextRule
    cases d with
    | obj es =>
      dsimp only [extended, Registry.extended, Registry.withContext]
      cases htype : (Value.obj es).field "type" with
      | str type =>
        have htag : type ≠ tag := fun heq => h ⟨rfl, heq ▸ htype⟩
        dsimp only
        rw [Rules.lookup_register htag]
      | _ => rfl
    | _ => rfl
  | _ => rfl

theorem sameRule_extended_condition {c : Value}
    (h : ¬ (Descriptor.condition c).Uses g.family g.tag) :
    en.conditionRule? c = (en.extended g).conditionRule? c := by
  cases g with
  | condition key rule =>
    have hnull : (!(c.field key).isNull) = false := by
      rw [Bool.not_eq_false']
      exact Bool.eq_true_of_not_eq_false fun hkey => h ⟨rfl, hkey⟩
    exact (Rules.find?_register (p := fun k => !(c.field k).isNull) hnull en.registry.conditions).symm
  | _ => rfl

theorem sameRule_extended_action {d : Value} (h : ¬ (Descriptor.action d).Uses g.family g.tag) :
    en.actionRule? d = (en.extended g).actionRule? d := by
  cases g with
  | action tag rule =>
    unfold actionRule?
    cases htype : d.field "type" with
    | str type =>
      have htag : type ≠ tag := fun heq => h ⟨rfl, heq ▸ htype⟩
      dsimp only [extended, Registry.extended, Registry.withAction]
      rw [Rules.lookup_register htag]
    | _ => rfl
  | _ => rfl

theorem sameRule_extended_block {b : Value} (h : ¬ (Descriptor.block b).Uses g.family g.tag) :
    en.blockRule? b = (en.extended g).blockRule? b := by
  cases g with
  | block tag rule =>
    unfold blockRule?
    cases htype : blockType b with
    | str type =>
      have htag : type ≠ tag := fun heq => h ⟨rfl, heq ▸ htype⟩
      dsimp only [extended, Registry.extended, Registry.withBlock]
      rw [Rules.lookup_register htag]
    | _ => rfl
  | _ => rfl

/-- A descriptor that does not use the registered tag is read as before. -/
theorem readsAlike_extended {x : Descriptor} (h : ¬ x.Uses g.family g.tag) :
    en.ReadsAlike (en.extended g) x where
  rule := by
    obtain ⟨⟨_ | _ | _ | _⟩ | _, v⟩ := x
    · exact sameRule_extended_context h
    · exact sameRule_extended_condition h
    · exact sameRule_extended_action h
    · exact sameRule_extended_block h
    · trivial
  outside _ := ⟨rfl, rfl⟩

/-- **Extending the vocabulary is conservative.** Whatever rule is registered for a tag of a family,
the blocks, conditions and contexts that involve no descriptor that uses the tag in that family are
interpreted as before, in every state and world. The vocabulary may be any, with custom rules that
ask for parts of the document only, as far as a footprint says. -/
theorem extended_eq {F : Footprint} (hF : F.Covers en.registry) (g : Registration) :
    (∀ v, (∀ x, en.Involves F (.blocks v) x → ¬ x.Uses g.family g.tag) →
      (en.extended g).runBlocks v = en.runBlocks v) ∧
    (∀ c, (∀ x, en.Involves F (.condition c) x → ¬ x.Uses g.family g.tag) →
      ∀ s, (en.extended g).evaluate s c = en.evaluate s c) ∧
    ∀ d, (∀ x, en.Involves F (.context d) x → ¬ x.Uses g.family g.tag) →
      ∀ s, (en.extended g).resolve s d = en.resolve s d := by
  have halike (x : Descriptor) (h : ∀ y, en.Involves F x y → ¬ y.Uses g.family g.tag) :
      en.Alike (en.extended g) x := by
    have hnames : en.SameRemoteNames (en.extended g) := fun _ => rfl
    exact alike_of_involves hF hnames x fun y hy => readsAlike_extended (h y hy)
  refine ⟨fun v h => ?_, fun c h s => ?_, fun d h s => ?_⟩
  · have hblocks : en.runBlocks v = (en.extended g).runBlocks v := halike (.blocks v) h
    exact hblocks.symm
  · exact (halike (.condition c) h s).symm
  · exact (halike (.context d) h s).symm

end Engine

/-! ### Lookalikes -/

/-- An engine with an action that decides its condition. -/
def Engine.withDeciding : Engine :=
  { Engine.bare with registry := Registry.builtIn.withAction "DECIDE" (.custom .decideCondition) }

/-- The footprint of rules for actions that ask for their condition only. -/
def Footprint.ofCondition : Footprint :=
  { Footprint.whole with action := fun _ _ => Asking.one .condition "condition" }

theorem Footprint.covers_ofCondition :
    Footprint.ofCondition.Covers Engine.withDeciding.registry where
  context hmem := (Footprint.covers_whole _).context hmem
  condition hmem := (Footprint.covers_whole _).condition hmem
  block hmem := (Footprint.covers_whole _).block hmem
  action {tag handler} hmem {d f g} _ h := by
    obtain ⟨-, rfl⟩ : tag = "DECIDE" ∧ handler = .decideCondition := by
      simpa [Engine.withDeciding, Registry.withAction, Registry.builtIn, Rules.register] using hmem
    have hcondition := h.services.evaluate_eq "condition" (by simp [Footprint.ofCondition])
    simp only [ActionHandler.decideCondition, hcondition]

/-- A context that comes to the items of a loop: one constant, which looks like a context of
loops. -/
def lookalikeItems : Value := constant (.list [.obj [(.str "type", .str "FOREACH")]])

/-- An action that decides a condition. -/
def decideTrue : Value := .obj [(.str "type", .str "DECIDE"), (.str "condition", .bool true)]

/-- A loop block, which has the type of a context of loops too. -/
def lookalikeLoop : Value := loopOver "i" lookalikeItems [decideTrue] []

/-- What running the loop involves. -/
def ofLookalikeLoop : List Descriptor :=
  [.blocks (.list [lookalikeLoop]), .block lookalikeLoop, .context lookalikeItems,
    .contexts .null, .actions (.list [decideTrue]), .action decideTrue, .condition (.bool true),
    .blocks (.list [])]

theorem Engine.involves_lookalikeLoop {x : Descriptor}
    (h : Engine.withDeciding.Involves .ofCondition (.blocks (.list [lookalikeLoop])) x) :
    x ∈ ofLookalikeLoop := by
  have hitems : Engine.withDeciding.contextRule lookalikeItems = .ok .value := rfl
  have hdecide : Engine.withDeciding.actionRule? decideTrue =
      some ("DECIDE", .custom .decideCondition) := rfl
  have hloop : Engine.withDeciding.blockRule? lookalikeLoop = some .forEach := rfl
  induction h with
  | refl => exact List.mem_cons_self
  | tail _ hasks ih =>
    simp only [ofLookalikeLoop, List.mem_cons, List.not_mem_nil, or_false] at ih
    rcases ih with rfl | rfl | rfl | rfl | rfl | rfl | rfl | rfl
    -- The list, the loop, its source and what that binds, its actions, one of them, its condition,
    -- and no blocks.
    · obtain ⟨v, hv, rfl⟩ := hasks.of_list
      cases List.mem_singleton.mp hv
      exact List.mem_of_getElem? (i := 1) rfl
    · obtain ⟨role, step, p, hasked, rfl⟩ := hasks.of_block hloop
      simp only [BlockRule.asks, Set.mem_union, Asking.mem_one, Asking.mem_listed] at hasked
      rcases hasked with (⟨rfl, ⟨⟩⟩ | ⟨rfl, ⟨⟩⟩) | ⟨rfl, ⟨⟩⟩
      · exact List.mem_of_getElem? (i := 2) rfl
      · exact List.mem_of_getElem? (i := 4) rfl
      · exact List.mem_of_getElem? (i := 7) rfl
    · obtain ⟨role, step, p, hasked, rfl⟩ := hasks.of_context hitems
      obtain ⟨rfl, ⟨⟩⟩ := Asking.mem_listed.mp hasked
      exact List.mem_of_getElem? (i := 3) rfl
    · cases hasks
    · obtain ⟨v, hv, rfl⟩ := hasks.of_list
      cases List.mem_singleton.mp hv
      exact List.mem_of_getElem? (i := 5) rfl
    · obtain ⟨role, step, p, hasked, rfl⟩ := hasks.of_action hdecide
      obtain ⟨rfl, ⟨⟩⟩ := Asking.mem_one.mp hasked
      exact List.mem_of_getElem? (i := 6) rfl
    · cases hasks with
      | condition hrule _ => cases hrule
    · obtain ⟨v, hv, rfl⟩ := hasks.of_list
      cases hv

/-- The loop is run as before when contexts of loops are resolved in another way. -/
theorem Engine.runBlocks_lookalikeLoop :
    Footprint.ofCondition.Covers Engine.withDeciding.registry ∧
      (∀ x, Engine.withDeciding.Involves .ofCondition (.blocks (.list [lookalikeLoop])) x →
        ¬ x.Uses .context "FOREACH") ∧
      (Engine.withDeciding.extended (.context "FOREACH" (.custom .echo))).runBlocks
          (.list [lookalikeLoop]) =
        Engine.withDeciding.runBlocks (.list [lookalikeLoop]) := by
  have hunused : ∀ x, Engine.withDeciding.Involves .ofCondition (.blocks (.list [lookalikeLoop])) x →
      ¬ x.Uses .context "FOREACH" := by
    intro x hx hused
    have hmem := Engine.involves_lookalikeLoop hx
    simp only [ofLookalikeLoop, List.mem_cons, List.not_mem_nil, or_false] at hmem
    rcases hmem with rfl | rfl | rfl | rfl | rfl | rfl | rfl | rfl <;> cases hused.1
    have htype : lookalikeItems.field "type" = .str "VALUE" := rfl
    exact absurd (htype.symm.trans hused.2) (by simp)
  exact ⟨Footprint.covers_ofCondition, hunused,
    (Engine.extended_eq Footprint.covers_ofCondition (.context "FOREACH" (.custom .echo))).1 _
      hunused⟩

end WizardLogic
