import Mathlib
import WizardLogic.Proofs.Document.Names
import WizardLogic.Proofs.Document.Places
import WizardLogic.Proofs.Run.Balance
import WizardLogic.Proofs.Run.Block

/-!
# Where events go

An event is addressed to a step and, by name, to one of its components. The address is wrong
(`Wizard.Misses`) exactly if no step has the name of the step, or no component at any place of that
step has the name of the component. Else it stands for the component at the first place with the
name, and dispatching the event is running the blocks that this component declares for it, or
nothing if it declares none (`Engine.dispatch_component`).

An event with a wrong address, or of an unknown type, leaves the world as it was
(`Engine.runFrom_dispatch_of_error`).
-/

namespace WizardLogic

/-- **Addresses that no component of a wizard has,** each with the error that says so. -/
inductive Wizard.Misses (w : Wizard) (step name : String) : Error → Prop
  | step (h : ∀ s ∈ w.steps, s.name ≠ step) : Misses w step name (.noStep (.str step))
  | component {s : Step} (hs : s ∈ w.steps) (hstep : s.name = step)
    (h : ∀ place c, s.at? place = some c → c.name ≠ name) :
    Misses w step name (.noComponent (.str name) (.str step))

theorem Wizard.Misses.family_eq {w : Wizard} {step name : String} {e : Error}
    (h : w.Misses step name e) : e.family = .notFound := by
  cases h <;> rfl

/-- An address is wrong, or some component is the first with its name. -/
theorem Wizard.misses_or_isFirstNamed (w : Wizard) (step name : String) :
    (∃ e, w.Misses step name e) ∨
      ∃ s ∈ w.steps, s.name = step ∧ ∃ place c, s.IsFirstNamed name place c := by
  by_cases hstep : ∃ s ∈ w.steps, s.name = step
  · obtain ⟨s, hs, hname⟩ := hstep
    cases hc : s.component? name with
    | none => exact .inl ⟨_, .component hs hname (Step.component?_eq_none_iff.mp hc)⟩
    | some c =>
      obtain ⟨place, hfirst⟩ := Step.component?_eq_some_iff.mp hc
      exact .inr ⟨s, hs, hname, place, c, hfirst⟩
  · exact .inl ⟨_, .step fun s hs hname => hstep ⟨s, hs, hname⟩⟩

namespace Engine

variable {en : Engine} {step event component : Value} {events : Events} {f : Failure}

/-! ### What is found before anything runs -/

theorem blocksFor_of_error (h : en.eventsAt step component = .error f) :
    en.blocksFor step event component = .error f := by
  rw [blocksFor, h]

theorem blocksFor_of_ofValue?_eq_none (h : en.eventsAt step component = .ok events)
    (hevent : EventType.ofValue? event = none) :
    en.blocksFor step event component = .error (.fault .badValue) := by
  simp only [blocksFor, h, hevent]

theorem blocksFor_of_ok {e : EventType} (h : en.eventsAt step component = .ok events) :
    en.blocksFor step (.str e.name) component = .ok (events.blocks e) := by
  have hevent : EventType.ofValue? (.str e.name) = some e := e.ofName?_name
  simp only [blocksFor, h, hevent]

/-- **What goes wrong with an address goes wrong before anything runs.** -/
theorem runFrom_dispatch_of_error (h : en.blocksFor step event component = .error f) (w : World) :
    (en.dispatch step event component).runFrom w = (.error f, w) := by
  rw [dispatch, h]
  rfl

theorem dispatch_of_ok {blocks : List Value}
    (h : en.blocksFor step event component = .ok blocks) :
    en.dispatch step event component = en.runBlocks (.list blocks) := by
  rw [dispatch, h]

/-- Without blocks nothing is run. -/
theorem runFrom_runBlocks_nil (w : World) : (en.runBlocks (.list [])).runFrom w = (.ok [], w) := by
  have hnone : siblingsOf (.list []) = .ok [] := rfl
  rw [runBlocks_of_ok hnone, runBlockList_nil, Run.runFrom_pure]

/-! ### Addresses -/

section Address

variable {step name : String} (hsteps : (en.wizard.steps.map Step.name).Nodup)
include hsteps

theorem eventsAt_of_misses {e : Error} (h : en.wizard.Misses step name e) :
    en.eventsAt (.str step) (.str name) = .error (.error e) := by
  have hfinds : FindsByName en.wizard.step? Step.name en.wizard.steps := findsByName_find? hsteps
  cases h with
  | step hother =>
    have hnone : en.wizard.stepOf? (.str step) = none := by
      refine (hfinds.missing step).mpr fun hmem => ?_
      obtain ⟨s, hs, hname⟩ := List.mem_map.mp hmem
      exact hother s hs hname
    simp only [eventsAt, hnone]
  | @component s hs hstep hother =>
    have hfound : en.wizard.stepOf? (.str step) = some s := (hfinds.found step s).mpr ⟨hs, hstep⟩
    have hnone : s.componentOf? (.str name) = none := Step.component?_eq_none_iff.mpr hother
    simp only [eventsAt, hfound, hnone]
    rfl

theorem eventsAt_of_isFirstNamed {s : Step} (hs : s ∈ en.wizard.steps) (hstep : s.name = step)
    {place : ℕ × Place} {c : Component} (h : s.IsFirstNamed name place c) :
    en.eventsAt (.str step) (.str name) = .ok c.events := by
  have hfinds : FindsByName en.wizard.step? Step.name en.wizard.steps := findsByName_find? hsteps
  have hfound : en.wizard.stepOf? (.str step) = some s := (hfinds.found step s).mpr ⟨hs, hstep⟩
  have hcomponent : s.componentOf? (.str name) = some c :=
    Step.component?_eq_some_iff.mpr ⟨place, h⟩
  simp only [eventsAt, hfound, hcomponent]
  rfl

end Address

/-- **Dispatching an event to a component.** Looking for the component fails exactly if the address
is wrong, and else gives what the component at the first place with the name declares. Dispatching
an event that it declares is running the blocks that it declares for it, and dispatching another one
gives no results. The lists of all components, of a step and of a component, go through their places
in pre-order. Whatever is wrong with an address or with the type of an event, the world is left as
it was. -/
theorem dispatch_component {document : Value} (hread : Wizard.read document = .ok en.wizard)
    (step name : String) :
    (∀ f, en.eventsAt (.str step) (.str name) = .error f ↔
      ∃ e, en.wizard.Misses step name e ∧ e.family = .notFound ∧ f = .error e) ∧
    (∀ events, en.eventsAt (.str step) (.str name) = .ok events ↔
      ∃ s ∈ en.wizard.steps, s.name = step ∧ ∃ place c, s.IsFirstNamed name place c ∧
        c.events = events) ∧
    (∀ s ∈ en.wizard.steps, s.name = step → ∀ place c, s.IsFirstNamed name place c →
      ∀ e : EventType,
        (∀ blocks, c.events.lookup e = some blocks →
          en.dispatch (.str step) (.str e.name) (.str name) = en.runBlocks (.list blocks)) ∧
        (c.events.lookup e = none → ∀ w,
          (en.dispatch (.str step) (.str e.name) (.str name)).runFrom w = (.ok [], w))) ∧
    (∀ s ∈ en.wizard.steps, GoesThrough s.at? Step.Precedes s.allComponents) ∧
    (∀ c : Component, GoesThrough c.at? Place.Precedes c.all) ∧
    ∀ (step event component : Value) (w : World),
      (∀ f, en.eventsAt step component = .error f →
        (en.dispatch step event component).runFrom w = (.error f, w)) ∧
      ∀ events, en.eventsAt step component = .ok events → EventType.ofValue? event = none →
        (en.dispatch step event component).runFrom w = (.error (.fault .badValue), w) := by
  have hsteps := (Wizard.read_eq_ok_iff_isWellNamed.mp hread).2.steps
  refine ⟨fun f => ⟨fun h => ?_, ?_⟩, fun events => ⟨fun h => ?_, ?_⟩, ?_, ?_, ?_, ?_⟩
  · obtain ⟨e, he⟩ | ⟨s, hs, hstep, place, c, hfirst⟩ :=
      en.wizard.misses_or_isFirstNamed step name
    · rw [eventsAt_of_misses hsteps he] at h
      exact ⟨e, he, he.family_eq, (Except.error.inj h).symm⟩
    · rw [eventsAt_of_isFirstNamed hsteps hs hstep hfirst] at h
      cases h
  · rintro ⟨e, he, -, rfl⟩
    exact eventsAt_of_misses hsteps he
  · obtain ⟨e, he⟩ | ⟨s, hs, hstep, place, c, hfirst⟩ :=
      en.wizard.misses_or_isFirstNamed step name
    · rw [eventsAt_of_misses hsteps he] at h
      cases h
    · rw [eventsAt_of_isFirstNamed hsteps hs hstep hfirst] at h
      exact ⟨s, hs, hstep, place, c, hfirst, Except.ok.inj h⟩
  · rintro ⟨s, hs, hstep, place, c, hfirst, rfl⟩
    exact eventsAt_of_isFirstNamed hsteps hs hstep hfirst
  · intro s hs hstep place c hfirst e
    have hdispatch := dispatch_of_ok
      (blocksFor_of_ok (e := e) (eventsAt_of_isFirstNamed hsteps hs hstep hfirst))
    refine ⟨fun blocks hblocks => ?_, fun hnone w => ?_⟩
    · rw [hdispatch, Events.blocks, hblocks, Option.getD_some]
    · rw [hdispatch, Events.blocks, hnone, Option.getD_none, runFrom_runBlocks_nil]
  · exact fun s _ => s.goesThrough_allComponents
  · exact Component.goesThrough_all
  · intro step event component w
    refine ⟨fun f h => runFrom_dispatch_of_error (blocksFor_of_error h) w,
      fun events h hevent => ?_⟩
    exact runFrom_dispatch_of_error (blocksFor_of_ofValue?_eq_none h hevent) w

end Engine

/-! ### Two components of one name -/

/-- A component that runs a loop on a click. -/
def leafDocument (loop : String) : Value :=
  .obj [(.str "name", .str "leaf"), (.str "events", .obj [(.str "ON_CLICK",
    .list [loopOver loop (constant (.list [])) [] []])])]

/-- A side with one component. -/
def sideDocument (component : Value) : Value :=
  .obj [(.str "components", .list [component])]

/-- A document with two components of one name: one at the bottom of a component, and one farther
down, but at its top. -/
def twoLeavesDocument : Value :=
  .obj [(.str "name", .str "w"), (.str "initialStep", .str "A"),
    (.str "steps", .list [.obj [(.str "name", .str "A"), (.str "components", .list [
      .obj [(.str "name", .str "outer"), (.str "bottom", sideDocument (leafDocument "second")),
        (.str "top", sideDocument (.obj [(.str "name", .str "inner"),
          (.str "top", sideDocument (leafDocument "first"))]))]])]])]

/-- The component that a leaf describes. -/
def leaf (loop : String) : Component :=
  ⟨0, "leaf", none, .null, none, [(.onClick, [loopOver loop (constant (.list [])) [] []])],
    none, none, none, none, []⟩

/-- The step that the document describes. -/
def twoLeavesStep : Step :=
  ⟨"A", none, none, none, [⟨0, "outer", none, .null, none, [],
    some ⟨none, [⟨0, "inner", none, .null, none, [], some ⟨none, [leaf "first"], []⟩,
      none, none, none, []⟩], []⟩, none, none, some ⟨none, [leaf "second"], []⟩, []⟩], [], []⟩

/-- An engine for the wizard that the document describes. -/
def Engine.ofTwoLeaves : Engine where
  wizard := ⟨"w", none, "A", none, [twoLeavesStep], [], []⟩
  userAgent := ""

theorem Component.read_leafDocument (loop : String) :
    Component.read (leafDocument loop) = pure (leaf loop) := by
  have hnull := Component.readSide_null
  refine Component.read_obj_eq_pure.mpr ⟨rfl, rfl, rfl, rfl, rfl, rfl, ?_, rfl⟩
  simp only [Component.sides, List.forall_mem_cons]
  exact ⟨hnull, hnull, hnull, hnull, List.forall_mem_nil _⟩

theorem Component.readSide_sideDocument {v : Value} {c : Component}
    (h : Component.read v = pure c) :
    Component.readSide (sideDocument v) = pure (some ⟨none, [c], []⟩) :=
  Component.readSide_obj_eq_pure.mpr ⟨_, rfl, rfl,
    Reading.under_eq_pure.mpr (Reading.items_cons_eq_pure.mpr ⟨_, [], h, rfl, rfl⟩), rfl⟩

theorem Wizard.read_twoLeavesDocument :
    Wizard.read twoLeavesDocument = .ok Engine.ofTwoLeaves.wizard := by
  have hnull := Component.readSide_null
  have hfirst := Component.readSide_sideDocument (Component.read_leafDocument "first")
  have hsecond := Component.readSide_sideDocument (Component.read_leafDocument "second")
  have hinner : Component.read (.obj [(.str "name", .str "inner"), (.str "top",
      sideDocument (leafDocument "first"))]) = pure ⟨0, "inner", none, .null, none, [],
        some ⟨none, [leaf "first"], []⟩, none, none, none, []⟩ := by
    refine Component.read_obj_eq_pure.mpr ⟨rfl, rfl, rfl, rfl, rfl, rfl, ?_, rfl⟩
    simp only [Component.sides, List.forall_mem_cons]
    exact ⟨hfirst, hnull, hnull, hnull, List.forall_mem_nil _⟩
  refine read_eq_ok.mpr ⟨readFields_obj_eq_pure.mpr ⟨rfl, rfl, rfl, rfl, ?_, rfl, rfl⟩, rfl⟩
  refine Reading.under_eq_pure.mpr (Reading.items_cons_eq_pure.mpr ⟨_, [], ?_, rfl, rfl⟩)
  refine Step.read_obj_eq_pure.mpr ⟨rfl, rfl, rfl, rfl, ?_, rfl, rfl⟩
  refine Reading.under_eq_pure.mpr (Reading.items_cons_eq_pure.mpr ⟨_, [], ?_, rfl, rfl⟩)
  refine Component.read_obj_eq_pure.mpr ⟨rfl, rfl, rfl, rfl, rfl, rfl, ?_, rfl⟩
  simp only [Component.sides, List.forall_mem_cons]
  exact ⟨Component.readSide_sideDocument hinner, hnull, hnull, hsecond, List.forall_mem_nil _⟩

/-- A click runs what the component at the top declares; another event runs nothing, and a name
that no component has is an error. -/
theorem Engine.dispatch_component_twoLeaves :
    Wizard.read twoLeavesDocument = .ok ofTwoLeaves.wizard ∧
      ofTwoLeaves.dispatch (.str "A") (.str "ON_CLICK") (.str "leaf") =
        ofTwoLeaves.runBlocks (.list [loopOver "first" (constant (.list [])) [] []]) ∧
      (∀ w, (ofTwoLeaves.dispatch (.str "A") (.str "ON_BLUR") (.str "leaf")).runFrom w =
        (.ok [], w)) ∧
      ∃ e, ofTwoLeaves.wizard.Misses "A" "other" e ∧
        ofTwoLeaves.eventsAt (.str "A") (.str "other") = .error (.error e) := by
  have hread := Wizard.read_twoLeavesDocument
  have hstep : twoLeavesStep ∈ ofTwoLeaves.wizard.steps := List.mem_cons_self
  obtain ⟨place, hplace⟩ :=
    Step.component?_eq_some_iff.mp (rfl : twoLeavesStep.component? "leaf" = some (leaf "first"))
  obtain ⟨-, -, hruns, -⟩ := dispatch_component hread "A" "leaf"
  obtain ⟨hmisses, -⟩ := dispatch_component hread "A" "other"
  obtain ⟨e, he, -, -⟩ := (hmisses _).mp rfl
  have hleaf := hruns _ hstep rfl place _ hplace
  exact ⟨hread, (hleaf .onClick).1 _ rfl, (hleaf .onBlur).2 rfl, e, he,
    (hmisses _).mpr ⟨e, he, he.family_eq, rfl⟩⟩

end WizardLogic
