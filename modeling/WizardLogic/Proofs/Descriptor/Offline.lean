import Mathlib
import WizardLogic.Proofs.Descriptor.Alike
import WizardLogic.Proofs.Run.Related

/-!
# Runs that send no request

Only two built-in rules call remote actions: that of the contexts that are one, and that of the
conditions that ask for one. Blocks that involve neither send no request, and what comes of them
depends neither on what would be answered nor on where the remote actions of the wizard lead, but
only on the names that these have (`Engine.runBlocks_offline`). An action that updates a component
by a remote action is such a case: it looks the name up and calls nothing.

For the proof the engine is taken offline (`Engine.offline`): every remote action keeps its name and
gets an address that cannot be read, so that calls fail before anything is sent. The blocks are
interpreted as before, since they never call. And in an engine that is offline nothing at all sends
a request, whatever it runs (`Engine.parallel_offline`).
-/

namespace WizardLogic

/-! ### Engines that are offline -/

/-- A template that cannot be read. -/
def unreadable : String := "\x7b\x7b"

theorem exists_render_unreadable (contexts : Entries Value) :
    ∃ f, Template.render (.str unreadable) contexts = .error f := by
  have hprepare : ∃ f, Template.prepare unreadable = .error f := by
    cases h : Template.prepare unreadable with
    | error f => exact ⟨f, rfl⟩
    | ok body =>
      have hread : (Template.prepare unreadable).isOk = false := by rfl
      rw [h] at hread
      cases hread
  obtain ⟨f, hf⟩ := hprepare
  have htext : Template.renderText unreadable contexts = .error f := by
    rw [Template.renderText, hf]
    rfl
  rw [Template.render, htext]
  cases f with
  | invalid => exact ⟨_, rfl⟩
  | fault f => exact ⟨_, rfl⟩

/-- A remote action with an address that cannot be read. -/
def RemoteAction.unreachable (a : RemoteAction) : RemoteAction := { a with url := unreadable }

/-- A call without an address fails and does nothing. -/
theorem RemoteAction.exists_run_unreachable (userAgent : String) (a : RemoteAction)
    (contexts : Entries Value) :
    ∃ f, a.unreachable.run userAgent contexts = throw f := by
  obtain ⟨f, hf⟩ := exists_render_unreadable contexts
  have hbuild : Request.build userAgent a.unreachable contexts = .error f := by
    rw [Request.build, unreachable, hf]
    rfl
  refine ⟨f, ?_⟩
  rw [run, hbuild]
  rfl

namespace Engine

/-- An engine that is offline: its remote actions have no address. -/
def offline (en : Engine) : Engine :=
  { en with wizard :=
      { en.wizard with remoteActions := en.wizard.remoteActions.map RemoteAction.unreachable } }

variable {en en' : Engine}

theorem remoteAction?_offline (name : String) :
    en.offline.wizard.remoteAction? name = (en.wizard.remoteAction? name).map .unreachable := by
  rw [Wizard.remoteAction?, offline, List.find?_map]
  rfl

theorem sameRemoteNames_offline (en : Engine) : en.SameRemoteNames en.offline := fun name => by
  rw [remoteAction?_offline, Option.isNone_map]

/-- **Nothing is sent offline.** Any relation of exchanges that is kept by noting records is kept by
an engine that is offline. -/
theorem parallel_offline {R : Exchange → Exchange → Prop}
    (hR : ∀ {x y}, R x y → ∀ r, R (x.noted r) (y.noted r)) : en.offline.Parallel R where
  noted := hR
  calls name contexts := by
    unfold callRemote
    cases name with
    | str name =>
      rw [Wizard.remoteActionOf?, remoteAction?_offline]
      cases en.wizard.remoteAction? name with
      | none => exact .fail _
      | some a =>
        obtain ⟨f, hf⟩ := a.exists_run_unreachable en.userAgent contexts
        change Effect.Related R Eq (a.unreachable.run en.userAgent contexts)
          (a.unreachable.run en.userAgent contexts)
        rw [hf]
        exact .throw f
    | _ => exact .fail _

end Engine

/-! ### Blocks that call no remote action -/

/-- A descriptor calls a remote action if it is a context that is one or a condition that asks for
one. -/
def Descriptor.CallsRemote (x : Descriptor) : Prop :=
  x.Uses .context "REMOTE_ACTION" ∨ x.Uses .condition "remote"

namespace Engine

variable {en en' : Engine} (hen : en.registry = .builtIn)
include hen

/-- Only the descriptors that call a remote action look at more of the wizard than at names. -/
theorem callsRemote_of_looksOut {x : Descriptor} (h : en.LooksOut x) : x.CallsRemote := by
  obtain ⟨⟨_ | _ | _ | _⟩ | _, v⟩ := x
  · rcases h with hrule | ⟨handler, hrule⟩ <;>
      obtain ⟨type, htype, hmem⟩ := exists_type_of_contextRule hrule <;> rw [hen] at hmem
    · obtain rfl : type = "REMOTE_ACTION" := by simpa [Registry.builtIn] using hmem
      exact .inl ⟨rfl, htype⟩
    · simp [Registry.builtIn] at hmem
  · obtain ⟨key, hrule | ⟨handler, hrule⟩⟩ := h <;>
      have hmem := List.mem_of_find?_eq_some hrule <;> rw [hen] at hmem
    · obtain rfl : key = "remote" := by simpa [Registry.builtIn] using hmem
      have hkey := List.find?_some hrule
      exact .inr ⟨rfl, by simpa using hkey⟩
    · simp [Registry.builtIn] at hmem
  · obtain ⟨type, handler, hrule⟩ := h
    have hlookup := (actionRule?_eq_some.mp hrule).2
    rw [hen] at hlookup
    exact absurd hlookup Registry.builtIn_actions_ne_custom
  · obtain ⟨handler, hrule⟩ := h
    exact absurd hrule (blockRule?_ne_custom hen)
  · exact h.elim

/-- A descriptor that calls no remote action is read alike by all engines with the built-in
vocabulary. -/
theorem readsAlike_of_not_callsRemote (hen' : en'.registry = .builtIn) {x : Descriptor}
    (hx : ¬ x.CallsRemote) : en.ReadsAlike en' x where
  rule := by
    have hregistry : en.registry = en'.registry := hen.trans hen'.symm
    obtain ⟨⟨_ | _ | _ | _⟩ | _, v⟩ := x
    · dsimp only [SameRule, contextRule]
      rw [hregistry]
    · dsimp only [SameRule, conditionRule?]
      rw [hregistry]
    · dsimp only [SameRule, actionRule?]
      rw [hregistry]
    · dsimp only [SameRule, blockRule?]
      rw [hregistry]
    · trivial
  outside h := absurd (callsRemote_of_looksOut hen h) hx

/-- Blocks that call no remote action are run alike by all engines with the built-in vocabulary
whose remote actions have the same names. -/
theorem runBlocks_eq_of_not_callsRemote (hen' : en'.registry = .builtIn)
    (hnames : en.SameRemoteNames en') {v : Value}
    (hv : ∀ x, en.Involves .whole (.blocks v) x → ¬ x.CallsRemote) :
    en.runBlocks v = en'.runBlocks v := by
  have halike : en.Alike en' (.blocks v) :=
    alike_of_involves (Footprint.covers_whole _) hnames (.blocks v) fun x hx =>
      readsAlike_of_not_callsRemote hen hen' (hv x hx)
  exact halike

end Engine

/-- Exchanges in which nothing was said: two that have the same log, each with the requests and the
replies that it had. -/
structure Exchange.Unsaid (x₀ y₀ x y : Exchange) : Prop where
  log_eq : x.log = y.log
  left : x = { x₀ with log := x.log }
  right : y = { y₀ with log := y.log }

theorem Exchange.Unsaid.noted {x₀ y₀ x y : Exchange} (h : Exchange.Unsaid x₀ y₀ x y)
    (r : Log.Record) : Exchange.Unsaid x₀ y₀ (x.noted r) (y.noted r) where
  log_eq := by rw [Exchange.noted, Exchange.noted, h.log_eq]
  left := by rw [Exchange.noted, h.left]
  right := by rw [Exchange.noted, h.right]

/-- **Blocks that call no remote action send no request**, and what comes of them is the same
whatever would be answered and wherever the remote actions of the wizard lead. In any two engines
with the built-in vocabulary whose wizards declare remote actions with the same names, and from
worlds with the same state and log, the blocks end alike, leave the same state and the same log, and
change nothing else of what is exchanged. -/
theorem Engine.runBlocks_offline {en en' : Engine} (hen : en.registry = .builtIn)
    (hen' : en'.registry = .builtIn) (hnames : en.SameRemoteNames en') {v : Value}
    (hv : ∀ x, en.Involves .whole (.blocks v) x → ¬ x.CallsRemote) (s : State) {x y : Exchange}
    (hlog : x.log = y.log) :
    ∃ r t log, (en.runBlocks v).runFrom ⟨s, x⟩ = (r, ⟨t, { x with log := log }⟩) ∧
      (en'.runBlocks v).runFrom ⟨s, y⟩ = (r, ⟨t, { y with log := log }⟩) := by
  have hoffline : en.offline.registry = .builtIn := hen
  have hsame : en.runBlocks v = en.offline.runBlocks v :=
    runBlocks_eq_of_not_callsRemote hen hoffline (sameRemoteNames_offline en) hv
  have hsame' : en'.runBlocks v = en.offline.runBlocks v :=
    (runBlocks_eq_of_not_callsRemote hen hen' hnames hv).symm.trans hsame
  -- Offline, a run from either world is related to the run from the other one.
  have hrelated := related_runBlocks (A := fun _ => Eq) hoffline Holding.likeness_eq
    (parallel_offline (R := Exchange.Unsaid x y) fun h r => h.noted r) v
  obtain ⟨hend, hleft⟩ := hrelated ⟨s, x⟩ ⟨s, y⟩ ⟨.self Holding.likeness_eq s, hlog, rfl, rfl⟩
  rw [hsame, hsame']
  generalize (en.offline.runBlocks v).runFrom ⟨s, x⟩ = o at hend hleft
  generalize (en.offline.runBlocks v).runFrom ⟨s, y⟩ = o' at hend hleft
  obtain ⟨r, t, x'⟩ := o
  obtain ⟨r', t', y'⟩ := o'
  obtain rfl : r = r' := hend.eq
  obtain rfl : t = t' := hleft.state.eq
  refine ⟨r, t, x'.log, ?_, ?_⟩
  · rw [← hleft.exchange.left]
  · have hright : y' = { y with log := x'.log } := by
      rw [hleft.exchange.log_eq]
      exact hleft.exchange.right
    rw [← hright]

/-! ### An update from a remote action -/

/-- An engine whose wizard declares one remote action, at an address. -/
def Engine.withRemote (url : String) : Engine :=
  { Engine.bare with wizard := { Engine.bare.wizard with remoteActions :=
      [⟨"search", .get, url, .json, none, none, none, none, .query, none, []⟩] } }

/-- An action that has a component updated by that remote action. -/
def updateFromSearch : Value :=
  .obj [(.str "type", .str "REMOTE_UPDATE_COMPONENT"), (.str "targetName", .str "results"),
    (.str "targetProp", .str "options"), (.str "name", .str "search")]

/-- A block with this action only. -/
def searchBlock : Value := .obj [(.str "actions", .list [updateFromSearch])]

theorem Engine.involves_searchBlock {url : String} {x : Descriptor}
    (h : (Engine.withRemote url).Involves .whole (.blocks (.list [searchBlock])) x) :
    x ∈ [Descriptor.blocks (.list [searchBlock]), .block searchBlock,
      .actions (.list [updateFromSearch]), .action updateFromSearch] := by
  have hupdate : (Engine.withRemote url).actionRule? updateFromSearch =
      some ("REMOTE_UPDATE_COMPONENT", .remoteUpdateComponent) := rfl
  have hblock : (Engine.withRemote url).blockRule? searchBlock = none := rfl
  induction h with
  | refl => exact List.mem_cons_self
  | tail _ hasks ih =>
    simp only [List.mem_cons, List.not_mem_nil, or_false] at ih
    rcases ih with rfl | rfl | rfl | rfl
    · obtain ⟨b, hb, rfl⟩ := hasks.of_list
      cases List.mem_singleton.mp hb
      exact List.mem_of_getElem? (i := 1) rfl
    · obtain ⟨role, step, p, hasked, rfl⟩ := hasks.of_block hblock
      obtain ⟨rfl, ⟨⟩⟩ := Asking.mem_listed.mp hasked
      exact List.mem_of_getElem? (i := 2) rfl
    · obtain ⟨d, hd, rfl⟩ := hasks.of_list
      cases List.mem_singleton.mp hd
      exact List.mem_of_getElem? (i := 3) rfl
    · obtain ⟨role, step, p, hasked, -⟩ := hasks.of_action hupdate
      cases hasked

theorem Engine.not_callsRemote_searchBlock {url : String} (x : Descriptor)
    (hx : (Engine.withRemote url).Involves .whole (.blocks (.list [searchBlock])) x) :
    ¬ x.CallsRemote := by
  intro hcalls
  have hmem := Engine.involves_searchBlock hx
  simp only [List.mem_cons, List.not_mem_nil, or_false] at hmem
  -- None of these is a context or a condition.
  rcases hcalls with ⟨hrole, -⟩ | ⟨hrole, -⟩ <;>
    rcases hmem with rfl | rfl | rfl | rfl <;> cases hrole

/-- An exchange in which an answer would come. -/
def Exchange.answering : Exchange := { script := ⟨.response ⟨200, "[1]", []⟩, []⟩ }

/-- The update is asked for alike whether the remote action leads here and gets no answer, or leads
there and would get one. -/
theorem Engine.runBlocks_searchBlock :
    (Engine.withRemote "/here").SameRemoteNames (Engine.withRemote "/there") ∧
      (∀ x, (Engine.withRemote "/here").Involves .whole (.blocks (.list [searchBlock])) x →
        ¬ x.CallsRemote) ∧
      World.ofCaller.exchange.log = Exchange.answering.log ∧
      ∃ r t log,
        ((Engine.withRemote "/here").runBlocks (.list [searchBlock])).runFrom .ofCaller =
          (r, ⟨t, { World.ofCaller.exchange with log := log }⟩) ∧
        ((Engine.withRemote "/there").runBlocks (.list [searchBlock])).runFrom
            ⟨World.ofCaller.state, .answering⟩ = (r, ⟨t, { Exchange.answering with log := log }⟩) := by
  have hhere : (Engine.withRemote "/here").registry = .builtIn := rfl
  have hthere : (Engine.withRemote "/there").registry = .builtIn := rfl
  have hnames : (Engine.withRemote "/here").SameRemoteNames (Engine.withRemote "/there") := by
    intro name
    simp only [withRemote, Wizard.remoteAction?, List.find?_singleton]
    split <;> rfl
  exact ⟨hnames, not_callsRemote_searchBlock, rfl,
    runBlocks_offline hhere hthere hnames not_callsRemote_searchBlock World.ofCaller.state rfl⟩

end WizardLogic
