import Mathlib
import WizardLogic.Document.Basic

/-!
# Where components stand

A component stands at a side of another one, with others before and after it, or is itself one of
the components of a step. So the way to a component is a list of sides and indices (`Place`), and in
a step there is an index in front of it. Names do not tell components apart, places do.

Places have an order: what stands at a component comes after it, one side after the other, and at a
side in the order of the list there. This is the lexicographic order of the ways. The list of all
components goes through the places in this order (`GoesThrough`), each once and none left out
(`Component.goesThrough_all`, `Step.goesThrough_allComponents`). So looking for the first component
with a property finds the one at the first place (`GoesThrough.find?_eq_some_iff`), and looking in
vain means that there is none at any place (`GoesThrough.find?_eq_none_iff`).
-/

namespace WizardLogic

/-! ### Lists that go through places -/

section Lists

variable {P K α β : Type} {at? : P → Option α} {before : P → P → Prop} {as : List α}

/-- **A list goes through places**: it has what stands at them, in their order, each place once and
no place left out. -/
def GoesThrough (at? : P → Option α) (before : P → P → Prop) (as : List α) : Prop :=
  ∃ places : List P, places.Nodup ∧ places.Pairwise before ∧ (∀ p, p ∈ places ↔ (at? p).isSome) ∧
    places.map at? = as.map some

/-- **The first place** where something has a property, and what stands there. -/
structure IsFirst (at? : P → Option α) (before : P → P → Prop) (q : α → Prop) (p : P) (a : α) :
    Prop where
  stands : at? p = some a
  holds : q a
  first : ∀ p' a', at? p' = some a' → q a' → p' = p ∨ before p p'

/-- There is only one first place. -/
theorem IsFirst.unique [Std.Asymm before] {q : α → Prop} {p p' : P} {a a' : α}
    (h : IsFirst at? before q p a) (h' : IsFirst at? before q p' a') : a = a' := by
  have heq : p' = p := by
    rcases h.first p' a' h'.stands h'.holds with heq | hlt
    · exact heq
    · rcases h'.first p a h.stands h.holds with heq | hgt
      · exact heq.symm
      · exact absurd hgt (asymm hlt)
  subst heq
  exact Option.some.inj (h.stands.symm.trans h'.stands)

namespace GoesThrough

/-- Where no place comes before itself, none is listed twice. -/
theorem of_pairwise [Std.Irrefl before] (places : List P) (hbefore : places.Pairwise before)
    (hmem : ∀ p, p ∈ places ↔ (at? p).isSome) (hmap : places.map at? = as.map some) :
    GoesThrough at? before as := by
  refine ⟨places, hbefore.imp fun {p p'} hlt heq => ?_, hbefore, hmem, hmap⟩
  rw [heq] at hlt
  exact irrefl p' hlt

/-- What is listed stands somewhere. -/
theorem mem_iff (h : GoesThrough at? before as) {a : α} : a ∈ as ↔ ∃ p, at? p = some a := by
  obtain ⟨places, -, -, hmem, hmap⟩ := h
  have hlisted : a ∈ as ↔ some a ∈ places.map at? := by rw [hmap]; simp
  rw [hlisted, List.mem_map]
  exact exists_congr fun p => and_iff_right_of_imp fun hp => (hmem p).mpr (by rw [hp]; rfl)

theorem find?_eq_none_iff (h : GoesThrough at? before as) {q : α → Bool} :
    as.find? q = none ↔ ∀ p a, at? p = some a → q a = false := by
  simp only [List.find?_eq_none, h.mem_iff, Bool.not_eq_true]
  exact ⟨fun hq p a hp => hq a ⟨p, hp⟩, fun hq a ⟨p, hp⟩ => hq p a hp⟩

theorem exists_isFirst (h : GoesThrough at? before as) {q : α → Bool} {a : α}
    (hfind : as.find? q = some a) : ∃ p, IsFirst at? before (fun a => q a = true) p a := by
  obtain ⟨places, -, hbefore, hmem, hmap⟩ := h
  obtain ⟨hqa, as₁, as₂, rfl, hnone⟩ := List.find?_eq_some_iff_append.mp hfind
  rw [List.map_append, List.map_cons] at hmap
  obtain ⟨ps₁, ps, rfl, hps₁, hps⟩ := List.map_eq_append_iff.mp hmap
  obtain ⟨p, ps₂, rfl, hp, -⟩ := List.map_eq_cons_iff.mp hps
  refine ⟨p, hp, hqa, fun p' a' hp' hqa' => ?_⟩
  have hlisted : p' ∈ ps₁ ++ p :: ps₂ := (hmem p').mpr (by rw [hp']; rfl)
  rcases List.mem_append.mp hlisted with hp₁ | hp₂
  · have hmem₁ : some a' ∈ as₁.map some := by
      rw [← hps₁, ← hp']
      exact List.mem_map_of_mem hp₁
    have hnot := hnone a' (by simpa using hmem₁)
    rw [hqa'] at hnot
    cases hnot
  · rcases List.mem_cons.mp hp₂ with rfl | hp₂
    · exact .inl rfl
    · exact .inr (List.rel_of_pairwise_cons (List.pairwise_append.mp hbefore).2.1 hp₂)

/-- **The first that is found** stands at the first place. -/
theorem find?_eq_some_iff [Std.Asymm before] (h : GoesThrough at? before as) {q : α → Bool}
    {a : α} :
    as.find? q = some a ↔ ∃ p, IsFirst at? before (fun a => q a = true) p a := by
  refine ⟨h.exists_isFirst, fun ⟨p, hp⟩ => ?_⟩
  cases hfind : as.find? q with
  | none =>
    have hnot := h.find?_eq_none_iff.mp hfind p a hp.stands
    rw [hp.holds] at hnot
    cases hnot
  | some b =>
    obtain ⟨p', hp'⟩ := h.exists_isFirst hfind
    rw [hp.unique hp']

/-- A list goes through its indices. -/
theorem indices (as : List α) : GoesThrough (fun i : ℕ => as[i]?) (· < ·) as := by
  refine of_pairwise (List.range as.length) List.pairwise_lt_range (fun i => ?_) ?_
  · simp
  · refine List.ext_getElem? fun i => ?_
    by_cases hi : i < as.length
    · simp [hi]
    · simp [hi]

/-! ### Places inside of places -/

section Pairs

variable {k : K} {ks : List K} {ps : List P} {places : List (K × P)}

theorem mem_pairs_cons {inside : K × P → Prop} (hps : ∀ p, p ∈ ps ↔ inside (k, p))
    (hplaces : ∀ kp, kp ∈ places ↔ kp.1 ∈ ks ∧ inside kp) (kp : K × P) :
    kp ∈ ps.map (Prod.mk k) ++ places ↔ kp.1 ∈ k :: ks ∧ inside kp := by
  rw [List.mem_append, List.mem_map, hplaces, List.mem_cons]
  constructor
  · rintro (⟨p, hp, rfl⟩ | ⟨hk, hinside⟩)
    · exact ⟨.inl rfl, (hps p).mp hp⟩
    · exact ⟨.inr hk, hinside⟩
  · obtain ⟨k', p⟩ := kp
    rintro ⟨rfl | hk, hinside⟩
    · exact .inl ⟨p, (hps p).mpr hinside, rfl⟩
    · exact .inr ⟨hk, hinside⟩

theorem pairwise_pairs_cons {beforeK : K → K → Prop} (hps : ps.Pairwise before)
    (hplaces : places.Pairwise (Prod.Lex beforeK before)) (hk : ∀ kp ∈ places, beforeK k kp.1) :
    (ps.map (Prod.mk k) ++ places).Pairwise (Prod.Lex beforeK before) := by
  refine List.pairwise_append.mpr ⟨?_, hplaces, ?_⟩
  · exact List.pairwise_map.mpr (hps.imp fun hlt => .right k hlt)
  · intro kp hkp kp' hkp'
    obtain ⟨p, -, rfl⟩ := List.mem_map.mp hkp
    exact .left p kp'.2 (hk kp' hkp')

end Pairs

/-- **What goes through the places inside of each part** goes through the places inside of all
parts, if the parts go through places themselves. -/
theorem flatMap {a? : K → Option α} {beforeK : K → K → Prop} [Std.Irrefl beforeK]
    [Std.Irrefl before] {f : α → List β} {b? : α → P → Option β}
    (h : GoesThrough a? beforeK as) (hf : ∀ a ∈ as, GoesThrough (b? a) before (f a)) :
    GoesThrough (fun kp : K × P => (a? kp.1).bind fun a => b? a kp.2) (Prod.Lex beforeK before)
      (as.flatMap f) := by
  obtain ⟨ks, -, hks, hmem, hmap⟩ := h
  -- The induction is on the parts, for the pairs that begin with the place of one of them.
  suffices hparts : ∃ places : List (K × P), places.Pairwise (Prod.Lex beforeK before) ∧
      (∀ kp, kp ∈ places ↔ kp.1 ∈ ks ∧ ((a? kp.1).bind fun a => b? a kp.2).isSome) ∧
      (places.map fun kp => (a? kp.1).bind fun a => b? a kp.2) = (as.flatMap f).map some by
    obtain ⟨places, hbefore, hplaces, hvalues⟩ := hparts
    refine of_pairwise places hbefore
      (fun kp => (hplaces kp).trans (and_iff_right_of_imp fun hsome => ?_)) hvalues
    exact (hmem kp.1).mpr (Option.isSome_of_isSome_bind hsome)
  clear hmem
  induction as generalizing ks with
  | nil =>
    obtain rfl := List.map_eq_nil_iff.mp hmap
    exact ⟨[], .nil, by simp, rfl⟩
  | cons a as ih =>
    rw [List.map_cons] at hmap
    obtain ⟨k, ks, rfl, hk, hrest⟩ := List.map_eq_cons_iff.mp hmap
    obtain ⟨hfirst, hks⟩ := List.pairwise_cons.mp hks
    obtain ⟨⟨ps, -, hps, hpsmem, hpsmap⟩, has⟩ := List.forall_mem_cons.mp hf
    obtain ⟨places, hbefore, hplaces, hvalues⟩ := ih has ks hks hrest
    have hinside (p : P) : ((a? k).bind fun a => b? a p) = b? a p := by rw [hk, Option.bind_some]
    refine ⟨ps.map (Prod.mk k) ++ places, ?_, ?_, ?_⟩
    · exact pairwise_pairs_cons hps hbefore fun kp hkp => hfirst kp.1 ((hplaces kp).mp hkp).1
    · refine mem_pairs_cons (fun p => ?_) hplaces
      rw [hinside, hpsmem]
    · rw [List.map_append, hvalues, List.flatMap_cons, List.map_append, ← hpsmap, List.map_map]
      exact congrArg (· ++ _) (List.map_congr_left fun p _ => hinside p)

end GoesThrough

end Lists

/-! ### Places in components -/

/-- The sides of a component. -/
inductive Side
  | top
  | left
  | right
  | bottom
deriving DecidableEq

namespace Side

/-- All sides, in the order in which they are gone through. -/
def all : List Side := [top, left, right, bottom]

/-- One side is gone through before another one. -/
def Precedes (a b : Side) : Prop := all.idxOf a < all.idxOf b

instance : Std.Asymm Precedes where
  asymm _ _ h := Nat.lt_asymm h

instance : DecidableRel Precedes := fun _ _ => inferInstanceAs (Decidable (_ < _))

theorem goesThrough_all : GoesThrough some Precedes all :=
  .of_pairwise all (by decide) (fun side => by cases side <;> decide) rfl

end Side

/-- Where a component stands at another one: at which side, and at which index there. -/
abbrev Spot := Side × ℕ

/-- Spots are gone through side by side. -/
def Spot.Precedes : Spot → Spot → Prop := Prod.Lex Side.Precedes (· < ·)

/-- **The place of a component in another one**: the spots that lead there. It is empty for the
component itself. -/
abbrev Place := List Spot

/-- **Places are gone through** as their spots are, and a place before what it leads on to. -/
def Place.Precedes : Place → Place → Prop := List.Lex Spot.Precedes

instance : Std.Asymm Spot.Precedes := inferInstanceAs (Std.Asymm (Prod.Lex _ _))

instance : Std.Asymm Place.Precedes := inferInstanceAs (Std.Asymm (List.Lex _))

namespace Component

/-- The components at a side. -/
def beside (c : Component) (side : Side) : List Component :=
  let position? := match side with
    | .top => c.top
    | .left => c.left
    | .right => c.right
    | .bottom => c.bottom
  position?.elim [] Position.components

/-- The component at a spot. -/
def child? (c : Component) (spot : Spot) : Option Component := (c.beside spot.1)[spot.2]?

/-- **The component at a place.** -/
def at? (c : Component) : Place → Option Component
  | [] => some c
  | spot :: place => (c.child? spot).bind fun d => d.at? place

/-- All components that stand at a component. -/
def children (c : Component) : List Component := Side.all.flatMap c.beside

theorem goesThrough_children (c : Component) : GoesThrough c.child? Spot.Precedes c.children :=
  Side.goesThrough_all.flatMap fun side _ => .indices (c.beside side)

theorem allOf_eq (cs : List Component) : allOf cs = cs.flatMap all := by
  induction cs with
  | nil => rfl
  | cons c cs ih => rw [allOf, ih, List.flatMap_cons]

theorem allAt_eq (position? : Option (Position Component)) :
    allAt position? = (position?.elim [] Position.components).flatMap all := by
  cases position? with
  | none => rfl
  | some position => exact allOf_eq position.components

/-- A component comes first, and then what stands at it. -/
theorem all_eq (c : Component) : c.all = c :: c.children.flatMap all := by
  cases c
  simp only [all, allAt_eq, children, Side.all, beside, List.flatMap_cons, List.flatMap_nil,
    List.append_nil, List.flatMap_append, List.append_assoc]

/-- A component goes through its places if the components that stand at it do. -/
theorem goesThrough_all_of_children {c : Component}
    (h : ∀ d ∈ c.children, GoesThrough d.at? Place.Precedes d.all) :
    GoesThrough c.at? Place.Precedes c.all := by
  obtain ⟨pairs, -, hbefore, hmem, hmap⟩ := c.goesThrough_children.flatMap h
  refine .of_pairwise ([] :: pairs.map fun sp => sp.1 :: sp.2) ?_ (fun place => ?_) ?_
  · refine List.pairwise_cons.mpr ⟨fun place hplace => ?_, List.pairwise_map.mpr ?_⟩
    · obtain ⟨sp, -, rfl⟩ := List.mem_map.mp hplace
      exact .nil
    · refine hbefore.imp fun hlt => ?_
      cases hlt with
      | left p q hspot => exact .rel hspot
      | right spot hplace => exact .cons hplace
  · cases place with
    | nil => simp [at?]
    | cons spot place =>
      have hpair := hmem (spot, place)
      simpa [at?] using hpair
  · rw [List.map_cons, List.map_map, all_eq, List.map_cons, ← hmap]
    rfl

mutual

/-- **A component and all that stands at it, in pre-order.** -/
theorem goesThrough_all : (c : Component) → GoesThrough c.at? Place.Precedes c.all
  | ⟨order, name, type, value, className, events, top, left, right, bottom, extra⟩ => by
    refine goesThrough_all_of_children fun d hd => ?_
    obtain ⟨side, -, hd⟩ := List.mem_flatMap.mp hd
    cases side with
    | top => exact goesThrough_all_side top d hd
    | left => exact goesThrough_all_side left d hd
    | right => exact goesThrough_all_side right d hd
    | bottom => exact goesThrough_all_side bottom d hd

theorem goesThrough_all_side : (position? : Option (Position Component)) →
    ∀ d ∈ position?.elim [] Position.components, GoesThrough d.at? Place.Precedes d.all
  | none => nofun
  | some ⟨_, components, _⟩ => goesThrough_all_list components

theorem goesThrough_all_list : (cs : List Component) →
    ∀ d ∈ cs, GoesThrough d.at? Place.Precedes d.all
  | [] => nofun
  | c :: cs => List.forall_mem_cons.mpr ⟨goesThrough_all c, goesThrough_all_list cs⟩

end

end Component

/-! ### Places in steps -/

namespace Step

/-- **The component at a place of a step**: the index of a component of the step, and a place in
it. -/
def at? (s : Step) (place : ℕ × Place) : Option Component :=
  s.components[place.1]?.bind fun c => c.at? place.2

/-- The places of a step are gone through component by component. -/
def Precedes : ℕ × Place → ℕ × Place → Prop := Prod.Lex (· < ·) Place.Precedes

instance : Std.Asymm Precedes := inferInstanceAs (Std.Asymm (Prod.Lex _ _))

/-- **All components of a step, in pre-order.** -/
theorem goesThrough_allComponents (s : Step) : GoesThrough s.at? Precedes s.allComponents := by
  rw [allComponents, Component.allOf_eq]
  exact (GoesThrough.indices s.components).flatMap fun c _ => c.goesThrough_all

/-- **The first component of a step with a name**, and its place. -/
abbrev IsFirstNamed (s : Step) (name : String) (place : ℕ × Place) (c : Component) : Prop :=
  IsFirst s.at? Precedes (fun d => d.name = name) place c

theorem component?_eq_some_iff {s : Step} {name : String} {c : Component} :
    s.component? name = some c ↔ ∃ place, s.IsFirstNamed name place c := by
  have hfirst :=
    s.goesThrough_allComponents.find?_eq_some_iff (q := fun d => d.name = name) (a := c)
  simp only [decide_eq_true_eq] at hfirst
  exact hfirst

theorem component?_eq_none_iff {s : Step} {name : String} :
    s.component? name = none ↔ ∀ place c, s.at? place = some c → c.name ≠ name := by
  have hnone := s.goesThrough_allComponents.find?_eq_none_iff (q := fun d => d.name = name)
  simp only [decide_eq_false_iff_not] at hnone
  exact hnone

end Step

end WizardLogic
