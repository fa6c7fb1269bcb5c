import Mathlib
import WizardLogic.Proofs.Document.Json
import WizardLogic.Proofs.Run.Balance
import WizardLogic.Proofs.Siblings.Rank

/-!
# The place of a sibling in a document does not matter

Siblings run in the order of their order fields, so the place where a sibling stands in a document
says nothing as long as no two siblings have the same order. Two documents are *rearranged*
(`SiblingsRearranged`) if they differ in such places only, in any of the lists that a run walks
through and at any depth: the blocks at the top, the actions of a block, its branches and its inner
blocks. Running the one is running the other (`Engine.runBlocks_rearranged`), in every world and
with every outcome.

The argument goes along the rearrangement. Wherever it has put the siblings of a list into other
places, sorting puts them back (`sortSiblings_eq_of_perm`), and then they are run pair by pair.
-/

namespace WizardLogic

/-! ### Documents with siblings in other places -/

/-- The fields of a block that list blocks. -/
def blockFields : List String := ["then", "else", "blocks"]

/-- A list with its members in other places, which has to be orderly if it is not the same. -/
def Permuted (items items' : List Value) : Prop := items = items' ∨ items.Perm items' ∧ Orderly items

mutual

/-- A block with siblings inside it in other places. -/
inductive BlockRearranged : Value → Value → Prop
  | same (b : Value) : BlockRearranged b b
  | fields {es es' : Entries Value} :
    FieldsRearranged es es' → BlockRearranged (.obj es) (.obj es')

/-- The fields of a block with siblings in other places: actions as they are, blocks with siblings
inside them in other places. -/
inductive FieldsRearranged : Entries Value → Entries Value → Prop
  | nil : FieldsRearranged [] []
  | kept (e : Key × Value) {es es' : Entries Value} :
    FieldsRearranged es es' → FieldsRearranged (e :: es) (e :: es')
  | actions {items items' : List Value} {es es' : Entries Value} :
    Permuted items items' → FieldsRearranged es es' →
      FieldsRearranged ((.str "actions", .list items) :: es) ((.str "actions", .list items') :: es')
  | blocks {f : String} {v v' : Value} {es es' : Entries Value} : f ∈ blockFields →
    SiblingsRearranged v v' → FieldsRearranged es es' →
      FieldsRearranged ((.str f, v) :: es) ((.str f, v') :: es')

/-- A value that lists blocks, with them and siblings inside them in other places. -/
inductive SiblingsRearranged : Value → Value → Prop
  | same (v : Value) : SiblingsRearranged v v
  | list {items middle items' : List Value} : EachRearranged items middle →
    Permuted middle items' → SiblingsRearranged (.list items) (.list items')

/-- Blocks with siblings inside each of them in other places. -/
inductive EachRearranged : List Value → List Value → Prop
  | nil : EachRearranged [] []
  | cons {b b' : Value} {rest rest' : List Value} : BlockRearranged b b' →
    EachRearranged rest rest' → EachRearranged (b :: rest) (b' :: rest')

end

/-! ### Sorting pairs -/

section Pairs

variable {R : Value → Value → Prop} {items items' : List Value}

/-- Members that are related one by one are the two sides of related pairs. -/
theorem exists_pairs_of_forall₂ (h : List.Forall₂ R items items') :
    ∃ pairs : List (Value × Value), pairs.map Prod.fst = items ∧ pairs.map Prod.snd = items' ∧
      ∀ p ∈ pairs, R p.1 p.2 := by
  induction h with
  | nil => exact ⟨[], rfl, rfl, nofun⟩
  | @cons a b as bs hab _ ih =>
    obtain ⟨pairs, rfl, rfl, hpairs⟩ := ih
    exact ⟨(a, b) :: pairs, rfl, rfl, List.forall_mem_cons.mpr ⟨hab, hpairs⟩⟩

/-- Siblings stay paired with others of the same orders when both are sorted. -/
theorem forall₂_sortSiblings (h : List.Forall₂ R items items')
    (hkey : ∀ a b, R a b → a.orderKey = b.orderKey) :
    List.Forall₂ R (sortSiblings items) (sortSiblings items') := by
  obtain ⟨pairs, rfl, rfl, hpairs⟩ := exists_pairs_of_forall₂ h
  -- The pairs are sorted themselves, by the orders of either side.
  have hfst := List.map_mergeSort (l := pairs) (f := Prod.fst)
    (r := fun p q => p.1.orderKey.le q.1.orderKey)
    (s := fun a b => a.orderKey.le b.orderKey) fun _ _ _ _ => rfl
  have hsnd := List.map_mergeSort (l := pairs) (f := Prod.snd)
    (r := fun p q => p.1.orderKey.le q.1.orderKey)
    (s := fun a b => a.orderKey.le b.orderKey) fun p hp q hq => by
      rw [hkey _ _ (hpairs p hp), hkey _ _ (hpairs q hq)]
  rw [sortSiblings, sortSiblings, ← hfst, ← hsnd, List.forall₂_map_left_iff,
    List.forall₂_map_right_iff, List.forall₂_same]
  exact fun p hp => hpairs p ((List.mergeSort_perm pairs _).mem_iff.mp hp)

end Pairs

/-- The siblings that a list of objects lists are its members, sorted. -/
theorem siblingsOf_list (items : List Value) :
    siblingsOf (.list items) =
      if items.all Value.isObject then .ok (sortSiblings items) else .error .noMember := by
  cases items with
  | nil => simp [siblingsOf, Value.isTrue, sortSiblings]
  | cons v vs => rfl

/-- **Siblings are found in the same order wherever they stand.** -/
theorem siblingsOf_eq_of_permuted {items items' : List Value} (h : Permuted items items') :
    siblingsOf (.list items) = siblingsOf (.list items') := by
  obtain rfl | ⟨hperm, horderly⟩ := h
  · rfl
  · have hall : items.all Value.isObject = true := List.all_eq_true.mpr horderly.isObject
    have hall' : items'.all Value.isObject = true :=
      List.all_eq_true.mpr fun v hv => horderly.isObject v (hperm.mem_iff.mpr hv)
    rw [siblingsOf_list, siblingsOf_list, if_pos hall, if_pos hall',
      sortSiblings_eq_of_perm horderly hperm]

/-- The value under a text is that of the first entry with this key. -/
theorem Value.field_cons (k : Key) (v : Value) (es : Entries Value) (f : String) :
    (Value.obj ((k, v) :: es)).field f = if k = .str f then v else (Value.obj es).field f := by
  rw [field, get?, Entries.get?, field, get?]
  by_cases hk : k = .str f
  · rw [if_pos (Key.str_same.mpr hk), if_pos hk, Option.getD_some]
  · rw [if_neg (Key.str_same.not.mpr hk), if_neg hk]

/-! ### Running rearranged documents -/

namespace Engine

variable {en : Engine}

/-- Two blocks that run alike and may stand for each other among siblings. -/
structure RunAlike (en : Engine) (b b' : Value) : Prop where
  runBlock_eq : en.runBlock b = en.runBlock b'
  orderKey_eq : b.orderKey = b'.orderKey
  isObject_eq : b.isObject = b'.isObject

/-- Fields that run alike: those that list siblings do, and all others are the same. -/
structure FieldsRunAlike (en : Engine) (es es' : Entries Value) : Prop where
  get?_eq : ∀ f, f ≠ "actions" → f ∉ blockFields → es.get? (.str f) = es'.get? (.str f)
  runActions_eq : en.runActions ((Value.obj es).field "actions") =
    en.runActions ((Value.obj es').field "actions")
  runBlocks_eq : ∀ f ∈ blockFields,
    en.runBlocks ((Value.obj es).field f) = en.runBlocks ((Value.obj es').field f)

/-! #### Lists -/

theorem runBlocks_congr {v v' : Value} (h : siblingsOf v = siblingsOf v') :
    en.runBlocks v = en.runBlocks v' := by
  cases hv : siblingsOf v with
  | error f => rw [runBlocks_of_error hv, runBlocks_of_error (h ▸ hv)]
  | ok items => rw [runBlocks_of_ok hv, runBlocks_of_ok (h ▸ hv)]

theorem runActions_congr {v v' : Value} (h : siblingsOf v = siblingsOf v') :
    en.runActions v = en.runActions v' := by
  rw [runActions, runActions, h]

theorem runBlockList_eq_of_runAlike {items items' : List Value}
    (h : List.Forall₂ en.RunAlike items items') : en.runBlockList items = en.runBlockList items' := by
  induction h with
  | nil => rfl
  | cons hb _ ih => rw [runBlockList_cons, runBlockList_cons, hb.runBlock_eq, ih]

/-- **Lists of blocks that run alike one by one run alike**, because sorting keeps them paired. -/
theorem runBlocks_eq_of_runAlike {items items' : List Value}
    (h : List.Forall₂ en.RunAlike items items') :
    en.runBlocks (.list items) = en.runBlocks (.list items') := by
  have hall : items.all Value.isObject = items'.all Value.isObject := by
    induction h with
    | nil => rfl
    | cons hb _ ih => rw [List.all_cons, List.all_cons, hb.isObject_eq, ih]
  have hitems := siblingsOf_list items
  have hitems' := siblingsOf_list items'
  rw [hall] at hitems
  by_cases hobjects : items'.all Value.isObject = true
  · rw [if_pos hobjects] at hitems hitems'
    rw [runBlocks_of_ok hitems, runBlocks_of_ok hitems']
    exact runBlockList_eq_of_runAlike (forall₂_sortSiblings h fun _ _ hb => hb.orderKey_eq)
  · rw [if_neg hobjects] at hitems hitems'
    exact runBlocks_congr (hitems.trans hitems'.symm)

/-! #### Blocks -/

namespace FieldsRunAlike

variable {es es' : Entries Value}

theorem refl (es : Entries Value) : en.FieldsRunAlike es es := ⟨fun _ _ _ => rfl, rfl, fun _ _ => rfl⟩

theorem field_eq (h : en.FieldsRunAlike es es') {f : String} (hactions : f ≠ "actions")
    (hblocks : f ∉ blockFields) : (Value.obj es).field f = (Value.obj es').field f := by
  rw [Value.field, Value.field, Value.get?, Value.get?, h.get?_eq f hactions hblocks]

theorem blockRule?_eq (h : en.FieldsRunAlike es es') :
    en.blockRule? (.obj es) = en.blockRule? (.obj es') := by
  have htype : blockType (.obj es) = blockType (.obj es') := by
    rw [blockType, blockType, h.field_eq (by decide) (by decide), Value.get?, Value.get?,
      h.get?_eq "conditions" (by decide) (by decide)]
  rw [blockRule?, blockRule?, htype]

theorem passes_eq (h : en.FieldsRunAlike es es') :
    en.passes (.obj es) = en.passes (.obj es') := by
  rw [passes, passes, h.field_eq (by decide) (by decide)]

theorem loopItems_eq (h : en.FieldsRunAlike es es') :
    en.loopItems (.obj es) = en.loopItems (.obj es') := by
  rw [loopItems, loopItems, h.field_eq (f := "name") (by decide) (by decide),
    h.field_eq (f := "context") (by decide) (by decide)]

theorem branchBody_eq (h : en.FieldsRunAlike es es') :
    en.branchBody (.obj es) = en.branchBody (.obj es') := by
  funext passed
  have hfield : branchField passed ∈ blockFields := by cases passed <;> decide
  rw [branchBody, branchBody, h.runActions_eq, h.runBlocks_eq _ hfield]

theorem loopBody_eq (h : en.FieldsRunAlike es es') :
    en.loopBody (.obj es) = en.loopBody (.obj es') := by
  rw [loopBody, loopBody, h.runActions_eq, h.runBlocks_eq "blocks" (by decide)]

/-- **A block runs as its fields do**, whatever its kind. -/
theorem runAlike (hen : en.registry = .builtIn) (h : en.FieldsRunAlike es es') :
    en.RunAlike (.obj es) (.obj es') := by
  refine ⟨?_, ?_, rfl⟩
  · rw [runBlock_obj, runBlock_obj, ← h.blockRule?_eq]
    cases hrule : en.blockRule? (.obj es) with
    | none => exact h.runActions_eq
    | some rule =>
      cases rule with
      | actions => exact h.runActions_eq
      | conditional => dsimp only; rw [h.passes_eq, h.branchBody_eq]
      | forEach =>
        dsimp only
        rw [h.loopItems_eq, h.loopBody_eq, h.field_eq (f := "name") (by decide) (by decide)]
      | scheduleTask => exact h.runBlocks_eq "blocks" (by decide)
      | custom handler => exact absurd hrule (blockRule?_ne_custom hen)
  · rw [Value.orderKey, Value.orderKey, h.field_eq (by decide) (by decide)]

end FieldsRunAlike

/-- One more field: it may differ where it lists siblings, as long as these run alike. -/
theorem FieldsRunAlike.cons {es es' : Entries Value} (h : en.FieldsRunAlike es es') {k : Key}
    {v v' : Value} (hsame : ∀ f, k = .str f → f ≠ "actions" → f ∉ blockFields → v = v')
    (hactions : k = .str "actions" → en.runActions v = en.runActions v')
    (hblocks : ∀ f ∈ blockFields, k = .str f → en.runBlocks v = en.runBlocks v') :
    en.FieldsRunAlike ((k, v) :: es) ((k, v') :: es') := by
  refine ⟨fun f hf hf' => ?_, ?_, fun f hf => ?_⟩
  · rw [Entries.get?, Entries.get?, h.get?_eq f hf hf']
    by_cases hk : k = .str f
    · rw [hsame f hk hf hf']
    · rw [if_neg (Key.str_same.not.mpr hk), if_neg (Key.str_same.not.mpr hk)]
  · rw [Value.field_cons, Value.field_cons]
    split
    · next hk => exact hactions hk
    · exact h.runActions_eq
  · rw [Value.field_cons, Value.field_cons]
    split
    · next hk => exact hblocks f hf hk
    · exact h.runBlocks_eq f hf

/-! #### Documents -/

mutual

/-- A rearranged block runs alike. -/
theorem runAlike_of_rearranged (hen : en.registry = .builtIn) {b b' : Value} :
    BlockRearranged b b' → en.RunAlike b b'
  | .same b => ⟨rfl, rfl, rfl⟩
  | .fields hfields => (fieldsRunAlike_of_rearranged hen hfields).runAlike hen

/-- The rearranged fields of a block run alike. -/
theorem fieldsRunAlike_of_rearranged (hen : en.registry = .builtIn) {es es' : Entries Value} :
    FieldsRearranged es es' → en.FieldsRunAlike es es'
  | .nil => .refl []
  | .kept e h => (fieldsRunAlike_of_rearranged hen h).cons (fun _ _ _ _ => rfl) (fun _ => rfl)
      fun _ _ _ => rfl
  | .actions hitems h => by
    refine (fieldsRunAlike_of_rearranged hen h).cons ?_ ?_ ?_
    · rintro f ⟨⟩ hne
      exact absurd rfl hne
    · exact fun _ => runActions_congr (siblingsOf_eq_of_permuted hitems)
    · rintro f hf ⟨⟩
      exact absurd hf (by decide)
  | .blocks hf hsiblings h => by
    refine (fieldsRunAlike_of_rearranged hen h).cons ?_ ?_ ?_
    · rintro f ⟨⟩ - hne
      exact absurd hf hne
    · rintro ⟨⟩
      exact absurd hf (by decide)
    · exact fun _ _ _ => runBlocks_eq_of_rearranged hen hsiblings

/-- Rearranged lists of blocks run alike. -/
theorem runBlocks_eq_of_rearranged (hen : en.registry = .builtIn) {v v' : Value} :
    SiblingsRearranged v v' → en.runBlocks v = en.runBlocks v'
  | .same _ => rfl
  | .list heach hpermuted =>
    (runBlocks_eq_of_runAlike (forall₂_runAlike_of_rearranged hen heach)).trans
      (runBlocks_congr (siblingsOf_eq_of_permuted hpermuted))

/-- Blocks that are rearranged one by one run alike one by one. -/
theorem forall₂_runAlike_of_rearranged (hen : en.registry = .builtIn) {items items' : List Value} :
    EachRearranged items items' → List.Forall₂ en.RunAlike items items'
  | .nil => .nil
  | .cons hb hrest =>
    .cons (runAlike_of_rearranged hen hb) (forall₂_runAlike_of_rearranged hen hrest)

end

/-- **Where siblings stand in a document does not matter** as long as their orders tell them apart:
a run of the rearranged blocks is the same in every world, in what it returns or how it fails, in
the state it leaves, in what it logs and in the requests it sends. -/
theorem runBlocks_rearranged (hen : en.registry = .builtIn) {v v' : Value}
    (h : SiblingsRearranged v v') (w : World) :
    (en.runBlocks v).runFrom w = (en.runBlocks v').runFrom w :=
  congrArg (Run.runFrom · w) (runBlocks_eq_of_rearranged hen h)

end Engine

/-! ### A document turned round -/

/-- Two siblings that are objects of different orders. -/
theorem orderly_pair {a b : Value} (ha : a.isObject = true) (hb : b.isObject = true)
    (hnumber : a.orderKey.isNumber = true) (hnumber' : b.orderKey.isNumber = true)
    (hne : a.orderKey.compare? b.orderKey ≠ some .eq) : Orderly [a, b] :=
  ⟨by simp [ha, hb], by simp [hnumber, hnumber'], by simp [hne]⟩

/-- An action that binds a local context. -/
def binding (order : Value) (value : String) : Value :=
  .obj [(.str "type", .str "SET_LOCAL_CONTEXT"), (.str "order", order),
    (.str "contextName", .str "x"), (.str "value", .str value)]

/-- Two actions, the first of which runs last. -/
def lateAndEarly : List Value := [binding (.int 2) "late", binding .null "early"]

/-- One half. -/
def half : Double := .finite false 4503599627370496 1021 (by decide)

/-- A block with actions and one with blocks, whose order is between two integers. -/
def twoBlocks (actions blocks : List Value) : List Value :=
  [.obj [(.str "actions", .list actions), (.str "order", .int 1)],
    .obj [(.str "type", .str "SCHEDULE_TASK"), (.str "order", .float half),
      (.str "blocks", .list blocks)]]

/-- Two levels of blocks and the actions between them, all turned round. -/
theorem Engine.runBlocks_rearranged_twoBlocks :
    SiblingsRearranged (.list (twoBlocks lateAndEarly (twoBlocks [] [])))
        (.list (twoBlocks lateAndEarly.reverse (twoBlocks [] []).reverse).reverse) ∧
      (Engine.bare.runBlocks (.list (twoBlocks lateAndEarly (twoBlocks [] [])))).runFrom .ofCaller =
        (Engine.bare.runBlocks
          (.list (twoBlocks lateAndEarly.reverse (twoBlocks [] []).reverse).reverse)).runFrom
            .ofCaller := by
  have hactions : Permuted lateAndEarly lateAndEarly.reverse :=
    .inr ⟨(List.reverse_perm _).symm, orderly_pair rfl rfl rfl rfl (by decide)⟩
  have hne : (OrderKey.int 1).compare? (.float half) ≠ some .eq := by
    decide +kernel
  have hblocks : ∀ actions blocks, Permuted (twoBlocks actions blocks)
      (twoBlocks actions blocks).reverse := fun actions blocks =>
    .inr ⟨(List.reverse_perm _).symm, orderly_pair rfl rfl rfl rfl hne⟩
  have heach : EachRearranged (twoBlocks lateAndEarly (twoBlocks [] []))
      (twoBlocks lateAndEarly.reverse (twoBlocks [] []).reverse) := by
    refine .cons (.fields (.actions hactions (.kept _ .nil))) (.cons (.fields ?_) .nil)
    refine .kept _ (.kept _ (.blocks (by decide) (.list ?_ (hblocks [] [])) .nil))
    exact .cons (.same _) (.cons (.same _) .nil)
  have h := SiblingsRearranged.list heach (hblocks _ _)
  exact ⟨h, Engine.runBlocks_rearranged rfl h .ofCaller⟩

end WizardLogic
