import Mathlib
import WizardLogic.Proofs.Template.Operands
import WizardLogic.Proofs.Template.Print

/-!
# Arithmetic over names that may be unset

Templates are lenient with names that are not given. They stand for a value that is undefined, and so
does all that is reached from them through members and items. This file follows formulas over such
names and names of numbers: trees of the arithmetic operators and signs (`Formula`), however they are
nested.

A formula is fit for data (`Formula.IsOver`) if its names are given as its leaves say and all that is
calculated from numbers alone in it comes to a number. Of such a formula the rendering makes a number
or an undefined value, and which of them it is can be seen from the leaves: one that is unset is
enough (`Formula.exists_evalExpr`). The induction is over the formula. At an operator, each side has
a number or is undefined by hypothesis, and `applyBinary_undefined_left` and
`applyBinary_undefined_right` say that undefined sides win, from either side.

So a formula with an unset leaf renders as nothing and never fails, a comparison with it is false, and
a formula without one renders as the text of its number (`render_formula`). The last may fail, for an
integer can be calculated that has too many digits to be written.
-/

namespace WizardLogic.Template

open Render Stateful

/-! ### Formulas -/

/-- The constants by which an item is asked for. -/
inductive Index
  | constant (c : Const)
  /-- A position from the end, which is written with a sign. -/
  | negative (n : ℕ)

namespace Index

/-- An index as it is written. -/
def expr : Index → Expr
  | constant c => .const c
  | negative n => .neg (.const (.int n))

/-- An index as it is known before rendering. -/
def settled : Index → Expr
  | constant c => .const c
  | negative n => .const (.int (-n))

/-- Whether an index can be written down: as none, a truth value, a text, or a number. -/
def IsWritten : Index → Prop
  | constant .none | constant (.bool _) | constant (.str _) => True
  | constant (.int n) => n.natAbs < Image.intTextLimit
  | constant (.float d) => d.isFinite = true
  | constant _ => False
  | negative n => n < Image.intTextLimit

end Index

/-- **Arithmetic over names**: names of numbers and names that are unset, members and items of what
is unset, signs, and operators. -/
inductive Formula
  | number (name : String)
  | unset (name : String)
  | attr (f : Formula) (name : String)
  | item (f : Formula) (i : Index)
  /-- An item that is asked for by what another formula comes to. -/
  | itemBy (f key : Formula)
  | sign (negate : Bool) (f : Formula)
  | op (o : BinaryOp) (left right : Formula)

namespace Formula

/-- A formula as an expression, given how indices are written. -/
def write (index : Index → Expr) : Formula → Expr
  | number name => .name name
  | unset name => .name name
  | attr f name => .attr (f.write index) name
  | item f i => .item (f.write index) (index i)
  | itemBy f key => .item (f.write index) (key.write index)
  | sign true f => .neg (f.write index)
  | sign false f => .pos (f.write index)
  | op o left right => .binary o (left.write index) (right.write index)

/-- A formula as it is written. -/
abbrev expr : Formula → Expr := write Index.expr

/-- A formula as it is carried out. -/
abbrev settled : Formula → Expr := write Index.settled

/-- The names in a formula. -/
def names : Formula → List String
  | number name => [name]
  | unset name => [name]
  | attr f _ => f.names
  | item f _ => f.names
  | itemBy f key => f.names ++ key.names
  | sign _ f => f.names
  | op _ left right => left.names ++ right.names

/-- Whether a formula has a leaf that is unset. -/
def hasUnset : Formula → Bool
  | number _ => false
  | unset _ => true
  | attr f _ => f.hasUnset
  | item f _ => f.hasUnset
  | itemBy f key => f.hasUnset || key.hasUnset
  | sign _ f => f.hasUnset
  | op _ left right => left.hasUnset || right.hasUnset

/-- **The number that a formula without unset leaves comes to**, if it comes to one. -/
def value (data : Entries Value) : Formula → Except Failure Val
  | number name =>
    match data.get? (.str name) with
    | some (.int n) => .ok (.int n)
    | some (.float d) => .ok (.float d)
    | _ => invalid
  | sign negate f => do applySign negate (← f.value data)
  | op o left right => do
    let a ← left.value data
    calculate o a (← right.value data)
  | unset _ | attr _ _ | item _ _ | itemBy _ _ => invalid

/-- **A formula is fit for data**: its names are given or not, as its leaves say; members and items
are asked for only of what has an unset leaf; and whatever is free of unset leaves in it comes to a
number. -/
def IsOver (data : Entries Value) : Formula → Prop
  | number name => name ≠ "self" ∧ ∃ v, (number name).value data = .ok v
  | unset name => name ≠ "self" ∧ data.get? (.str name) = none ∧ globals.lookup name = none
  | attr f _ => f.hasUnset = true ∧ f.IsOver data
  | item f i => f.hasUnset = true ∧ f.IsOver data ∧ i.IsWritten
  | itemBy f key => f.hasUnset = true ∧ f.IsOver data ∧ key.IsOver data
  | sign negate f => f.IsOver data ∧
      (f.hasUnset = false → ∃ v, (sign negate f).value data = .ok v)
  | op o left right => left.IsOver data ∧ right.IsOver data ∧
      (left.hasUnset = false → right.hasUnset = false →
        ∃ v, (op o left right).value data = .ok v)

/-- What a formula stands for: something undefined if it has an unset leaf, and else its number. -/
inductive Yields (data : Entries Value) (f : Formula) : Val → Prop
  | undefined : f.hasUnset = true → Yields data f .undefined
  | number {v : Val} : f.hasUnset = false → f.value data = .ok v → Yields data f v

section Values

variable {data : Entries Value} {f : Formula} {v : Val}

/-- **What a formula comes to is a number.** -/
theorem isNumber_of_value (h : f.value data = .ok v) : v.IsNumber := by
  induction f generalizing v with
  | number name =>
    rw [value] at h
    split at h
    · obtain rfl := Except.ok.inj h
      exact .int _
    · obtain rfl := Except.ok.inj h
      exact .float _
    · cases h
  | sign negate f ih =>
    rw [value] at h
    obtain ⟨w, hw, h⟩ := exists_of_bind_eq_ok h
    exact isNumber_of_applySign (ih hw) h
  | op o left right _ _ =>
    rw [value] at h
    obtain ⟨a, -, h⟩ := exists_of_bind_eq_ok h
    obtain ⟨b, -, h⟩ := exists_of_bind_eq_ok h
    exact isNumber_of_calculate h
  | unset _ | attr _ _ _ | item _ _ _ | itemBy _ _ _ _ =>
    rw [value] at h
    cases h

/-- Without unset leaves, a formula that is fit for data comes to a number. -/
theorem IsOver.exists_value (h : f.IsOver data) (hset : f.hasUnset = false) :
    ∃ v, f.value data = .ok v := by
  cases f with
  | number name => exact h.2
  | unset name => cases hset
  | attr f name | item f i => cases h.1.symm.trans hset
  | itemBy f key =>
    rw [hasUnset, h.1, Bool.true_or] at hset
    cases hset
  | sign negate f => exact h.2 hset
  | op o left right =>
    obtain ⟨hleft, hright⟩ := Bool.or_eq_false_iff.mp hset
    exact h.2.2 hleft hright

theorem Yields.eq_undefined (h : f.Yields data v) (hunset : f.hasUnset = true) :
    v = .undefined := by
  cases h with
  | undefined => rfl
  | number hset _ => cases hunset.symm.trans hset

theorem Yields.value_eq (h : f.Yields data v) (hset : f.hasUnset = false) :
    f.value data = .ok v := by
  cases h with
  | undefined hunset => cases hunset.symm.trans hset
  | number _ hvalue => exact hvalue

theorem Yields.undefined_or_isNumber (h : f.Yields data v) : v = .undefined ∨ v.IsNumber := by
  cases h with
  | undefined => exact .inl rfl
  | number _ hvalue => exact .inr (isNumber_of_value hvalue)

end Values

/-! ### Before rendering -/

section Settling

variable {data : Entries Value} {f : Formula} (index : Index → Expr)

theorem exprNames_write (hindex : ∀ i, exprNames (index i) = []) (f : Formula) :
    exprNames (f.write index) = f.names := by
  induction f with
  | number name | unset name => rfl
  | attr f name ih => exact ih
  | item f i ih => rw [write, exprNames, ih, hindex, List.append_nil, names]
  | itemBy f key ihf ihkey => rw [write, exprNames, ihf, ihkey, names]
  | sign negate f ih => cases negate <;> exact ih
  | op o left right ihl ihr => rw [write, exprNames, ihl, ihr, names]

theorem self_not_mem_names (h : f.IsOver data) : "self" ∉ f.names := by
  induction f with
  | number name | unset name => simpa [names] using h.1.symm
  | attr f name ih => exact ih h.2
  | item f i ih => exact ih h.2.1
  | itemBy f key ihf ihkey => simpa [names] using ⟨ihf h.2.1, ihkey h.2.2⟩
  | sign negate f ih => exact ih h.1
  | op o left right ihl ihr => simpa [names] using ⟨ihl h.1, ihr h.2.1⟩

/-- **Nothing is known of a formula before rendering**, since nothing is known of its leaves. -/
theorem knownVal_write (p : Powers) (esc : Escaping) (f : Formula) (s : Store) :
    (knownVal p esc (f.write index)).run s = .ok (none, s) := by
  induction f with
  | number name | unset name => exact knownVal_name p esc name s
  | attr f name ih | item f i ih | itemBy f key ih _ =>
    rw [write, knownVal]
    exact Known.orLeave_of_none (Known.bind_of_none ih _)
  | sign negate f ih =>
    cases negate <;> (rw [write, knownVal]; exact Known.orLeave_of_none (Known.bind_of_none ih _))
  | op o left right ih _ =>
    rw [write, knownVal]
    exact Known.orLeave_of_none (Known.bind_of_none ih _)

theorem reduce_index (p : Powers) (esc : Escaping) (i : Index) (s : Store) :
    reduce p esc i.expr s = .ok (i.settled, s) := by
  cases i with
  | constant c => rw [Index.expr, reduce, pure_run, Index.settled]
  | negative n =>
    have hconst : reduce p esc (.const (.int n)) s = .ok (.const (.int n), s) := by
      rw [reduce, pure_run]
    have hknown : (knownVal p esc (.neg (.const (.int n)))).run s = .ok (some (.int (-n)), s) := by
      rw [knownVal, knownVal]
      rfl
    rw [Index.expr, reduce, bind_of_ok hconst, constantOr, bind_of_ok hknown]
    rfl

/-- The base of a power is not a constant. -/
theorem signedPower_write (o : BinaryOp) (left : Formula) (right : Expr) :
    signedPower (.binary o (left.write index) right) = .binary o (left.write index) right := by
  cases left with
  | sign negate f => cases negate <;> cases o <;> rfl
  | _ => cases o <;> rfl

/-- **A formula is settled but for its indices.** -/
theorem reduce_expr (p : Powers) (esc : Escaping) (f : Formula) (s : Store) :
    reduce p esc f.expr s = .ok (f.settled, s) := by
  have hleft : ∀ f : Formula, constantOr p esc f.settled s = .ok (f.settled, s) :=
    fun f => constantOr_of_none (knownVal_write _ p esc f s)
  unfold expr settled at *
  induction f with
  | number name | unset name => rw [write, reduce, pure_run, write]
  | attr f name ih =>
    rw [write, reduce, bind_of_ok ih]
    exact hleft (attr f name)
  | item f i ih =>
    rw [write, reduce, bind_of_ok ih, bind_of_ok (reduce_index p esc i s)]
    exact hleft (item f i)
  | itemBy f key ihf ihkey =>
    rw [write, reduce, bind_of_ok ihf, bind_of_ok ihkey]
    exact hleft (itemBy f key)
  | sign negate f ih =>
    cases negate <;> rw [write, reduce, bind_of_ok ih]
    · exact hleft (sign false f)
    · exact hleft (sign true f)
  | op o left right ihl ihr =>
    have hop : constantOr p esc (.binary o (write Index.settled left) (write Index.settled right))
        s = .ok (.binary o (write Index.settled left) (write Index.settled right), s) :=
      hleft (op o left right)
    rw [write, reduce, bind_of_ok ihl, bind_of_ok ihr, bind_of_ok hop, pure_run, write,
      signedPower_write]

theorem settle_expr (p : Powers) (f : Formula) (s : Store) :
    settle p ⟨false, false⟩ f.expr s = .ok (f.settled, s) := by
  rw [← reduce_expr p ⟨false, false⟩ f s, expr]
  cases f with
  | sign negate f => cases negate <;> rfl
  | _ => rfl

theorem exprSound_settled (lenient : Bool) (f : Formula) : exprSound lenient f.settled = true := by
  unfold settled
  induction f with
  | number name | unset name => rfl
  | attr f name ih => exact ih
  | item f i ih =>
    rw [write, exprSound, ih]
    cases i <;> rfl
  | itemBy f key ihf ihkey => rw [write, exprSound, ihf, ihkey, Bool.true_and]
  | sign negate f ih => cases negate <;> exact ih
  | op o left right ihl ihr => rw [write, exprSound, ihl, ihr, Bool.true_and]

/-- Whether an expression itself can be carried out and has a text. -/
def IsFine (e : Expr) : Prop := isWritable e = true ∧ exprWellFormed e = true

theorem isFine_settled_index {i : Index} (h : i.IsWritten) : IsFine i.settled := by
  refine ⟨?_, by cases i <;> rfl⟩
  cases i with
  | constant c =>
    cases c with
    | none | bool _ | str _ | float _ => rfl
    | int n =>
      rw [Index.IsWritten] at h
      rw [Index.settled, isWritable, Const.hasText, decide_eq_true_eq]
      exact h
    | _ => exact absurd h id
  | negative n =>
    rw [Index.IsWritten] at h
    rw [Index.settled, isWritable, Const.hasText, decide_eq_true_eq, Int.natAbs_neg,
      Int.natAbs_natCast]
    exact h

/-- **All that is in a formula can be carried out.** -/
theorem isFine_settled (h : f.IsOver data) :
    ∀ x ∈ f.settled.gather fun e => [e], IsFine x := by
  unfold settled
  induction f with
  | number name | unset name =>
    intro x hx
    obtain rfl := List.mem_singleton.mp hx
    exact ⟨rfl, rfl⟩
  | attr f name ih =>
    rw [write, Expr.gather]
    exact List.forall_mem_append.mpr ⟨List.forall_mem_singleton.mpr ⟨rfl, rfl⟩, ih h.2⟩
  | item f i ih =>
    have hindex : i.settled.gather (fun e => [e]) = [i.settled] := by cases i <;> rfl
    rw [write, Expr.gather, hindex]
    exact List.forall_mem_append.mpr ⟨List.forall_mem_singleton.mpr ⟨rfl, rfl⟩,
      List.forall_mem_append.mpr
        ⟨ih h.2.1, List.forall_mem_singleton.mpr (isFine_settled_index h.2.2)⟩⟩
  | itemBy f key ihf ihkey =>
    rw [write, Expr.gather]
    exact List.forall_mem_append.mpr ⟨List.forall_mem_singleton.mpr ⟨rfl, rfl⟩,
      List.forall_mem_append.mpr ⟨ihf h.2.1, ihkey h.2.2⟩⟩
  | sign negate f ih =>
    cases negate <;> rw [write, Expr.gather] <;>
      exact List.forall_mem_append.mpr ⟨List.forall_mem_singleton.mpr ⟨rfl, rfl⟩, ih h.1⟩
  | op o left right ihl ihr =>
    rw [write, Expr.gather]
    exact List.forall_mem_append.mpr ⟨List.forall_mem_singleton.mpr ⟨rfl, rfl⟩,
      List.forall_mem_append.mpr ⟨ihl h.1, ihr h.2.1⟩⟩

/-- Indices have no names. -/
theorem exprNames_expr (f : Formula) : exprNames f.expr = f.names :=
  exprNames_write _ (fun i => by cases i <;> rfl) f

theorem exprNames_settled (f : Formula) : exprNames f.settled = f.names :=
  exprNames_write _ (fun i => by cases i <;> rfl) f

end Settling

/-! ### Evaluation -/

section Evaluation

variable {data : Entries Value} {env : Env} {s : Store} {f : Formula} (p : Powers)

theorem evalExpr_const {c : Const} {w : Val} (hnotable : c.isNotable = true)
    (hw : ofConst c s = .ok (w, s)) : evalExpr p env (.const c) s = .ok (w, s) := by
  rw [evalExpr, constValue, if_pos hnotable, hw]

/-- An index has a value. -/
theorem exists_evalExpr_index (env : Env) (s : Store) {i : Index} (h : i.IsWritten) :
    ∃ w, evalExpr p env i.settled s = .ok (w, s) := by
  cases i with
  | constant c =>
    cases c with
    | none | bool _ | str _ | int _ => exact ⟨_, evalExpr_const p rfl rfl⟩
    | float d => exact ⟨_, evalExpr_const p h rfl⟩
    | _ => exact absurd h id
  | negative n => exact ⟨_, evalExpr_const p rfl rfl⟩

/-- The name of a number stands for the number when the rendering starts. -/
theorem readName_of_value {name : String} {v : Val} (h : (number name).value data = .ok v)
    (hs : Starts data env s) : readName env name s = .ok (v, s) := by
  rw [value] at h
  split at h
  · next n hget =>
    obtain rfl := Except.ok.inj h
    obtain ⟨w, hread, hrep⟩ := hs.given name _ hget
    obtain rfl : w = .int n := hrep
    exact hread
  · next d hget =>
    obtain rfl := Except.ok.inj h
    obtain ⟨w, hread, hrep⟩ := hs.given name _ hget
    obtain rfl : w = .float d := hrep
    exact hread
  · cases h

/-- **What a formula is evaluated to.** Where the names stand for what is given, a formula that is fit
for the data has the value that its leaves let it have, and evaluating it changes nothing. -/
theorem exists_evalExpr (h : f.IsOver data) (hs : Starts data env s) :
    ∃ v, f.Yields data v ∧ evalExpr p env f.settled s = .ok (v, s) := by
  unfold settled
  induction f with
  | number name =>
    obtain ⟨v, hv⟩ := h.2
    refine ⟨v, .number rfl hv, ?_⟩
    rw [write, evalExpr]
    exact readName_of_value hv hs
  | unset name =>
    refine ⟨.undefined, .undefined rfl, ?_⟩
    rw [write, evalExpr, hs.other name h.2.1, h.2.2]
    rfl
  | attr f name ih =>
    obtain ⟨v, hv, heval⟩ := ih h.2
    obtain rfl := hv.eq_undefined h.1
    refine ⟨.undefined, .undefined h.1, ?_⟩
    rw [write, evalExpr, bind_of_ok heval, getMember_undefined, pure_run]
  | item f i ih =>
    obtain ⟨v, hv, heval⟩ := ih h.2.1
    obtain rfl := hv.eq_undefined h.1
    obtain ⟨w, hw⟩ := exists_evalExpr_index p env s h.2.2
    refine ⟨.undefined, .undefined h.1, ?_⟩
    rw [write, evalExpr, bind_of_ok heval, bind_of_ok hw, getItem_undefined, pure_run]
  | itemBy f key ihf ihkey =>
    obtain ⟨v, hv, heval⟩ := ihf h.2.1
    obtain rfl := hv.eq_undefined h.1
    obtain ⟨w, -, hw⟩ := ihkey h.2.2
    have hunset : (itemBy f key).hasUnset = true := by rw [hasUnset, h.1, Bool.true_or]
    refine ⟨.undefined, .undefined hunset, ?_⟩
    rw [write, evalExpr, bind_of_ok heval, bind_of_ok hw, getItem_undefined, pure_run]
  | sign negate f ih =>
    obtain ⟨v, hv, heval⟩ := ih h.1
    have hsign : evalExpr p env (write Index.settled (sign negate f)) s =
        ofOutcome (applySign negate v) s := by
      cases negate <;> rw [write, evalExpr, bind_of_ok heval]
    cases hunset : f.hasUnset with
    | true =>
      obtain rfl := hv.eq_undefined hunset
      exact ⟨.undefined, .undefined hunset, by rw [hsign, applySign_undefined]; rfl⟩
    | false =>
      obtain ⟨r, hr⟩ := h.2 hunset
      refine ⟨r, .number hunset hr, ?_⟩
      rw [value, hv.value_eq hunset] at hr
      rw [hsign, show applySign negate v = .ok r from hr]
      rfl
  | op o left right ihl ihr =>
    obtain ⟨a, ha, hleft⟩ := ihl h.1
    obtain ⟨b, hb, hright⟩ := ihr h.2.1
    have hop : evalExpr p env (write Index.settled (op o left right)) s =
        applyBinary p o a b s := by
      rw [write, evalExpr, bind_of_ok hleft, bind_of_ok hright]
    -- An unset leaf on either side decides; else both sides are numbers.
    cases hl : left.hasUnset with
    | true =>
      obtain rfl := ha.eq_undefined hl
      have hunset : (op o left right).hasUnset = true := by rw [hasUnset, hl, Bool.true_or]
      refine ⟨.undefined, .undefined hunset, ?_⟩
      rw [hop, applyBinary_undefined_left p o hb.undefined_or_isNumber, pure_run]
    | false =>
      have hnumber := isNumber_of_value (ha.value_eq hl)
      cases hr : right.hasUnset with
      | true =>
        obtain rfl := hb.eq_undefined hr
        have hunset : (op o left right).hasUnset = true := by rw [hasUnset, hr, Bool.or_true]
        refine ⟨.undefined, .undefined hunset, ?_⟩
        rw [hop, applyBinary_undefined_right p o hnumber, pure_run]
      | false =>
        obtain ⟨r, hvalue⟩ := h.2.2 hl hr
        have hset : (op o left right).hasUnset = false := by rw [hasUnset, hl, hr, Bool.or_false]
        refine ⟨r, .number hset hvalue, ?_⟩
        rw [value, ha.value_eq hl, hb.value_eq hr] at hvalue
        rw [hop, applyBinary_of_number p o hnumber (isNumber_of_value (hb.value_eq hr)),
          show calculate o a b = .ok r from hvalue]
        rfl

end Evaluation

/-! ### Rendering -/

section Rendering

variable {data : Entries Value} {source : String} {f g : Formula}

/-- A number is printed as its text. -/
theorem printText_number {env : Env} {v : Val} {s : Store} (h : env.escape = ⟨false, false⟩)
    (hv : v.IsNumber) : printText env v s = textOf v s := by
  have hprinted : printed v = pure v := by cases hv <;> rfl
  rw [printText, hprinted, pure_bind, bind_of_ok (escapesHere_of_off h)]
  rfl

theorem prepare_formula (h : f.IsOver data) (hparse : parse? source = some [.print f.expr]) :
    prepare source = .ok [.print f.settled] :=
  prepare_print hparse (knownVal_write _ _ _ f _) (settle_expr _ f _)
    ((exprNames_settled f).trans (exprNames_expr f).symm)
    (check_print (exprSound_settled false f) (isFine_settled h))

theorem self_not_mem_settled (h : f.IsOver data) : "self" ∉ exprNames f.settled :=
  exprNames_settled f ▸ self_not_mem_names h

/-- **A formula with an unset leaf renders as nothing.** -/
theorem render_of_hasUnset (h : f.IsOver data) (hunset : f.hasUnset = true)
    (hparse : parse? source = some [.print f.expr]) : render (.str source) data = .ok "" := by
  refine render_print (prepare_formula h hparse) (self_not_mem_settled h) fun {env s} hs => ?_
  obtain ⟨v, hv, heval⟩ := exists_evalExpr (powersWithin maxDepth) h hs
  obtain rfl := hv.eq_undefined hunset
  rw [bind_of_ok heval, printText_undefined hs.escape]

/-- **A formula without unset leaves renders as the text of its number**, and fails where that has
none. -/
theorem render_of_value (h : f.IsOver data) (hset : f.hasUnset = false) {v : Val}
    (hvalue : f.value data = .ok v) (hparse : parse? source = some [.print f.expr]) :
    render (.str source) data = match v.numberText? with
      | some text => .ok text
      | none => .error Error.templateFailed := by
  have hnumber := isNumber_of_value hvalue
  have hprint : ∀ {env s}, Starts data env s →
      (evalExpr (powersWithin maxDepth) env f.settled >>= printText env) s = textOf v s := by
    intro env s hs
    obtain ⟨w, hw, heval⟩ := exists_evalExpr (powersWithin maxDepth) h hs
    obtain rfl := Except.ok.inj ((hw.value_eq hset).symm.trans hvalue)
    rw [bind_of_ok heval, printText_number hs.escape hnumber]
  cases htext : v.numberText? with
  | some text =>
    refine render_print (prepare_formula h hparse) (self_not_mem_settled h) fun {env s} hs => ?_
    rw [hprint hs, textOf_number hnumber, htext]
  | none =>
    refine render_print_invalid (prepare_formula h hparse) (self_not_mem_settled h)
      fun {env s} hs => ?_
    rw [hprint hs, textOf_number hnumber, htext]

/-- A comparison of two formulas, given how indices are written. -/
def compared (index : Index → Expr) (op : CompareOp) (f g : Formula) : Expr :=
  .compare (f.write index) [(op, g.write index)]

theorem exprNames_compared {index : Index → Expr} (hindex : ∀ i, exprNames (index i) = [])
    (op : CompareOp) (f g : Formula) : exprNames (compared index op f g) = f.names ++ g.names := by
  rw [compared, exprNames, comparesNames, comparesNames, exprNames_write _ hindex,
    exprNames_write _ hindex, List.append_nil]

theorem knownVal_compared (index : Index → Expr) (p : Powers) (esc : Escaping) (op : CompareOp)
    (f g : Formula) (s : Store) : (knownVal p esc (compared index op f g)).run s = .ok (none, s) := by
  rw [compared, knownVal]
  exact Known.bind_of_none (knownVal_write _ p esc f s) _

theorem settle_compared (p : Powers) (op : CompareOp) (f g : Formula) (s : Store) :
    settle p ⟨false, false⟩ (compared Index.expr op f g) s =
      .ok (compared Index.settled op f g, s) := by
  have hcompares : reduceCompares p ⟨false, false⟩ [(op, g.write Index.expr)] s =
      .ok ([(op, g.write Index.settled)], s) := by
    rw [reduceCompares, bind_of_ok (reduce_expr p _ g s)]
    rfl
  have hknown := knownVal_compared Index.settled p ⟨false, false⟩ op f g s
  rw [compared] at hknown ⊢
  rw [settle, if_neg Bool.false_ne_true, reduce, bind_of_ok (reduce_expr p _ f s),
    bind_of_ok hcompares]
  · exact constantOr_of_none hknown
  all_goals simp

theorem prepare_compared {op : CompareOp} (hf : f.IsOver data) (hg : g.IsOver data)
    (hparse : parse? source = some [.print (compared Index.expr op f g)]) :
    prepare source = .ok [.print (compared Index.settled op f g)] := by
  have hnames : exprNames (compared Index.settled op f g) =
      exprNames (compared Index.expr op f g) := by
    rw [exprNames_compared fun i => by cases i <;> rfl, exprNames_compared fun i => by cases i <;> rfl]
  refine prepare_print hparse (knownVal_compared _ _ _ op f g _) (settle_compared _ op f g _) hnames
    (check_print ?_ ?_)
  · have hsound := exprSound_settled false
    rw [compared, exprSound, comparesSound, comparesSound]
    exact Bool.and_eq_true_iff.mpr ⟨hsound f, Bool.and_eq_true_iff.mpr ⟨hsound g, rfl⟩⟩
  · rw [compared, Expr.gather, gatherCompares, gatherCompares, List.append_nil]
    exact List.forall_mem_append.mpr ⟨List.forall_mem_singleton.mpr ⟨rfl, rfl⟩,
      List.forall_mem_append.mpr ⟨isFine_settled hf, isFine_settled hg⟩⟩

/-- **A comparison of order with an unset leaf on either side renders as false.** -/
theorem render_compared {op : CompareOp} (hop : op.IsOrder) (hf : f.IsOver data)
    (hg : g.IsOver data) (hunset : f.hasUnset = true ∨ g.hasUnset = true)
    (hparse : parse? source = some [.print (compared Index.expr op f g)]) :
    render (.str source) data = .ok "false" := by
  have hself : "self" ∉ exprNames (compared Index.settled op f g) := by
    rw [exprNames_compared fun i => by cases i <;> rfl, List.mem_append]
    exact not_or.mpr ⟨self_not_mem_names hf, self_not_mem_names hg⟩
  refine render_print (prepare_compared hf hg hparse) hself fun {env s} hs => ?_
  obtain ⟨a, ha, hleft⟩ := exists_evalExpr (powersWithin maxDepth) hf hs
  obtain ⟨b, hb, hright⟩ := exists_evalExpr (powersWithin maxDepth) hg hs
  have hcompare : compareVals (powersWithin maxDepth) op a b s = .ok (false, s) := by
    rcases ha.undefined_or_isNumber with rfl | hnumber
    · exact compareVals_undefined_left _ hop b s
    -- The left side is a number, so it is the right one that is unset.
    · have hset : f.hasUnset = false := by
        refine Bool.eq_false_iff.mpr fun hf => ?_
        rw [ha.eq_undefined hf] at hnumber
        cases hnumber
      obtain rfl := hb.eq_undefined (hunset.resolve_left (by rw [hset]; exact Bool.false_ne_true))
      exact compareVals_undefined_right _ hop hnumber s
  have heval : evalExpr (powersWithin maxDepth) env (compared Index.settled op f g) s =
      .ok (.bool false, s) := by
    have hcompares : evalCompares (powersWithin maxDepth) env a [(op, g.write Index.settled)] s =
        .ok (false, s) := by
      rw [evalCompares, bind_of_ok hright, bind_of_ok hcompare]
      rfl
    rw [compared, evalExpr, bind_of_ok hleft, bind_of_ok hcompares, pure_run]
  rw [bind_of_ok heval, printText_bool hs.escape]
  rfl

end Rendering

end Formula

/-- **Unset names make formulas render as nothing.** Let a formula be fit for the data, that is, let
all that is free of unset leaves in it come to a number. However it is written, a template that prints
it renders as nothing if it has an unset leaf. Else it renders as the text of its number, and fails
exactly if that is an integer with too many digits. A template that prints a comparison of order
between two such formulas renders as false if either has an unset leaf. -/
theorem render_formula {data : Entries Value} {f : Formula} (hf : f.IsOver data) :
    (∀ source, parse? source = some [.print f.expr] →
      (f.hasUnset = true → render (.str source) data = .ok "") ∧
      (f.hasUnset = false → ∃ v, f.value data = .ok v ∧ v.IsNumber ∧
        render (.str source) data = match v.numberText? with
          | some text => .ok text
          | none => .error Error.templateFailed)) ∧
    ∀ (g : Formula) (op : CompareOp) (source : String), g.IsOver data → op.IsOrder →
      f.hasUnset = true ∨ g.hasUnset = true →
      parse? source = some [.print (.compare f.expr [(op, g.expr)])] →
        render (.str source) data = .ok "false" := by
  refine ⟨fun source hparse => ⟨fun hunset => Formula.render_of_hasUnset hf hunset hparse,
    fun hset => ?_⟩, fun g op source hg hop hunset hparse => ?_⟩
  · obtain ⟨v, hvalue⟩ := hf.exists_value hset
    exact ⟨v, hvalue, Formula.isNumber_of_value hvalue, Formula.render_of_value hf hset hvalue hparse⟩
  · exact Formula.render_compared hop hf hg hunset hparse

/-! ### Three templates -/

/-- A power of two numbers. -/
def powerFormula : Formula := .op .pow (.number "x") (.number "y")

/-- A power with an unset leaf deep in its base. -/
def unsetFormula : Formula :=
  .op .pow (.sign true (.op .floorDiv (.number "x") (.item (.attr (.unset "m") "a") (.negative 1))))
    (.op .mod (.number "y") (.number "x"))

/-- Two small numbers. -/
def smallData : Entries Value := [(.str "x", .int 7), (.str "y", .int 3)]

theorem parse?_unsetFormula :
    parse? "{{ -(x // m.a[-1]) ** (y % x) }}" = some [.print unsetFormula.expr] := by
  have htokens : Token.ofText? "{{ -(x // m.a[-1]) ** (y % x) }}" =
      some [.printBegin, .sym .sub, .sym .lparen, .name "x", .sym .floorDiv, .name "m", .sym .dot,
        .name "a", .sym .lbracket, .sym .sub, .int 1, .sym .rbracket, .sym .rparen, .sym .pow,
        .sym .lparen, .name "y", .sym .mod, .name "x", .sym .rparen, .printEnd] := by
    decide +kernel
  unfold parse?
  rw [htokens]
  cbv

theorem parse?_powerFormula : parse? "{{ x ** y }}" = some [.print powerFormula.expr] := by
  have htokens : Token.ofText? "{{ x ** y }}" =
      some [.printBegin, .name "x", .sym .pow, .name "y", .printEnd] := by
    decide +kernel
  unfold parse?
  rw [htokens]
  cbv

theorem parse?_comparedFormulas : parse? "{{ x ** y < m }}" =
    some [.print (.compare powerFormula.expr [(.lt, (Formula.unset "m").expr)])] := by
  have htokens : Token.ofText? "{{ x ** y < m }}" =
      some [.printBegin, .name "x", .sym .pow, .name "y", .sym .lt, .name "m", .printEnd] := by
    decide +kernel
  unfold parse?
  rw [htokens]
  cbv

theorem isOver_unsetFormula : unsetFormula.IsOver smallData := by
  have hunset : (Formula.unset "m").IsOver smallData := ⟨by decide, rfl, rfl⟩
  have hx : (Formula.number "x").IsOver smallData := ⟨by decide, _, rfl⟩
  have hy : (Formula.number "y").IsOver smallData := ⟨by decide, _, rfl⟩
  have hposition : (Index.negative 1).IsWritten :=
    lt_intTextLimit (show 1 < 10 ^ 1 by decide) (by decide)
  have hquotient : (Formula.op .floorDiv (.number "x")
      (.item (.attr (.unset "m") "a") (.negative 1))).IsOver smallData :=
    ⟨hx, ⟨rfl, ⟨rfl, hunset⟩, hposition⟩, fun _ h => nomatch h⟩
  exact ⟨⟨hquotient, fun h => nomatch h⟩, ⟨hy, hx, fun _ _ => ⟨_, rfl⟩⟩, fun h => nomatch h⟩

/-- The unset leaf makes the template render as nothing, a comparison with another one is false, and
without any there is a number. -/
theorem render_formula_unsetFormula :
    unsetFormula.IsOver smallData ∧ unsetFormula.hasUnset = true ∧
      render (.str "{{ -(x // m.a[-1]) ** (y % x) }}") smallData = .ok "" ∧
      powerFormula.IsOver smallData ∧ powerFormula.hasUnset = false ∧
      render (.str "{{ x ** y < m }}") smallData = .ok "false" ∧
      render (.str "{{ x ** y }}") smallData = .ok "343" := by
  have hpower : powerFormula.IsOver smallData :=
    ⟨⟨by decide, _, rfl⟩, ⟨by decide, _, rfl⟩, fun _ _ => ⟨_, rfl⟩⟩
  obtain ⟨hprinted, hcompared⟩ := render_formula hpower
  refine ⟨isOver_unsetFormula, rfl, ?_, hpower, rfl, ?_, ?_⟩
  · exact ((render_formula isOver_unsetFormula).1 _ parse?_unsetFormula).1 rfl
  · exact hcompared (.unset "m") .lt _ ⟨by decide, rfl, rfl⟩ trivial (.inr rfl)
      parse?_comparedFormulas
  · obtain ⟨v, hvalue, -, hrender⟩ := (hprinted _ parse?_powerFormula).2 rfl
    obtain rfl : .int 343 = v := Except.ok.inj (Eq.trans rfl hvalue)
    have hshort : (343 : ℤ).natAbs < Image.intTextLimit :=
      lt_intTextLimit (show 343 < 10 ^ 3 by decide) (by decide)
    rw [hrender, Val.numberText?, if_pos hshort]
    rfl

/-- Two numbers with a power that is too long to be written. -/
def longData : Entries Value := [(.str "x", .int 10), (.str "y", .int 5000)]

/-- **A number may have no text**: there is no unset leaf in the formula and what is calculated is an
integer, but the rendering fails. -/
theorem render_powerFormula_longData :
    powerFormula.IsOver longData ∧ powerFormula.hasUnset = false ∧
      powerFormula.value longData = .ok (.int (Int.pow 10 5000)) ∧
      parse? "{{ x ** y }}" = some [.print powerFormula.expr] ∧
      render (.str "{{ x ** y }}") longData = .error Error.templateFailed := by
  have hvalue : powerFormula.value longData = .ok (.int (Int.pow 10 5000)) := rfl
  have hover : powerFormula.IsOver longData :=
    ⟨⟨by decide, _, rfl⟩, ⟨by decide, _, rfl⟩, fun _ _ => ⟨_, hvalue⟩⟩
  have hlong : (Val.int (Int.pow 10 5000)).numberText? = none := by
    have habs : ∀ k : ℕ, (Int.pow 10 k).natAbs = 10 ^ k := fun k => Int.natAbs_pow 10 k
    have hle := intTextLimit_le (show Number.maxIntDigits ≤ 5000 by decide)
    rw [Val.numberText?, habs, if_neg (Nat.not_lt.mpr hle)]
  refine ⟨hover, rfl, hvalue, parse?_powerFormula, ?_⟩
  rw [Formula.render_of_value hover rfl hvalue parse?_powerFormula, hlong]

end WizardLogic.Template
