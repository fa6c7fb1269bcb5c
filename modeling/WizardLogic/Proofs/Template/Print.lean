import Mathlib
import WizardLogic.Proofs.Document.Json
import WizardLogic.Proofs.Template.Image
import WizardLogic.Template

/-!
# Templates that print one expression

A template that does nothing but print an expression goes through the stages of all templates, and
this file follows it through them once for all such expressions. Nothing is settled before rendering
but what is known of the expression (`prepare_print`), which is nothing for a name
(`prepare_name`). When the rendering starts, each name stands for what was given under it, or for a
global function, or for nothing (`Starts`, `enter_spec`). So what the template comes to is what
evaluating and printing the expression come to where the names stand for that (`render_print`,
`render_print_invalid`).

The name `self` is left out. It stands for the sections of the template, and a template that
mentions it makes a cell for them before it prints anything.
-/

namespace WizardLogic.Template

open Render Stateful

/-! ### What is known before rendering -/

section Known

variable {α β : Type} {s : Store}

/-- What is not known makes all that follows not known. -/
theorem Known.bind_of_none {r : Known α} (h : r.run s = .ok (none, s)) (f : α → Known β) :
    (r >>= f).run s = .ok (none, s) := by
  rw [OptionT.run_bind, Option.elimM, bind_of_ok h]
  rfl

theorem Known.orLeave_of_none {r : Known α} (h : r.run s = .ok (none, s)) :
    (Known.orLeave r).run s = .ok (none, s) := by
  have hattempt : attempt r.run s = .ok (some none, s) := by rw [attempt, h]
  rw [Known.orLeave, OptionT.run_mk, bind_of_ok hattempt]
  rfl

/-- Nothing is known of a name. -/
theorem knownVal_name (p : Powers) (esc : Escaping) (name : String) (s : Store) :
    (knownVal p esc (.name name)).run s = .ok (none, s) := by
  rw [knownVal]
  rfl

theorem settle_name (p : Powers) (name : String) (s : Store) :
    settle p ⟨false, false⟩ (.name name) s = .ok (.name name, s) := by
  rw [settle, if_neg Bool.false_ne_true, reduce, pure_run]
  all_goals simp

/-- What is not known is left as it is. -/
theorem constantOr_of_none {p : Powers} {esc : Escaping} {e : Expr}
    (h : (knownVal p esc e).run s = .ok (none, s)) : constantOr p esc e s = .ok (e, s) := by
  rw [constantOr, bind_of_ok h]
  rfl

end Known

/-- A template that prints something unknown prints it when it is rendered. -/
theorem settleStmts_print {e e' : Expr} {p : Powers} {s : Store}
    (hknown : (knownVal p ⟨false, false⟩ e).run s = .ok (none, s))
    (hsettle : settle p ⟨false, false⟩ e s = .ok (e', s)) (hnames : exprNames e' = exprNames e) :
    settleStmts p ⟨false, false⟩ [.print e] s = .ok ([.print e'], s) := by
  have htext : (knownText p ⟨false, false⟩ e).run s = .ok (none, s) := by
    rw [knownText]
    exact Known.orLeave_of_none (Known.bind_of_none hknown _)
  have hprint : settlePrint p ⟨false, false⟩ e s = .ok (.print e', s) := by
    rw [settlePrint, bind_of_ok htext]
    exact bind_of_ok hsettle
  -- No name is lost, so none is mentioned in front of the expression.
  have hmention : mentioning [e] (Stmt.print e').exprs [.print e'] = [.print e'] := by
    have hkept : ((exprsNames [e]).filter fun n => !(exprsNames [e']).contains n) = [] := by
      have hsame : exprsNames [e'] = exprsNames [e] := congrArg (· ++ []) hnames
      rw [hsame]
      exact List.filter_eq_nil_iff.mpr fun n hn => by simpa using hn
    rw [mentioning, Stmt.exprs, hkept]
  have hstmt : settleStmt p ⟨false, false⟩ (.print e) s = .ok ([.print e'], s) := by
    rw [settleStmt, bind_of_ok hprint, pure_run, hmention]
  rw [settleStmts, bind_of_ok hstmt]
  rfl

/-- **A template that prints one expression is checked by what is in the expression.** -/
theorem check_print {e : Expr} (hsound : exprSound false e = true)
    (hall : ∀ x ∈ e.gather fun e => [e], isWritable x = true ∧ exprWellFormed x = true) :
    check [.print e] = .ok () := by
  have hexprs : allExprs [.print e] = e.gather fun e => [e] := by
    simp [allExprs, stmtsGather, Stmt.gather, Stmt.exprs]
  have hsounds : isSound [.print e] = true := by
    have hwritable : (allExprs [.print e]).all isWritable = true := by
      rw [hexprs]
      exact List.all_eq_true.mpr fun x hx => (hall x hx).1
    rw [isSound, hwritable]
    simp [stmtsSound, stmtSound, hsound, anyMisplaces, misplaces, stmtsGather, Stmt.gather,
      Stmt.extendsOther, assignsState, demandsCaller, Stmt.sections]
  have hformed : isWellFormed [.print e] = true := by
    have hexpr : (allExprs [.print e]).all exprWellFormed = true := by
      rw [hexprs]
      exact List.all_eq_true.mpr fun x hx => (hall x hx).2
    rw [isWellFormed, hexpr]
    simp [stmtsGather, Stmt.gather, stmtWellFormed, allLoopsFit, loopsFit]
  rw [check, hsounds, hformed]
  simp [allFiltersKnown, filtersKnown]

/-- **A template that prints something unknown is prepared as it is**, up to constants inside. -/
theorem prepare_print {source : String} {e e' : Expr} (hparse : parse? source = some [.print e])
    (hknown : (knownVal (powersWithin maxDepth) ⟨false, false⟩ e).run .empty = .ok (none, .empty))
    (hsettle : settle (powersWithin maxDepth) ⟨false, false⟩ e .empty = .ok (e', .empty))
    (hnames : exprNames e' = exprNames e) (hcheck : check [.print e'] = .ok ()) :
    prepare source = .ok [.print e'] := by
  rw [prepare, hparse]
  simp only [StateT.run, settleStmts_print hknown hsettle hnames, bind, Except.bind, hcheck]
  rfl

/-- A template that prints a name is prepared as it is. -/
theorem prepare_name {source name : String} (hparse : parse? source = some [.print (.name name)]) :
    prepare source = .ok [.print (.name name)] :=
  prepare_print hparse (knownVal_name _ _ _ _) (settle_name _ _ _) rfl
    (check_print rfl (List.forall_mem_singleton.mpr ⟨rfl, rfl⟩))

/-! ### Names given to a template -/

/-- **What a template is given under a name.** A value is handed over as cells that stand for it, and
a name without a value is not given. -/
theorem givenNames_spec (data : Entries Value) (s : Store) : ∃ given s', givenNames data s =
    .ok (given, s') ∧ Grows s s' ∧
      (∀ name v, data.get? (.str name) = some v →
        ∃ w, given.lookup name = some w ∧ Represents s'.cells v s'.cells.size w) ∧
      ∀ name, data.get? (.str name) = none → given.lookup name = none := by
  induction data generalizing s with
  | nil =>
    refine ⟨[], s, rfl, .refl s, ?_, fun _ _ => rfl⟩
    intro name v h
    cases h
  | cons e es ih =>
    obtain ⟨k, u⟩ := e
    by_cases hk : ∃ t, k = .str t
    · obtain ⟨t, rfl⟩ := hk
      obtain ⟨w, s₁, hu, hgrows₁, hrep⟩ := ofValue_spec u s
      obtain ⟨given, s₂, hes, hgrows₂, hlookup, hnone⟩ := ih s₁
      have hget : ∀ name, name ≠ t →
          Entries.get? (.str name) ((.str t, u) :: es) = Entries.get? (.str name) es := by
        intro name hname
        have hsame : ¬(Key.str name).same (.str t) = true := by
          rw [Key.str_same, Key.str.injEq]
          exact fun h => hname h.symm
        rw [Entries.get?, if_neg hsame]
      have hself : Entries.get? (.str t) ((.str t, u) :: es) = some u := by
        rw [Entries.get?, if_pos (Key.str_same.mpr rfl)]
      refine ⟨(t, w) :: given, s₂, ?_, hgrows₁.trans hgrows₂, fun name v hv => ?_,
        fun name hname => ?_⟩
      · rw [givenNames, bind_of_ok hu, bind_of_ok hes, pure_run]
      · by_cases hname : name = t
        · subst hname
          obtain rfl := Option.some.inj (hself.symm.trans hv)
          exact ⟨w, by rw [List.lookup_cons_self],
            Represents.mono hgrows₂.cells u hgrows₂.cells.1 hrep⟩
        · obtain ⟨w', hw', hrep'⟩ := hlookup name v (hget name hname ▸ hv)
          exact ⟨w', by rw [List.lookup_cons, beq_false_of_ne hname]; exact hw', hrep'⟩
      · have hne : name ≠ t := by
          rintro rfl
          cases hself.symm.trans hname
        rw [List.lookup_cons, beq_false_of_ne hne]
        exact hnone name (hget name hne ▸ hname)
    · have hskip : givenNames ((k, u) :: es) = givenNames es := by
        rw [givenNames]
        exact fun t h => hk ⟨t, h⟩
      have hget : ∀ name, Entries.get? (.str name) ((k, u) :: es) = Entries.get? (.str name) es :=
        fun name => by
          rw [Entries.get?, if_neg]
          exact fun h => hk ⟨name, Key.str_same.mp h⟩
      obtain ⟨given, s₁, hes, hgrows, hlookup, hnone⟩ := ih s
      exact ⟨given, s₁, hskip ▸ hes, hgrows, fun name v hv => hlookup name v (hget name ▸ hv),
        fun name hname => hnone name (hget name ▸ hname)⟩

/-! ### Where names start from -/

/-- Readings that change nothing leave it as it is. -/
theorem foldl_readings {α : Type} {f : α → Mention → α} {a : α} {ns : List String}
    (h : ∀ n ∈ ns, f a (.read n) = a) : (readings ns).foldl f a = a := by
  induction ns with
  | nil => rfl
  | cons n ns ih =>
    obtain ⟨hn, hrest⟩ := List.forall_mem_cons.mp h
    rw [readings, List.map_cons, List.foldl_cons, hn]
    exact ih hrest

/-- Names that are not printed are not found to be read. -/
theorem undeclared_print {names : List String} {e : Expr} (h : ∀ n ∈ exprNames e, n ∉ names) :
    undeclared names [.print e] = [] := by
  have hmentions : stmtsMention [.print e] = readings (exprNames e) := List.append_nil _
  unfold undeclared
  dsimp only
  rw [hmentions, foldl_readings]
  · exact List.filter_eq_nil_iff.mpr fun n _ => by simp
  · intro n hn
    have hread : names.contains n = false := by simpa using h n hn
    dsimp only
    rw [hread, if_neg Bool.false_ne_true]

namespace Origins

/-- A name that is put among names that are given is one of them, if it is given. -/
theorem given_of_mem_put {n : String} {names : List (String × Origin)}
    (h : ∀ x ∈ names, x.2 = .given) : ∀ x ∈ put n .given names, x.2 = .given := by
  induction names with
  | nil =>
    intro x hx
    rw [List.mem_singleton.mp hx]
  | cons y rest ih =>
    obtain ⟨m, o⟩ := y
    obtain ⟨hy, hrest⟩ := List.forall_mem_cons.mp h
    rw [put]
    split
    · exact List.forall_mem_cons.mpr ⟨rfl, hrest⟩
    · exact List.forall_mem_cons.mpr ⟨hy, ih hrest⟩

/-- Names that are read before they are assigned start with what they are given. -/
theorem given_of_readAll (outside : String → Bool) (ns : List String) {o : Origins}
    (h : ∀ x ∈ o.names, x.2 = .given) : ∀ x ∈ (o.readAll outside ns).names, x.2 = .given := by
  induction ns generalizing o with
  | nil => exact h
  | cons n ns ih =>
    have hread : ∀ x ∈ (o.read outside n).names, x.2 = .given := by
      unfold read
      split
      · exact h
      · exact given_of_mem_put h
    exact ih hread

/-- **All names of a template that only prints start with what they are given.** -/
theorem given_of_print {e : Expr} (hself : "self" ∉ exprNames e) :
    ∀ x ∈ (ofSection ["self"] [.print e]).names, x.2 = .given := by
  have hnone : undeclared ["self"] [.print e] = [] :=
    undeclared_print fun n hn hmem => hself (List.mem_singleton.mp hmem ▸ hn)
  rw [ofSection, ofBody, hnone]
  exact given_of_readAll _ _ (List.forall_mem_nil _)

end Origins

/-- **What names stand for when a rendering starts**: a value that is given, as cells that stand for
it, or else a global function, or nothing. -/
structure Starts (data : Entries Value) (env : Env) (s : Store) : Prop where
  escape : env.escape = ⟨false, false⟩
  given : ∀ name v, data.get? (.str name) = some v →
    ∃ w, readName env name s = .ok (w, s) ∧ Represents s.cells v s.cells.size w
  other : ∀ name, data.get? (.str name) = none →
    readName env name s = .ok ((globals.lookup name).getD .undefined, s)

/-- Names that are given start with their values. -/
theorem startNames_given {env : Env} {s : Store} (hscopes : s.scopes = #[])
    {names : List (String × Origin)} (hnames : ∀ x ∈ names, x.2 = .given) (stored : List String) :
    startNames env ⟨names, stored⟩ s =
      .ok (names.map fun x => (x.1, env.given.lookup x.1), s) := by
  rw [startNames]
  induction names with
  | nil => rfl
  | cons x rest ih =>
    obtain ⟨n, o⟩ := x
    obtain ⟨rfl, hrest⟩ := List.forall_mem_cons.mp hnames
    have hvalue : givenValue env n s = .ok (env.given.lookup n, s) := by
      have hread : readScope env.top s = .ok ([], s) := by
        rw [readScope, hscopes]
        simp
      rw [givenValue, bind_of_ok hread]
      rfl
    rw [List.mapM_cons]
    simp only [bind_assoc, pure_bind]
    rw [bind_of_ok hvalue, bind_of_ok (ih hrest), pure_run]
    rfl

/-- In a scope whose names have the values that they are given, a name is not known or has the
value. -/
theorem lookup_map_given (names : List (String × Origin)) (f : String → Option Val) (n : String) :
    (names.map fun x => (x.1, f x.1)).lookup n = none ∨
      (names.map fun x => (x.1, f x.1)).lookup n = some (f n) := by
  induction names with
  | nil => exact .inl rfl
  | cons x rest ih =>
    rw [List.map_cons, List.lookup_cons]
    by_cases hx : n = x.1
    · rw [hx, beq_self_eq_true]
      exact .inr rfl
    · rw [beq_false_of_ne hx]
      exact ih

/-- **Before a template is carried out that assigns nothing, its names stand for what they are
given.** -/
theorem enter_spec (data : Entries Value) {body : List Stmt}
    (horigins : ∀ x ∈ (Origins.ofSection ["self"] body).names, x.2 = .given) :
    ∃ given s env s', givenNames data .empty = .ok (given, s) ∧
      enter ⟨[], 0, given ++ globals, ⟨false, false⟩, stmtsGather Stmt.sections body⟩
        (fun _ => Origins.ofSection ["self"] body) s = .ok (env, s') ∧
      Starts data { env with top := env.scopes.headD 0 } s' := by
  obtain ⟨given, s, hgiven, hgrows, hlookup, hnone⟩ := givenNames_spec data .empty
  have hscopes : s.scopes = #[] := hgrows.scopes
  let outer : Env := ⟨[], 0, given ++ globals, ⟨false, false⟩, stmtsGather Stmt.sections body⟩
  let names : Scope := (Origins.ofSection ["self"] body).names.map fun x =>
    (x.1, (given ++ globals).lookup x.1)
  let entered : Store := { s with scopes := #[names] }
  have hstart : startNames outer (Origins.ofSection ["self"] body) s = .ok (names, s) :=
    startNames_given hscopes horigins _
  have hnew : newScope names s = .ok (0, entered) := by
    rw [newScope, hscopes]
    rfl
  -- Whether the scope knows a name or not, it stands for what is given under it.
  have hread : ∀ name, readName { outer with scopes := [0] } name entered =
      .ok (((given ++ globals).lookup name).getD .undefined, entered) := by
    intro name
    have hscope : readScope 0 entered = .ok (names, entered) := rfl
    rw [readName]
    rcases lookup_map_given (Origins.ofSection ["self"] body).names
      (List.lookup · (given ++ globals)) name with hout | hin
    · have hfind : findName name [0] entered = .ok (none, entered) := by
        rw [findName, bind_of_ok hscope, hout]
        rfl
      have hvalue : givenValue { outer with scopes := [0] } name entered =
          .ok ((given ++ globals).lookup name, entered) := by
        rw [givenValue, bind_of_ok hscope, hout]
        rfl
      rw [bind_of_ok hfind]
      dsimp only
      rw [bind_of_ok hvalue, pure_run]
    · have hfind : findName name [0] entered =
          .ok (some ((given ++ globals).lookup name), entered) := by
        rw [findName, bind_of_ok hscope, hin]
        rfl
      rw [bind_of_ok hfind]
      rfl
  refine ⟨given, s, { outer with scopes := [0] }, entered, hgiven, ?_, rfl, fun name v hv => ?_,
    fun name hname => ?_⟩
  · rw [enter, knownNames, pure_bind, enterScope, bind_of_ok hstart, bind_of_ok hnew, pure_run]
  · obtain ⟨w, hw, hrep⟩ := hlookup name v hv
    refine ⟨w, (hread name).trans ?_, hrep⟩
    rw [List.lookup_append, hw, Option.some_or, Option.getD_some]
  · refine (hread name).trans ?_
    rw [List.lookup_append, hnone name hname, Option.none_or]

/-! ### Printing -/

section Printing

variable {env : Env} {s : Store} (h : env.escape = ⟨false, false⟩)
include h

/-- Where nothing is escaped, nothing is. -/
theorem escapesHere_of_off : escapesHere env s = .ok (false, s) := by
  rw [escapesHere, h]
  rfl

/-- Texts are printed as they are. -/
theorem printText_str (t : String) : printText env (.str t) s = .ok (t, s) := by
  rw [printText, printed, pure_bind, bind_of_ok (escapesHere_of_off h)]
  · rfl
  all_goals simp

/-- What is undefined is printed as nothing. -/
theorem printText_undefined : printText env .undefined s = .ok ("", s) := by
  rw [printText, printed, pure_bind, bind_of_ok (escapesHere_of_off h)]
  rfl

theorem printText_bool (b : Bool) :
    printText env (.bool b) s = .ok (String.ofList (Json.boolChars b), s) := by
  rw [printText, printed, pure_bind, bind_of_ok (escapesHere_of_off h)]
  rfl

end Printing

/-! ### Rendering -/

section Rendering

variable {e : Expr} {data : Entries Value} {o : Except Failure String}

/-- **What a template comes to that prints one expression**: what evaluating and printing the
expression come to. -/
theorem run_print (hself : "self" ∉ exprNames e)
    (htext : ∀ {env s}, Starts data env s →
      (evalExpr (powersWithin maxDepth) env e >>= printText env) s = o.map fun text => (text, s)) :
    ((run [.print e] data).run .empty).map Prod.fst = o := by
  obtain ⟨given, s, env, s', hgiven, henter, hstarts⟩ :=
    enter_spec data (Origins.given_of_print hself)
  have hnone : undeclared ["self"] [.print e] = [] :=
    undeclared_print fun n hn hmem => hself (List.mem_singleton.mp hmem ▸ hn)
  have hsections : bindSections { env with top := env.scopes.headD 0 } ["self"] [.print e] s' =
      .ok ((), s') := by
    rw [bindSections, hnone]
    rfl
  have hprint := htext hstarts
  rw [StateT.run, run, bind_of_ok hgiven, bind_of_ok henter, bind_of_ok hsections]
  cases o with
  | error f =>
    have hstmt : execStmt (powersWithin maxDepth) (.print e)
        { env with top := env.scopes.headD 0 } s' = .error f := by
      rw [execStmt, ← bind_assoc]
      exact bind_of_error hprint
    rw [execStmts, bind_assoc, bind_of_error hstmt]
    rfl
  | ok text =>
    have hstmt : execStmt (powersWithin maxDepth) (.print e)
        { env with top := env.scopes.headD 0 } s' = .ok (some text, s') := by
      rw [execStmt, ← bind_assoc, bind_of_ok hprint, pure_run]
    have hstmts : execStmts (powersWithin maxDepth) [.print e]
        { env with top := env.scopes.headD 0 } s' = .ok (some text, s') := by
      rw [execStmts, bind_of_ok hstmt, execStmts, pure_bind, pure_run]
      simp only [Output.append, Output.empty, String.append_empty]
    rw [bind_of_ok hstmts]
    rfl

variable {source : String} (hprepare : prepare source = .ok [.print e])
include hprepare

/-- The text of a template is what its expression prints. -/
theorem render_print {text : String} (hself : "self" ∉ exprNames e)
    (htext : ∀ {env s}, Starts data env s →
      (evalExpr (powersWithin maxDepth) env e >>= printText env) s = .ok (text, s)) :
    render (.str source) data = .ok text := by
  have hrun := run_print (o := .ok text) hself htext
  have hrender : renderText source data = .ok text := by
    rw [renderText, hprepare]
    exact hrun
  rw [render, hrender]

/-- Where its expression is invalid, so is the template. -/
theorem render_print_invalid (hself : "self" ∉ exprNames e)
    (htext : ∀ {env s}, Starts data env s →
      (evalExpr (powersWithin maxDepth) env e >>= printText env) s = .error .invalid) :
    render (.str source) data = .error Error.templateFailed := by
  have hrun := run_print (o := .error .invalid) hself htext
  have hrender : renderText source data = .error .invalid := by
    rw [renderText, hprepare]
    exact hrun
  rw [render, hrender]

end Rendering

end WizardLogic.Template
