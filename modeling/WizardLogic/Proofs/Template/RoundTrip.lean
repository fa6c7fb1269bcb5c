import Mathlib
import WizardLogic.Engine.Context
import WizardLogic.Proofs.Json.RoundTrip
import WizardLogic.Proofs.Run.Balance
import WizardLogic.Proofs.Template.Print

/-!
# JSON values through templates

A template writes a text, and the context that renders it reads the text as JSON. Two templates undo
that reading: one that prints a name through the JSON filter, for every JSON value that the name
stands for, and one that prints the name alone, for every value but null and texts, which print as
nothing and as they are. So a value comes back from either template as it went in
(`Engine.resolveValue_template`), whatever else the state holds.

Either template is read (`parse?_name`) and then goes the way of all templates that print one
expression: it is prepared as it is (`prepare_name`), and its name stands for the given value when the
rendering starts (`Starts.knows`). Printing the name writes the JSON text of the value
(`Knows.print_name`), which is read back as the value (`Json.read?_print`).
-/

namespace WizardLogic

namespace Template

open Render Stateful

/-! ### Two templates -/

/-- A name alone. -/
def nameExpr : Expr := .name "x"

/-- A name through the JSON filter. -/
def prettyExpr : Expr := .filter nameExpr "prettyjson" []

theorem parse?_name : parse? "{{ x }}" = some [.print nameExpr] := by
  have htokens : Token.ofText? "{{ x }}" = some [.printBegin, .name "x", .printEnd] := by
    decide +kernel
  unfold parse?
  rw [htokens]
  cbv

theorem parse?_pretty : parse? "{{ x | prettyjson }}" = some [.print prettyExpr] := by
  have htokens : Token.ofText? "{{ x | prettyjson }}" =
      some [.printBegin, .name "x", .sym .pipe, .name "prettyjson", .printEnd] := by
    decide +kernel
  unfold parse?
  rw [htokens]
  cbv

/-! ### Before rendering -/

theorem knownVal_pretty (p : Powers) (s : Store) :
    (knownVal p ⟨false, false⟩ prettyExpr).run s = .ok (none, s) := by
  have hargs : (knownArgs p ⟨false, false⟩ []).run s = .ok (some ⟨[], []⟩, s) := by
    simp only [knownArgs, knownPositional, knownNamed, knownSpread, knownSpreadNamed, pure_bind]
    rfl
  have hknown : (!filterNames.contains "prettyjson" || unknownFilters.contains "prettyjson") =
      false := by decide
  rw [prettyExpr, knownVal]
  simp only [Bool.false_or, hknown, Bool.false_eq_true, reduceIte]
  rw [OptionT.run_bind, Option.elimM, bind_of_ok hargs]
  exact Known.bind_of_none (knownVal_name p _ _ s) _

theorem settle_pretty (p : Powers) (s : Store) :
    settle p ⟨false, false⟩ prettyExpr s = .ok (prettyExpr, s) := by
  have hname : reduce p ⟨false, false⟩ (.name "x") s = .ok (.name "x", s) := by
    rw [reduce, pure_run]
  have hargs : reduceArgs p ⟨false, false⟩ [] s = .ok ([], s) := by
    rw [reduceArgs, pure_run]
  have hknown := knownVal_pretty p s
  rw [prettyExpr, nameExpr] at hknown ⊢
  rw [settle, if_neg Bool.false_ne_true, reduce, bind_of_ok hname, bind_of_ok hargs, constantOr,
    bind_of_ok hknown]
  · rfl
  all_goals simp

theorem prepare_pretty : prepare "{{ x | prettyjson }}" = .ok [.print prettyExpr] :=
  prepare_print parse?_pretty (knownVal_pretty _ _) (settle_pretty _ _) rfl rfl

/-! ### The value of a name -/

/-- Whether a name has a value where a template is carried out, and the value's cells stand for a
JSON value. -/
structure Knows (env : Env) (name : String) (v : Value) (w : Val) (s : Store) : Prop where
  escape : env.escape = ⟨false, false⟩
  read : readName env name s = .ok (w, s)
  represents : Represents s.cells v s.cells.size w

/-- **A name that is given has its value when the rendering starts.** -/
theorem Starts.knows {data : Entries Value} {env : Env} {name : String} {v : Value} {s : Store}
    (h : Starts data env s) (hget : data.get? (.str name) = some v) :
    ∃ w, Knows env name v w s := by
  obtain ⟨w, hread, hrep⟩ := h.given name v hget
  exact ⟨w, h.escape, hread, hrep⟩

/-! ### What is printed -/

section Printed

variable {env : Env} {v : Value} {w : Val} {s : Store} (h : Knows env "x" v w s)
include h

/-- **The indented JSON text of a name's value is printed by its filter.** -/
theorem Knows.print_pretty (hv : v.isWritable = true) :
    (evalExpr (powersWithin maxDepth) env prettyExpr >>= printText env) s =
      .ok (Json.print .indented v, s) := by
  have hname : evalExpr (powersWithin maxDepth) env nameExpr s = .ok (w, s) := by
    rw [nameExpr, evalExpr]
    exact h.read
  have hargs : evalArgs (powersWithin maxDepth) env [] [] s = .ok (⟨[], []⟩, s) := by
    simp only [evalArgs, evalPositional, evalNamed, evalSpread, pure_bind]
    rfl
  have hjson : prettyJson w s = .ok (Json.print .indented v, s) := by
    rw [prettyJson, jsonText_eq h.represents le_rfl hv]
    exact h.represents.ne_undefined
  have hfilter : (powersWithin maxDepth).filter "prettyjson" w ⟨[], []⟩ s =
      .ok (.str (Json.print .indented v), s) := by
    have hlazy : lazyFilter? "prettyjson" w ⟨[], []⟩ = none := rfl
    have hbind : CallArgs.bind ⟨[], []⟩ [] = .ok [] := rfl
    have hcall : callFilter (powersWithin 189) "prettyjson" w ⟨[], []⟩ =
        prettyJson w >>= fun t => pure (.str t) := by
      rw [callFilter, hlazy]
      simp only [scalarFilter?, hbind]
      rfl
    have hpowers : (powersWithin maxDepth).filter = callFilter (powersWithin 189) := rfl
    rw [hpowers, hcall, bind_of_ok hjson, pure_run]
  have heval : evalExpr (powersWithin maxDepth) env prettyExpr s =
      .ok (.str (Json.print .indented v), s) := by
    rw [prettyExpr, evalExpr, bind_of_ok hname, bind_of_ok hargs, hfilter]
  rw [bind_of_ok heval, printText_str h.escape]

/-- **A value that is neither null nor a text is printed as its JSON text on one line.** -/
theorem Knows.print_name (hjson : v.IsJson) (hv : v.isWritable = true) (hnull : v ≠ .null)
    (hstr : ∀ t, v ≠ .str t) :
    (evalExpr (powersWithin maxDepth) env nameExpr >>= printText env) s =
      .ok (Json.print .line v, s) := by
  have hname : evalExpr (powersWithin maxDepth) env nameExpr s = .ok (w, s) := by
    rw [nameExpr, evalExpr]
    exact h.read
  rw [bind_of_ok hname]
  have hescape : escapesHere env s = .ok (false, s) := escapesHere_of_off h.escape
  have hrep := h.represents
  have hlook := look_eq hrep le_rfl
  have htext := jsonText_eq hrep le_rfl hv .line
  cases hjson with
  | null => exact absurd rfl hnull
  | str t => exact absurd rfl (hstr t)
  | bool b =>
    obtain rfl : w = .bool b := hrep
    rw [printText, printed, pure_bind, bind_of_ok hescape]
    rfl
  | int k =>
    obtain rfl : w = .int k := hrep
    rw [printText, printed, pure_bind, bind_of_ok hescape]
    have hshort : (Image.int k).hasText = true := (Image.hasText_int k).trans hv
    rw [if_neg Bool.false_ne_true, textOf, bind_of_ok hlook, Image.ofValue, Image.textOf, hshort]
    · rfl
    all_goals simp
  | @float d hd =>
    obtain rfl : w = .float d := hrep
    rw [printText, printed, pure_bind, bind_of_ok hescape]
    cases d with
    | finite => rfl
    | _ => cases hd
    all_goals simp
  | @list items _ =>
    obtain ⟨id, -, rfl, -⟩ := hrep
    rw [printText, printed, bind_assoc, bind_of_ok htext, pure_bind, bind_of_ok hescape]
    rfl
  | @obj es _ _ _ =>
    obtain ⟨id, -, rfl, -⟩ := hrep
    rw [printText, printed, bind_assoc, bind_of_ok htext, pure_bind, bind_of_ok hescape]
    rfl

end Printed

/-! ### Rendering -/

section Rendering

variable {data : Entries Value} {v : Value} (hget : data.get? (.str "x") = some v)
include hget

/-- **The filter renders the indented JSON text of any value.** -/
theorem render_pretty (hv : v.isWritable = true) :
    render (.str "{{ x | prettyjson }}") data = .ok (Json.print .indented v) := by
  refine render_print prepare_pretty (by decide) fun h => ?_
  obtain ⟨w, hknows⟩ := h.knows hget
  exact hknows.print_pretty hv

/-- **A name alone renders the JSON text of its value on one line**, unless the value is null or a
text. -/
theorem render_name (hjson : v.IsJson) (hv : v.isWritable = true) (hnull : v ≠ .null)
    (hstr : ∀ t, v ≠ .str t) : render (.str "{{ x }}") data = .ok (Json.print .line v) := by
  refine render_print (prepare_name parse?_name) (by decide) fun h => ?_
  obtain ⟨w, hknows⟩ := h.knows hget
  exact hknows.print_name hjson hv hnull hstr

end Rendering

end Template

/-! ### Contexts -/

/-- Whether the tags of constants and of templates have their own rules. -/
structure Registry.HasTemplates (r : Registry) : Prop where
  value : r.contexts.lookup "VALUE" = some .value
  template : r.contexts.lookup "TEMPLATE" = some .template

theorem Registry.hasTemplates_builtIn : Registry.builtIn.HasTemplates := ⟨rfl, rfl⟩

/-- Whether a context binds a name to a constant. -/
structure IsBinding (d : Value) (name : String) (v : Value) : Prop where
  type : d.field "type" = .str "VALUE"
  key : d.field "key" = .str name
  value : d.field "value" = v
  contexts : d.field "contexts" = .null

/-- Whether a context is a template over one name that is bound to a constant. -/
structure IsTemplate (d : Value) (template name : String) (v : Value) : Prop where
  type : d.field "type" = .str "TEMPLATE"
  template : d.field "template" = .str template
  contexts : ∃ c, d.field "contexts" = .list [c] ∧ IsBinding c name v

theorem Value.exists_obj_of_field {d : Value} {field : String} {t : String}
    (h : d.field field = .str t) : ∃ es, d = .obj es := by
  cases d with
  | obj es => exact ⟨es, rfl⟩
  | _ => cases h

namespace Engine

variable {en : Engine} {s : State} {d v : Value} {template name : String}

/-- **A constant comes to its value.** -/
theorem resolve_value (hen : en.registry.HasTemplates) (h : IsBinding d name v) :
    en.resolve s d = pure (.value v) := by
  obtain ⟨es, rfl⟩ := Value.exists_obj_of_field h.type
  rw [resolve]
  simp only [h.type, hen.value, h.contexts, resolveAll, Value.isTrue, Bool.not_false, reduceIte,
    pure_bind, resolveByRule, h.value]

/-- **A template comes to what its text says in JSON**, or to the text. -/
theorem resolve_template (hen : en.registry.HasTemplates) (hname : name ≠ "")
    (htemplate : template ≠ "") (h : IsTemplate d template name v) : ∃ data : Entries Value,
      data.get? (.str name) = some v ∧ ∀ text, Template.render (.str template) data = .ok text →
        en.resolve s d = pure (.value (Json.readOrText text)) := by
  obtain ⟨es, rfl⟩ := Value.exists_obj_of_field h.type
  obtain ⟨c, hcontexts, hbinding⟩ := h.contexts
  have hbound : en.resolveAll s ((Value.obj es).field "contexts") =
      pure [(.str name, .value v)] := by
    have hkey : (Value.str name).isTrue = true := by simpa [Value.isTrue] using hname
    rw [hcontexts, resolveAll, resolveEach, hbinding.key, hkey,
      resolve_value hen hbinding, pure_bind]
    simp only [Bool.not_true, Bool.false_eq_true, reduceIte, Value.toKey?, resolveEach]
    rfl
  refine ⟨_, Entries.get?_insert_self name v (s.currentStepValues.merge s.allStepValues),
    fun text htext => ?_⟩
  have hrequired : requireField (.obj es) "template" = pure (.str template) := by
    rw [requireField, h.template]
    split
    · next heq => cases heq
    · next heq => exact absurd (Value.str.inj heq) htemplate
    · rfl
  rw [resolve]
  simp only [h.type, hen.template, hbound, pure_bind, resolveByRule, hrequired]
  have hdata : ((s.overlay [(Key.str name, Holding.value v)]).currentStepValues.merge
      (s.overlay [(Key.str name, Holding.value v)]).allStepValues).merge
        ((s.overlay [(Key.str name, Holding.value v)]).lookAll [(Key.str name, .value v)]) =
      (s.currentStepValues.merge s.allStepValues).insert (.str name) v := rfl
  rw [hdata, htext]
  rfl

/-- **A value comes back from templates.** Whatever the state, a template that prints a name through
the JSON filter comes to the value that is bound to the name, and a template that prints the name alone
does so too, unless the value is null or a text. -/
theorem resolveValue_template (hen : en.registry.HasTemplates) (hjson : v.IsJson)
    (hwritable : v.isWritable = true) :
    (IsTemplate d "{{ x | prettyjson }}" "x" v → en.resolveValue s d = pure v) ∧
      (IsTemplate d "{{ x }}" "x" v → v ≠ .null → (∀ t, v ≠ .str t) →
        en.resolveValue s d = pure v) := by
  constructor
  · intro h
    obtain ⟨data, hget, hresolve⟩ := resolve_template (s := s) hen (by decide) (by decide) h
    rw [resolveValue, hresolve _ (Template.render_pretty hget hwritable), Json.readOrText,
      Json.read?_print Json.Style.indented_isPlain hjson hwritable]
    rfl
  · intro h hnull hstr
    obtain ⟨data, hget, hresolve⟩ := resolve_template (s := s) hen (by decide) (by decide) h
    rw [resolveValue, hresolve _ (Template.render_name hget hjson hwritable hnull hstr),
      Json.readOrText, Json.read?_print Json.Style.line_isPlain hjson hwritable]
    rfl

end Engine

/-! ### A nested value -/

/-- An object with a list of numbers and constants under a key that has to be escaped. -/
def Value.sample : Value :=
  .obj [(.str "tab\t\"é\"", .list [.int (-7), .bool false, .null,
    .float (.finite true (Nat.pow 2 52) 1021 (by decide))]), (.str "", .obj [])]

/-- A template context over one name. -/
def Value.templateOf (template name : String) (v : Value) : Value :=
  .obj [(.str "type", .str "TEMPLATE"), (.str "template", .str template),
    (.str "contexts", .list [.obj [(.str "key", .str name), (.str "type", .str "VALUE"),
      (.str "value", v)]])]

theorem Value.isTemplate_templateOf (template name : String) (v : Value) :
    IsTemplate (.templateOf template name v) template name v :=
  ⟨rfl, rfl, _, rfl, rfl, rfl, rfl, rfl⟩

/-- Both templates give an object back with its keys in order, its numbers of either kind and what
is nested in it. -/
theorem Engine.resolveValue_template_sample :
    Registry.builtIn.HasTemplates ∧ Value.sample.IsJson ∧ Value.sample.isWritable = true ∧
      IsTemplate (.templateOf "{{ x | prettyjson }}" "x" .sample) "{{ x | prettyjson }}" "x" .sample ∧
      IsTemplate (.templateOf "{{ x }}" "x" .sample) "{{ x }}" "x" .sample ∧
      Engine.bare.resolveValue {} (.templateOf "{{ x | prettyjson }}" "x" .sample) =
        pure .sample ∧
      Engine.bare.resolveValue {} (.templateOf "{{ x }}" "x" .sample) = pure .sample := by
  have hjson : Value.sample.IsJson := by
    refine .obj (by simp [Entries.keys]) (by simp [Entries.keys]) ?_
    simp only [List.mem_cons, List.not_mem_nil, or_false, forall_eq_or_imp, forall_eq]
    refine ⟨.list ?_, .obj (by simp [Entries.keys]) (by simp [Entries.keys]) (by simp)⟩
    simp only [List.mem_cons, List.not_mem_nil, or_false, forall_eq_or_imp, forall_eq]
    exact ⟨.int _, .bool _, .null, .float rfl⟩
  have hwritable : Value.sample.isWritable = true := by decide +kernel
  refine ⟨Registry.hasTemplates_builtIn, hjson, hwritable, Value.isTemplate_templateOf _ _ _,
    Value.isTemplate_templateOf _ _ _, ?_, ?_⟩
  · exact (Engine.resolveValue_template Registry.hasTemplates_builtIn hjson hwritable).1
      (Value.isTemplate_templateOf _ _ _)
  · exact (Engine.resolveValue_template Registry.hasTemplates_builtIn hjson hwritable).2
      (Value.isTemplate_templateOf _ _ _) (by simp [Value.sample]) (by simp [Value.sample])

end WizardLogic
