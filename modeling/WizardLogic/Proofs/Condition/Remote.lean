import Mathlib
import WizardLogic.Proofs.Condition.Equality
import WizardLogic.Proofs.Query.Unfailing

/-!
# Conditions that call a remote action

A condition that calls a remote action finds the contexts of the call, builds the request and sends
it (`Engine.Answered`). The answer is reduced first, whatever its status, and then the condition
holds if the status is one of success and the reduced result counts as true
(`Engine.evaluate_answered`). So an answer without success decides that the condition does not hold
only if it can be reduced. It always can where nothing is to be reduced, or where the query that
reduces it cannot fail (`RemoteAction.ReducesAll`).

A remote action that counts the items of an answer is not of this kind: from an error page that has
no items the condition does not come to false but fails (`Engine.not_false_errorPage`).
-/

namespace WizardLogic

/-! ### Calls that are answered -/

/-- Noting a record takes no reply. -/
theorem Exchange.script_noted (x : Exchange) (r : Log.Record) : (x.noted r).script = x.script := rfl

namespace Effect

variable {α : Type}

@[simp] theorem runFrom_ofExcept (r : Except Failure α) (x : Exchange) :
    (ofExcept r).runFrom x = (r, x) := rfl

@[simp] theorem runFrom_note (r : Log.Record) (x : Exchange) :
    (note r).runFrom x = (.ok (), x.noted r) := rfl

@[simp] theorem runFrom_send (request : Request) (x : Exchange) :
    (send request).runFrom x = (.ok x.script.next, x.sent request) := rfl

end Effect

namespace RemoteAction

variable {a : RemoteAction} {contexts : Entries Value} {request : Request} {r : Response}
  {x : Exchange}

/-- The exchange after an answer has come in: a status that is not one of success is noted. -/
def replied (a : RemoteAction) (r : Response) (x : Exchange) : Exchange :=
  if r.ok then x
  else x.noted ⟨.warning, .remote, s!"Remote action '{a.name}' returned status {r.status}"⟩

/-- The exchange after a call that was answered: the call is noted and the request sent, and then
the answer has come in. -/
def answered (a : RemoteAction) (request : Request) (r : Response) (x : Exchange) : Exchange :=
  a.replied r ((x.noted ⟨.info, .remote,
    s!"Remote action '{a.name}': {request.method.name} {request.url}"⟩).sent request)

/-- An answer is reduced whatever its status; a status that is not one of success is noted. -/
theorem runFrom_outcome :
    (a.outcome contexts r).runFrom x =
      ((a.reduce contexts r).map fun v => ⟨r.ok, r.status, r.data, v⟩, a.replied r x) := by
  unfold outcome replied
  cases r.ok <;> cases a.reduce contexts r <;> rfl

/-- **A call that is answered** comes to the answer with its reduction, or fails as the reduction
does, whatever the status. -/
theorem runFrom_run_response {userAgent : String}
    (hrequest : Request.build userAgent a contexts = .ok request)
    (hreply : x.script.next = .response r) :
    (a.run userAgent contexts).runFrom x =
      ((a.reduce contexts r).map fun v => ⟨r.ok, r.status, r.data, v⟩, a.answered request r x) := by
  unfold run
  rw [hrequest, Effect.runFrom_bind, Effect.runFrom_ofExcept]
  dsimp only
  rw [Effect.runFrom_bind, Effect.runFrom_note]
  dsimp only
  rw [Effect.runFrom_bind, Effect.runFrom_send]
  dsimp only
  rw [Exchange.script_noted, hreply]
  exact runFrom_outcome

/-- **Any answer can be reduced**: there is nothing to reduce it by, or there is a query that cannot
fail. -/
inductive ReducesAll (a : RemoteAction) : Prop
  | whole : a.expression = none → ReducesAll a
  | blank {expression : String} : a.expression = some expression →
      (Text.strip expression.toList).isEmpty = true → ReducesAll a
  | query {expression : String} {e : Query.Expr} : a.expression = some expression →
      a.expressionKind = .query → Query.expression (.str expression) = .ok e → e.Unfailing →
      ReducesAll a

/-- The reduction of such a remote action succeeds. -/
theorem ReducesAll.succeeds_reduce (h : a.ReducesAll) (contexts : Entries Value) (r : Response) :
    Succeeds (a.reduce contexts r) := by
  unfold reduce
  cases h with
  | whole hnone =>
    rw [hnone]
    exact .ok _
  | blank hsome hblank =>
    rw [hsome]
    dsimp only
    rw [if_pos hblank]
    exact .ok _
  | query hsome hkind hquery he =>
    rw [hsome]
    dsimp only
    split
    · exact .ok _
    · rw [hkind]
      exact Query.succeeds_evaluate hquery he _

end RemoteAction

namespace Engine

variable {en : Engine} {s : State}

/-- The contexts in which a remote condition calls its remote action. -/
def remoteContexts (en : Engine) (s : State) (operand : Value) : Effect (Entries Value) :=
  (fun found => s.currentStepValues.merge (s.lookAll found)) <$>
    en.resolveAll s operand.remoteContexts

/-- **The call of a remote condition is answered**: its remote action is declared, its contexts are
found, the request is built in them, and what comes back for it is an answer. -/
structure Answered (en : Engine) (s : State) (operand : Value) (a : RemoteAction)
    (contexts : Entries Value) (request : Request) (r : Response) (x y : Exchange) : Prop where
  isObject : operand.isObject = true
  declared : en.wizard.remoteActionOf? (operand.field "name") = some a
  found : (en.remoteContexts s operand).runFrom x = (.ok contexts, y)
  built : Request.build en.userAgent a contexts = .ok request
  answer : y.script.next = .response r

/-- A remote condition calls its remote action in its contexts. -/
theorem evaluateRemote_eq {operand : Value} {a : RemoteAction}
    (hobject : operand.isObject = true)
    (hdeclared : en.wizard.remoteActionOf? (operand.field "name") = some a) :
    en.evaluateRemote (en.operandServices operand) s operand =
      en.remoteContexts s operand >>= fun contexts =>
        (fun result => result.ok && result.result.isTruthy) <$> a.run en.userAgent contexts := by
  have hsome : (en.wizard.remoteActionOf? (operand.field "name")).isNone = false := by
    rw [hdeclared]
    rfl
  unfold evaluateRemote requireObject remoteContexts callRemote
  rw [if_pos hobject, pure_bind]
  dsimp only
  rw [hsome, hdeclared, if_neg (by decide), resolveAll_operandServices,
    Value.part_remoteContextsField, bind_map_left]
  refine bind_congr fun found => ?_
  rw [map_eq_pure_bind]

variable {c : Value} {key : String} {a : RemoteAction} {contexts : Entries Value}
  {request : Request} {r : Response} {x y : Exchange}

/-- A remote condition whose call is answered reduces the answer. -/
theorem runFrom_evaluate_of_answered (hrule : en.conditionRule? c = some (key, .remote))
    (h : en.Answered s (c.field key) a contexts request r x y) :
    (en.evaluate s c).runFrom x =
      ((a.reduce contexts r).map fun v => r.ok && v.isTruthy, a.answered request r y) := by
  rw [evaluate_of_rule hrule, evaluateByRule, evaluateRemote_eq h.isObject h.declared,
    Effect.runFrom_bind, h.found]
  dsimp only
  rw [Effect.runFrom_map, RemoteAction.runFrom_run_response h.built h.answer]
  cases a.reduce contexts r <;> rfl

/-- **What a remote condition comes to.** Once its call is answered, the answer is reduced. If that
fails then the condition fails, whatever the status; else it holds exactly if the status is one of
success and the reduced result counts as true. So an answer without success makes it false exactly
if the answer can be reduced; any answer can be where the reduction is a query that cannot fail. -/
theorem evaluate_answered (hrule : en.conditionRule? c = some (key, .remote))
    (h : en.Answered s (c.field key) a contexts request r x y) :
    (en.evaluate s c).runFrom x =
        ((a.reduce contexts r).map fun v => r.ok && v.isTruthy, a.answered request r y) ∧
      (r.ok = false →
        (((en.evaluate s c).runFrom x).1 = .ok false ↔ Succeeds (a.reduce contexts r))) ∧
      (a.ReducesAll → ∃ v, a.reduce contexts r = .ok v ∧
        ((en.evaluate s c).runFrom x).1 = .ok (r.ok && v.isTruthy)) := by
  have hrun := runFrom_evaluate_of_answered hrule h
  refine ⟨hrun, fun hfailure => ?_, fun hreduces => ?_⟩
  · rw [hrun, hfailure]
    constructor
    · intro hfalse
      cases hreduce : a.reduce contexts r with
      | error f =>
        rw [hreduce] at hfalse
        cases hfalse
      | ok v => exact .ok v
    · rintro ⟨v, hv⟩
      rw [hv]
      rfl
  · obtain ⟨v, hv⟩ := hreduces.succeeds_reduce contexts r
    refine ⟨v, hv, ?_⟩
    rw [hrun, hv]
    rfl

end Engine

/-! ### Error pages -/

/-- The address at which a status is asked for. -/
def statusAddress : String := "http://h/status"

/-- A remote action that asks for a status and reduces the answer by a query. -/
def askStatus (query : String) : RemoteAction :=
  ⟨"status", .get, statusAddress, .json, none, none, none, some query, .query, none, []⟩

/-- An engine whose wizard declares this remote action only. -/
def Engine.withStatus (query : String) : Engine :=
  { Engine.bare with wizard := { Engine.bare.wizard with remoteActions := [askStatus query] } }

/-- The condition that this remote action succeeds. -/
def statusHolds : Value := .obj [(.str "remote", .obj [(.str "name", .str "status")])]

/-- An error page in plain text. -/
def errorPage : Response := ⟨404, "not found", []⟩

/-- The exchange in which every request is answered by that page. -/
def Exchange.ofErrorPages : Exchange := { script := ⟨.response errorPage, []⟩ }

/-- The request for the status. -/
def statusRequest : Request := ⟨.get, statusAddress, [(.str "User-Agent", "")], [], .nothing⟩

theorem eq_ok_of_toOption {ε α : Type} {e : Except ε α} {a : α} (h : e.toOption = some a) :
    e = .ok a := by
  cases e with
  | error f => cases h
  | ok b => exact congrArg Except.ok (Option.some.inj h)

/-- The address is no template with anything in it. -/
theorem render_statusAddress : Template.render (.str statusAddress) [] = .ok statusAddress :=
  eq_ok_of_toOption (by decide +kernel)

theorem Engine.conditionRule?_statusHolds (query : String) :
    (Engine.withStatus query).conditionRule? statusHolds = some ("remote", .remote) := rfl

/-- The call of the condition is answered by the page, whatever the query. -/
theorem Engine.answered_errorPage (query : String) :
    (Engine.withStatus query).Answered {} (statusHolds.field "remote") (askStatus query) []
      statusRequest errorPage .ofErrorPages .ofErrorPages where
  isObject := rfl
  declared := by
    change Wizard.remoteAction? _ "status" = some (askStatus query)
    rw [Wizard.remoteAction?, withStatus, List.find?_cons_of_pos]
    exact decide_eq_true rfl
  found := by cbv
  built := by
    rw [Request.build, askStatus, render_statusAddress]
    rfl
  answer := rfl

/-- A path in the page leads nowhere, so the condition does not hold. -/
theorem Engine.evaluate_answered_errorPage :
    ((Engine.withStatus "data.items").evaluate {} statusHolds).runFrom .ofErrorPages =
      (.ok false, (askStatus "data.items").answered statusRequest errorPage .ofErrorPages) := by
  have hquery : Query.expression (.str "data.items") =
      .ok (.andThen (.field "data") (.field "items")) := by
    with_unfolding_all rfl
  obtain ⟨hrun, -, hreduces⟩ :=
    Engine.evaluate_answered (Engine.conditionRule?_statusHolds _)
      (Engine.answered_errorPage "data.items")
  obtain ⟨v, hv, -⟩ :=
    hreduces (.query rfl rfl hquery (.andThen (.field "data") (.field "items")))
  rw [hrun, hv]
  rfl

/-- The items of the page cannot be counted, so the condition fails, although the answer is without
success. -/
theorem Engine.not_false_errorPage :
    errorPage.ok = false ∧
      (Engine.withStatus "length(data.items)").Answered {} (statusHolds.field "remote")
        (askStatus "length(data.items)") [] statusRequest errorPage .ofErrorPages .ofErrorPages ∧
      (((Engine.withStatus "length(data.items)").evaluate {} statusHolds).runFrom .ofErrorPages).1 =
        .error (.error (.queryFailed (.str "length(data.items)"))) := by
  have h := Engine.answered_errorPage "length(data.items)"
  have hquery : Query.expression (.str "length(data.items)") =
      .ok (.call "length" [.andThen (.field "data") (.field "items")]) := by
    with_unfolding_all rfl
  have heval : Query.eval [] (.call "length" [.andThen (.field "data") (.field "items")])
      (RemoteAction.envelope errorPage []) = .error .query := by
    with_unfolding_all rfl
  have hreduce : (askStatus "length(data.items)").reduce [] errorPage =
      .error (.error (.queryFailed (.str "length(data.items)"))) := by
    change Query.evaluate (.str "length(data.items)") (RemoteAction.envelope errorPage []) [] = _
    rw [Query.evaluate, hquery]
    dsimp only
    rw [heval]
  refine ⟨rfl, h, ?_⟩
  rw [Engine.runFrom_evaluate_of_answered (Engine.conditionRule?_statusHolds _) h, hreduce]
  rfl

end WizardLogic
