import Mathlib
import WizardLogic.Proofs.Condition.Remote
import WizardLogic.Proofs.Remote.Parts

/-!
# The request that a remote action sends

A request is the one of a remote action in contexts if it has the method, the rendered address, and
in each part what is declared; its body is the encoded one that is declared, and none for a method
that carries none (`RemoteAction.Describes`). Whether there is such a request is decided when it is
built: one is built exactly if one is described, and it is one of those that are described.

So a call either finds that there is no such request, and then it leaves the outside alone, or it
sends one such request and no other (`RemoteAction.run_describes`).
-/

namespace WizardLogic

namespace RemoteAction

variable {userAgent : String} {a : RemoteAction} {contexts : Entries Value} {r : Request}

/-- Whether the requests of a remote action have no body: their method carries none, or none is
declared. -/
def IsBodyless (a : RemoteAction) : Prop := a.method = .get ∨ a.method = .delete ∨ a.body = none

/-- Whether the requests of a remote action have a JSON body. -/
def SendsJson (a : RemoteAction) : Prop := ¬ a.IsBodyless ∧ a.contentType = .json

theorem isBodyless_iff : a.IsBodyless ↔ a.method.carriesBody = false ∨ a.body = none := by
  unfold IsBodyless
  cases a.method <;> simp [HttpMethod.carriesBody]

instance : Decidable a.IsBodyless := inferInstanceAs (Decidable (_ ∨ _ ∨ _))

instance : Decidable a.SendsJson := inferInstanceAs (Decidable (_ ∧ _))

/-- **The body that a remote action sends**: none, or what its template is rendered to, encoded. -/
inductive Carries (a : RemoteAction) (contexts : Entries Value) : Body → Prop
  | nothing : a.IsBodyless → Carries a contexts .nothing
  | encoded {template text : String} {body : Body} : ¬ a.IsBodyless → a.body = some template →
      Template.render (.str template) contexts = .ok text →
      Request.Encodes a.contentType text body → Carries a contexts body

/-- **The request of a remote action in contexts**, part by part. -/
structure Describes (userAgent : String) (a : RemoteAction) (contexts : Entries Value)
    (r : Request) : Prop where
  method : r.method = a.method
  url : Template.render (.str a.url) contexts = .ok r.url
  headers : ∃ es, Request.Declares contexts a.headers es ∧
    Request.IsHeadersOf userAgent es a.SendsJson r.headers
  params : ∃ es, Request.Declares contexts a.params es ∧ Request.IsParamsOf es r.params
  body : a.Carries contexts r.body

/-- The headers and the body, over the headers that are sent without a body. -/
def withBody (a : RemoteAction) (contexts : Entries Value) (headers : Entries String) :
    Except Failure (Entries String × Body) :=
  match a.body with
  | none => return (headers, .nothing)
  | some template =>
    if a.method.carriesBody then do
      let text ← Template.render (.str template) contexts
      Request.buildBody a.contentType headers text
    else return (headers, .nothing)

theorem withBody_of_isBodyless (h : a.IsBodyless) (headers : Entries String) :
    a.withBody contexts headers = .ok (headers, .nothing) := by
  unfold withBody
  rcases isBodyless_iff.mp h with hmethod | hbody
  · rw [hmethod]
    cases a.body <;> rfl
  · rw [hbody]
    rfl

theorem exists_withBody_eq (h : ¬ a.IsBodyless) (contexts : Entries Value)
    (headers : Entries String) : ∃ template, a.body = some template ∧ a.withBody contexts headers =
      Template.render (.str template) contexts >>= Request.buildBody a.contentType headers := by
  simp only [isBodyless_iff, not_or, Bool.not_eq_false] at h
  obtain ⟨hmethod, hbody⟩ := h
  obtain ⟨template, htemplate⟩ := Option.ne_none_iff_exists'.mp hbody
  refine ⟨template, htemplate, ?_⟩
  unfold withBody
  rw [htemplate, hmethod]
  rfl

theorem withBody_eq_ok {headers headers' : Entries String} {body : Body} :
    a.withBody contexts headers = .ok (headers', body) ↔
      a.Carries contexts body ∧ Request.announced a.SendsJson headers = headers' := by
  by_cases hnone : a.IsBodyless
  -- Nothing is sent and nothing announced.
  · have hplain : Request.announced a.SendsJson headers = headers := if_neg fun h => h.1.1 hnone
    rw [withBody_of_isBodyless hnone, hplain]
    constructor
    · intro h
      cases h
      exact ⟨.nothing hnone, rfl⟩
    · rintro ⟨hcarries, rfl⟩
      cases hcarries with
      | nothing => rfl
      | encoded hsome => exact absurd hnone hsome
  -- What is announced goes by the content type alone, as it does in `Request.buildBody`.
  · obtain ⟨template, hbody, hwith⟩ := exists_withBody_eq hnone contexts headers
    have hjson : Request.announced a.SendsJson headers =
        Request.announced (a.contentType = .json) headers := by
      simp only [Request.announced, SendsJson, hnone, not_false_eq_true, true_and]
    rw [hwith, hjson]
    constructor
    · intro h
      obtain ⟨text, hrender, h⟩ := exists_of_bind_eq_ok h
      obtain ⟨hencodes, rfl⟩ := Request.buildBody_eq_ok.mp h
      exact ⟨.encoded hnone hbody hrender hencodes, rfl⟩
    · rintro ⟨hcarries, rfl⟩
      cases hcarries with
      | nothing h => exact absurd h hnone
      | encoded _ htemplate hrender hencodes =>
        cases hbody.symm.trans htemplate
        rw [hrender]
        exact Request.buildBody_eq_ok.mpr ⟨hencodes, rfl⟩

/-- The request is built part by part; the body comes last, with the header that announces it. -/
theorem build_eq (userAgent : String) (a : RemoteAction) (contexts : Entries Value) :
    Request.build userAgent a contexts = do
      let url ← Template.render (.str a.url) contexts
      let headers ← Request.buildHeaders userAgent a contexts
      let params ← Request.buildParams a contexts
      let (headers, body) ← a.withBody contexts headers
      return ⟨a.method, url, headers, params, body⟩ := by
  unfold Request.build withBody
  refine bind_congr fun url => bind_congr fun headers => bind_congr fun params => ?_
  cases a.body with
  | none => rfl
  | some template =>
    dsimp only
    split
    · rw [bind_assoc]
    · rfl

/-- **The request that is built** from what the parts declare and from the body. -/
theorem build_of_declares {headers params : Entries Value} {url : String} {body : Body}
    (hurl : Template.render (.str a.url) contexts = .ok url)
    (hheaders : Request.Declares contexts a.headers headers)
    (hparams : Request.Declares contexts a.params params) (hbody : a.Carries contexts body)
    (userAgent : String) :
    Request.build userAgent a contexts =
      .ok ⟨a.method, url, Request.announced a.SendsJson (Request.headerTexts userAgent headers),
        Request.paramTexts params, body⟩ := by
  have hwith : a.withBody contexts (Request.headerTexts userAgent headers) = .ok
      (Request.announced a.SendsJson (Request.headerTexts userAgent headers), body) :=
    withBody_eq_ok.mpr ⟨hbody, rfl⟩
  rw [build_eq, Request.buildHeaders_eq, Request.buildParams_eq, hurl,
    Request.declared_eq_ok.mpr hheaders, Request.declared_eq_ok.mpr hparams]
  simp only [bind, Except.bind, Except.map, hwith]
  rfl

/-- **When a request is built**: every part that is declared has to be an object, and the body has
to be one that the content type allows. -/
theorem exists_of_build (h : Request.build userAgent a contexts = .ok r) :
    ∃ headers params, Request.Declares contexts a.headers headers ∧
      Request.Declares contexts a.params params ∧ a.Carries contexts r.body ∧
      Template.render (.str a.url) contexts = .ok r.url ∧
      r = ⟨a.method, r.url, Request.announced a.SendsJson (Request.headerTexts userAgent headers),
        Request.paramTexts params, r.body⟩ := by
  rw [build_eq, Request.buildHeaders_eq, Request.buildParams_eq] at h
  obtain ⟨url, hurl, h⟩ := exists_of_bind_eq_ok h
  obtain ⟨_, hbase, h⟩ := exists_of_bind_eq_ok h
  obtain ⟨_, hsent, h⟩ := exists_of_bind_eq_ok h
  obtain ⟨⟨_, body⟩, hbody, h⟩ := exists_of_bind_eq_ok h
  obtain ⟨headers, hheaders, rfl⟩ := map_eq_ok.mp hbase
  obtain ⟨params, hparams, rfl⟩ := map_eq_ok.mp hsent
  obtain ⟨hcarries, rfl⟩ := withBody_eq_ok.mp hbody
  cases h
  exact ⟨headers, params, Request.declared_eq_ok.mp hheaders, Request.declared_eq_ok.mp hparams,
    hcarries, hurl, rfl⟩

/-- **A request that is built is described.** -/
theorem describes_of_build (h : Request.build userAgent a contexts = .ok r) :
    a.Describes userAgent contexts r := by
  obtain ⟨headers, params, hheaders, hparams, hcarries, hurl, heq⟩ := exists_of_build h
  refine ⟨congrArg Request.method heq, hurl, ⟨headers, hheaders, ?_⟩, ⟨params, hparams, ?_⟩,
    hcarries⟩
  · rw [heq]
    exact Request.isHeadersOf_announced hheaders.keyedByTexts
  · rw [heq]
    exact Request.isParamsOf_paramTexts hparams.keyedByTexts

/-- Where some request is described, one is built. -/
theorem Describes.exists_build (h : a.Describes userAgent contexts r) :
    ∃ r', Request.build userAgent a contexts = .ok r' := by
  obtain ⟨headers, hheaders, -⟩ := h.headers
  obtain ⟨params, hparams, -⟩ := h.params
  exact ⟨_, build_of_declares h.url hheaders hparams h.body userAgent⟩

/-! ### What is sent -/

/-- A call for which nothing comes back fails when the request is sent. -/
theorem runFrom_run_lost {reason : String} {x : Exchange}
    (hbuild : Request.build userAgent a contexts = .ok r) (hreply : x.script.next = .lost reason) :
    (a.run userAgent contexts).runFrom x =
      (.error (.error (.transport a.name reason)), (x.noted ⟨.info, .remote,
        s!"Remote action '{a.name}': {r.method.name} {r.url}"⟩).sent r) := by
  unfold run
  rw [hbuild, Effect.runFrom_bind, Effect.runFrom_ofExcept]
  dsimp only
  rw [Effect.runFrom_bind, Effect.runFrom_note]
  dsimp only
  rw [Effect.runFrom_bind, Effect.runFrom_send]
  dsimp only
  rw [Exchange.script_noted, hreply]
  rfl

/-- A call whose request is not built leaves the outside alone. -/
theorem runFrom_run_of_error {f : Failure} (h : Request.build userAgent a contexts = .error f)
    (x : Exchange) : (a.run userAgent contexts).runFrom x = (.error f, x) := by
  unfold run
  rw [h, Effect.runFrom_bind, Effect.runFrom_ofExcept]

/-- A call whose request is built sends it, whatever comes back. -/
theorem requests_run (h : Request.build userAgent a contexts = .ok r) (x : Exchange) :
    ((a.run userAgent contexts).runFrom x).2.requests = x.requests ++ [r] := by
  cases hreply : x.script.next with
  | response response =>
    rw [runFrom_run_response h hreply]
    unfold answered replied
    split <;> rfl
  | lost reason =>
    rw [runFrom_run_lost h hreply]
    rfl

/-- **A call sends one request, one that is described, or none.** If no request is described, the
call fails and the outside is as it was: no request is sent and no record is noted. -/
theorem run_describes (userAgent : String) (a : RemoteAction) (contexts : Entries Value)
    (x : Exchange) :
    (∃ f, Request.build userAgent a contexts = .error f ∧
      (a.run userAgent contexts).runFrom x = (.error f, x) ∧
      ∀ r, ¬ a.Describes userAgent contexts r) ∨
    ∃ r, a.Describes userAgent contexts r ∧
      ((a.run userAgent contexts).runFrom x).2.requests = x.requests ++ [r] := by
  cases hbuild : Request.build userAgent a contexts with
  | error f =>
    refine .inl ⟨f, rfl, runFrom_run_of_error hbuild x, fun r hr => ?_⟩
    obtain ⟨r', hr'⟩ := hr.exists_build
    cases hbuild.symm.trans hr'
  | ok r => exact .inr ⟨r, describes_of_build hbuild, requests_run hbuild x⟩

end RemoteAction

end WizardLogic
