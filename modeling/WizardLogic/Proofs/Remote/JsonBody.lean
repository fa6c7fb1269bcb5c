import Mathlib
import WizardLogic.Proofs.Remote.Request

/-!
# JSON bodies

A JSON body is read from the text that its template is rendered to, and written again. What is sent
denotes the value that was read, in ASCII, however the text spelled it
(`Request.Encodes.read?_content`). A call whose templates can all be rendered fails before anything
is sent only because it makes no request: a part is no object, or the body is no JSON
(`Failure.IsRemote`). So what a call with a JSON body does is decided by what the rendered texts
spell (`RemoteAction.run_jsonBody`).
-/

namespace WizardLogic

/-! ### Failing to make a request -/

/-- **A failure in making a request**, and not in a template, a query or anything else. -/
inductive Failure.IsRemote : Failure → Prop
  | error {e : Error} : e.family = .remote → IsRemote (.error e)

/-- **An evaluation that fails only in making a request**, if it fails. -/
def FailsRemotely {α : Type} (r : Except Failure α) : Prop := ∀ f, r = .error f → f.IsRemote

namespace FailsRemotely

variable {α β : Type} {r : Except Failure α}

theorem ok (a : α) : FailsRemotely (.ok a) := nofun

theorem of_succeeds (h : Succeeds r) : FailsRemotely r := by
  obtain ⟨a, rfl⟩ := h
  exact ok a

theorem bind {k : α → Except Failure β} (hr : FailsRemotely r) (hk : ∀ a, FailsRemotely (k a)) :
    FailsRemotely (r >>= k) := by
  cases r with
  | error f =>
    intro g hg
    cases hg
    exact hr f rfl
  | ok a => exact hk a

theorem map (hr : FailsRemotely r) (f : α → β) : FailsRemotely (r.map f) := by
  cases r with
  | error g =>
    intro g' hg'
    cases hg'
    exact hr g rfl
  | ok a => exact ok (f a)

end FailsRemotely

namespace Request

variable {contexts : Entries Value} {template : Option String} {part text : String}

theorem failsRemotely_objectOf (part text : String) : FailsRemotely (objectOf part text) := by
  unfold objectOf
  split
  · rintro _ ⟨⟩
    exact .error rfl
  · exact .ok _
  · rintro _ ⟨⟩
    exact .error rfl

theorem failsRemotely_buildBody (kind : ContentType) (headers : Entries String) (text : String) :
    FailsRemotely (buildBody kind headers text) := by
  cases kind with
  | json =>
    unfold buildBody
    dsimp only
    split
    · rintro _ ⟨⟩
      exact .error rfl
    · exact .ok _
  | text => exact .ok _
  | urlEncoding | formData => exact (failsRemotely_objectOf "body" text).map _

/-- A part whose template is rendered can only fail to be an object. -/
theorem failsRemotely_declared
    (h : ∀ s ∈ template, Succeeds (Template.render (.str s) contexts)) :
    FailsRemotely (declared part template contexts) := by
  unfold declared
  split
  · exact .ok _
  · next s =>
    split
    · exact .ok _
    · exact (FailsRemotely.of_succeeds (h s rfl)).bind (failsRemotely_objectOf part)

/-- **What is sent for a JSON text** denotes the value that the text denotes, and it is in ASCII. -/
theorem Encodes.read?_content {body : Body} (h : Encodes .json text body) :
    ∃ content, body = .content content ∧ (∀ c ∈ content.toList, Json.isAscii c = true) ∧
      Json.read? content = Json.read? text := by
  cases h with
  | @json _ v hread =>
    exact ⟨_, rfl, Json.isAscii_of_mem_print Json.Style.asciiLine_isPlain rfl v,
      (Json.read?_print_of_read? Json.Style.asciiLine_isPlain hread).trans hread.symm⟩

end Request

namespace RemoteAction

variable {userAgent : String} {a : RemoteAction} {contexts : Entries Value}

/-- A JSON body that is sent comes from a text that denotes a value. -/
theorem Carries.exists_read? {template text : String} {body : Body} (h : a.Carries contexts body)
    (hsome : ¬ a.IsBodyless) (hkind : a.contentType = .json) (hbody : a.body = some template)
    (hrender : Template.render (.str template) contexts = .ok text) :
    ∃ v, Json.read? text = some v := by
  cases h with
  | nothing hnone => exact absurd hnone hsome
  | encoded _ htemplate htext hencodes =>
    cases hbody.symm.trans htemplate
    cases hrender.symm.trans htext
    rw [hkind] at hencodes
    cases hencodes with
    | json hread => exact ⟨_, hread⟩

/-- **The templates of a remote action are rendered** in contexts, each to some text. -/
structure Renders (a : RemoteAction) (contexts : Entries Value) : Prop where
  url : Succeeds (Template.render (.str a.url) contexts)
  headers : ∀ s ∈ a.headers, Succeeds (Template.render (.str s) contexts)
  params : ∀ s ∈ a.params, Succeeds (Template.render (.str s) contexts)
  body : ∀ s ∈ a.body, Succeeds (Template.render (.str s) contexts)

theorem Renders.failsRemotely_withBody (h : a.Renders contexts) (headers : Entries String) :
    FailsRemotely (a.withBody contexts headers) := by
  by_cases hnone : a.IsBodyless
  · rw [withBody_of_isBodyless hnone]
    exact .ok _
  · obtain ⟨template, hbody, hwith⟩ := exists_withBody_eq hnone contexts headers
    rw [hwith]
    exact (FailsRemotely.of_succeeds (h.body template hbody)).bind
      (Request.failsRemotely_buildBody a.contentType headers)

/-- **A request whose templates are rendered** can only fail to be made. -/
theorem Renders.failsRemotely_build (h : a.Renders contexts) (userAgent : String) :
    FailsRemotely (Request.build userAgent a contexts) := by
  rw [build_eq, Request.buildHeaders_eq, Request.buildParams_eq]
  refine (FailsRemotely.of_succeeds h.url).bind fun url => ?_
  refine ((Request.failsRemotely_declared h.headers).map _).bind fun headers => ?_
  refine ((Request.failsRemotely_declared h.params).map _).bind fun params => ?_
  exact (h.failsRemotely_withBody headers).bind fun _ => .ok _

/-- **A call with a JSON body**, of a remote action whose templates are rendered and whose method
carries a body. If the text of the body denotes a value, and the headers and the parameters are
objects, then one request is sent, and its body denotes the same value in ASCII. If the text denotes
none, or one of the other parts is no object, the call fails to make a request and leaves the
outside alone. -/
theorem run_jsonBody {template text : String}
    (hmethod : a.method = .post ∨ a.method = .put ∨ a.method = .patch)
    (hkind : a.contentType = .json) (hbody : a.body = some template)
    (hrender : Template.render (.str template) contexts = .ok text) (h : a.Renders contexts)
    (userAgent : String) (x : Exchange) :
    (∀ v, Json.read? text = some v → (∃ es, Request.Declares contexts a.headers es) →
      (∃ es, Request.Declares contexts a.params es) →
        ∃ r content, ((a.run userAgent contexts).runFrom x).2.requests = x.requests ++ [r] ∧
          r.body = .content content ∧ (∀ c ∈ content.toList, Json.isAscii c = true) ∧
          Json.read? content = some v) ∧
    (Json.read? text = none ∨ (¬ ∃ es, Request.Declares contexts a.headers es) ∨
      (¬ ∃ es, Request.Declares contexts a.params es) →
        ∃ e, e.family = .remote ∧
          (a.run userAgent contexts).runFrom x = (.error (.error e), x)) := by
  have hsome : ¬ a.IsBodyless := by
    rw [isBodyless_iff, hbody]
    rcases hmethod with hm | hm | hm <;> simp [hm, HttpMethod.carriesBody]
  constructor
  · rintro v hread ⟨headers, hheaders⟩ ⟨params, hparams⟩
    obtain ⟨url, hurl⟩ := h.url
    have hencodes : Request.Encodes .json text (.content (Json.print .asciiLine v)) := .json hread
    obtain ⟨content, hcontent, hascii, hsame⟩ := hencodes.read?_content
    have hbuild := build_of_declares hurl hheaders hparams
      (.encoded hsome hbody hrender (hkind ▸ hencodes)) userAgent
    exact ⟨_, content, requests_run hbuild x, hcontent, hascii, hsame.trans hread⟩
  · intro hfails
    cases hbuild : Request.build userAgent a contexts with
    | error f =>
      obtain ⟨hfamily⟩ := h.failsRemotely_build userAgent f hbuild
      exact ⟨_, hfamily, runFrom_run_of_error hbuild x⟩
    -- A request would have been built from objects and from a body that could be read.
    | ok r =>
      obtain ⟨headers, params, hheaders, hparams, hcarries, -⟩ := exists_of_build hbuild
      rcases hfails with hnone | hother | hother
      · obtain ⟨v, hread⟩ := hcarries.exists_read? hsome hkind hbody hrender
        cases hnone.symm.trans hread
      · exact absurd ⟨headers, hheaders⟩ hother
      · exact absurd ⟨params, hparams⟩ hother

/-! ### A body in another spelling -/

/-- A remote action that sends a JSON body. -/
def withBodyText (body : String) : RemoteAction :=
  ⟨"body", .post, statusAddress, .json, some body, none, none, none, .query, none, []⟩

theorem renders_withBodyText {body text : String}
    (h : Template.render (.str body) [] = .ok text) : (withBodyText body).Renders [] where
  url := ⟨statusAddress, render_statusAddress⟩
  headers := nofun
  params := nofun
  body := by
    intro s hs
    cases hs
    exact ⟨text, h⟩

/-- A JSON text with an integer, a number that is none, and characters within and beyond the escapes
that it uses. -/
def spelledBody : String := "\x7b \"n\":[1,1.0], \"\\ud83d\\ude00\" : \"é\" \x7d"

/-- Its value is sent, and a text that is no JSON is not. -/
theorem run_jsonBody_spelledBody :
    (∃ r content v,
      (((withBodyText spelledBody).run "" []).runFrom .ofErrorPages).2.requests = [r] ∧
      r.body = .content content ∧ (∀ c ∈ content.toList, Json.isAscii c = true) ∧
      Json.read? spelledBody = some v ∧ Json.read? content = some v) ∧
    ∃ e, e.family = .remote ∧ ((withBodyText "plain").run "" []).runFrom .ofErrorPages =
      (.error (.error e), .ofErrorPages) := by
  have hspelled : Template.render (.str spelledBody) [] = .ok spelledBody :=
    eq_ok_of_toOption (by decide +kernel)
  have hplain : Template.render (.str "plain") [] = .ok "plain" :=
    eq_ok_of_toOption (by decide +kernel)
  have hsome : (Json.read? spelledBody).isSome = true := by decide +kernel
  have hnone : (Json.read? "plain").isNone = true := by decide +kernel
  obtain ⟨v, hv⟩ := Option.isSome_iff_exists.mp hsome
  obtain ⟨hsent, -⟩ := run_jsonBody (.inl rfl) rfl rfl hspelled (renders_withBodyText hspelled) ""
    .ofErrorPages
  obtain ⟨-, hfails⟩ := run_jsonBody (.inl rfl) rfl rfl hplain (renders_withBodyText hplain) ""
    .ofErrorPages
  obtain ⟨r, content, hrequests, hcontent, hascii, hread⟩ :=
    hsent v hv ⟨[], .absent⟩ ⟨[], .absent⟩
  exact ⟨⟨r, content, v, hrequests, hcontent, hascii, hv, hread⟩,
    hfails (.inl (Option.isNone_iff_eq_none.mp hnone))⟩

end RemoteAction

end WizardLogic
