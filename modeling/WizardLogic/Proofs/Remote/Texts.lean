import Mathlib
import WizardLogic.Proofs.Remote.Headers

/-!
# The texts of values in a request

Headers, parameters and forms are texts under names, but what is declared for them are JSON values.
A text tells a value if it is the value, where that is a string, and if it is JSON for the value
otherwise (`Json.Tells`). The text that is sent for a value is written by its kind. It tells the value
unless that is null or a number that is not finite (`Request.tells_wireText_iff`): a null is sent as
`None` and such a number as `nan` or `inf`, which are no JSON.

Parameters that are null are left out. In headers and in forms a null is sent like all other values,
and what arrives does not tell it (`RemoteAction.texts_of_declares`).
-/

namespace WizardLogic

namespace Json

/-- **A text tells a value**: a string is its own text, and every other value is told in JSON. -/
def Tells (t : String) : Value → Prop
  | .str s => t = s
  | v => read? t = some v

theorem tells_iff {t : String} {v : Value} (h : ∀ s, v ≠ .str s) :
    Tells t v ↔ read? t = some v := by
  cases v with
  | str s => exact absurd rfl (h s)
  | _ => exact Iff.rfl

/-- The JSON text of a value that is read tells it. -/
theorem tells_print {v : Value} (h : v.IsReadable) (hstr : ∀ s, v ≠ .str s) :
    Tells (print .asciiLine v) v :=
  (tells_iff hstr).mpr (read?_print_of_hasTextKeys Style.asciiLine_isPlain h.hasTextKeys h.isWritable)

/-- What is no JSON tells no value, strings apart. -/
theorem not_tells {t : String} {v : Value} (hnone : (read? t).isNone = true)
    (hstr : ∀ s, v ≠ .str s) : ¬ Tells t v := by
  rw [tells_iff hstr, Option.isNone_iff_eq_none.mp hnone]
  exact nofun

end Json

namespace Request

open Json (Tells)

/-! ### The text of a value -/

/-- What is sent for a null is no JSON. -/
theorem not_tells_wireText_null : ¬ Tells (wireText .null) .null :=
  Json.not_tells (by decide +kernel) nofun

/-- What is sent for a number that is not finite is no JSON either. -/
theorem not_tells_wireText_float {d : Double} (h : d.isFinite = false) :
    ¬ Tells (wireText (.float d)) (.float d) := by
  refine Json.not_tells ?_ nofun
  cases d with
  | nan => decide +kernel
  | inf neg => cases neg <;> decide +kernel
  | finite => cases h

/-- **Which values their text tells**: all but null and the numbers that are not finite. -/
theorem tells_wireText_iff {v : Value} (h : v.IsReadable) :
    Tells (wireText v) v ↔ v ≠ .null ∧ ∀ d, v = .float d → d.isFinite = true := by
  -- All kinds but these two and strings are sent as the JSON text that is read back.
  have hprinted : wireText v = Json.print .asciiLine v → (∀ s, v ≠ .str s) → Tells (wireText v) v :=
    fun heq hstr => heq ▸ Json.tells_print h hstr
  cases v with
  | null => exact iff_of_false not_tells_wireText_null fun hne => hne.1 rfl
  | bool b => exact iff_of_true (hprinted rfl nofun) ⟨nofun, nofun⟩
  | int n => exact iff_of_true (hprinted rfl nofun) ⟨nofun, nofun⟩
  | str s => exact iff_of_true rfl ⟨nofun, nofun⟩
  | list items => exact iff_of_true (hprinted rfl nofun) ⟨nofun, nofun⟩
  | obj es => exact iff_of_true (hprinted rfl nofun) ⟨nofun, nofun⟩
  | float d =>
    cases hd : d.isFinite with
    | true =>
      have heq : wireText (.float d) = Json.print .asciiLine (.float d) :=
        congrArg String.ofList (Json.floatChars_eq_chars hd).symm
      refine iff_of_true (hprinted heq nofun) ⟨nofun, ?_⟩
      rintro _ ⟨⟩
      exact hd
    | false =>
      refine iff_of_false (not_tells_wireText_float hd) fun hfinite => ?_
      rw [hfinite.2 d rfl] at hd
      cases hd

/-- **What is sent for a value under a key**: one text, which tells the value unless it is null or a
number that is not finite. -/
structure SendsUnder (texts : Entries String) (k : Key) (v : Value) : Prop where
  mem_iff : ∀ t, (k, t) ∈ texts ↔ t = wireText v
  tells_iff : Tells (wireText v) v ↔ v ≠ .null ∧ ∀ d, v = .float d → d.isFinite = true

theorem sendsUnder_of_mem {texts : Entries String} (hnodup : texts.keys.Nodup) {k : Key} {v : Value}
    (hmem : (k, wireText v) ∈ texts) (h : v.IsReadable) : SendsUnder texts k v where
  mem_iff := Entries.mem_iff_of_nodup hnodup hmem
  tells_iff := tells_wireText_iff h

/-- What a part declares is read from JSON. -/
theorem Declares.isReadable {contexts es : Entries Value} {template : Option String}
    (h : Declares contexts template es) {k : Key} {v : Value} (hmem : (k, v) ∈ es) :
    v.IsReadable := by
  cases h with
  | absent | empty => cases hmem
  | object _ _ hread => exact (Json.isReadable_of_read? hread).of_mem_entries hmem

theorem IsHeadersOf.sendsUnder {userAgent : String} {contexts es : Entries Value}
    {template : Option String} {sendsJson : Prop} {headers : Entries String}
    (h : IsHeadersOf userAgent es sendsJson headers) (hdeclared : Declares contexts template es)
    {k : Key} {v : Value} (hmem : (k, v) ∈ es) : SendsUnder headers k v :=
  sendsUnder_of_mem h.nodup (h.mem_of_mem hmem) (hdeclared.isReadable hmem)

theorem IsParamsOf.sendsUnder {contexts es : Entries Value} {template : Option String}
    {params : Entries String} (h : IsParamsOf es params) (hdeclared : Declares contexts template es)
    {k : Key} {v : Value} (hmem : (k, v) ∈ es) (hne : v ≠ .null) :
    SendsUnder params k v :=
  sendsUnder_of_mem h.nodup ((h.mem_iff k _).mpr ⟨v, hmem, hne, rfl⟩) (hdeclared.isReadable hmem)

/-- A parameter that is null is not sent. -/
theorem IsParamsOf.not_mem_keys {contexts es : Entries Value} {template : Option String}
    {params : Entries String} (h : IsParamsOf es params) (hdeclared : Declares contexts template es)
    {k : Key} (hmem : (k, .null) ∈ es) : k ∉ params.keys := by
  intro hk
  obtain ⟨⟨k, t⟩, hkt, rfl⟩ := List.mem_map.mp hk
  obtain ⟨v, hv, hne, -⟩ := (h.mem_iff k t).mp hkt
  exact hne ((Entries.mem_iff_of_nodup hdeclared.keyedByTexts.nodup hmem v).mp hv)

end Request

/-- The fields of a body that is a form. -/
def Body.fields? : Body → Option (Entries String)
  | .form fields => some fields
  | .parts fields => some fields
  | _ => none

namespace RemoteAction

variable {userAgent : String} {a : RemoteAction} {contexts headers params : Entries Value}

/-- **The form that a remote action declares**: the object that its body is rendered to, if it sends
one and the content type is one of forms. -/
structure DeclaresForm (a : RemoteAction) (contexts es : Entries Value) : Prop where
  hasBody : ¬ a.IsBodyless
  kind : a.contentType = .urlEncoding ∨ a.contentType = .formData
  object : ∃ template text, a.body = some template ∧
    Template.render (.str template) contexts = .ok text ∧ Json.read? text = some (.obj es)

theorem DeclaresForm.fields?_eq {es : Entries Value} (h : a.DeclaresForm contexts es) {body : Body}
    (hbody : a.Carries contexts body) : body.fields? = some (Request.wireTexts es) := by
  obtain ⟨template, text, htemplate, hrender, hread⟩ := h.object
  cases hbody with
  | nothing hnone => exact absurd hnone h.hasBody
  | encoded _ htemplate' hrender' hencodes =>
    cases htemplate.symm.trans htemplate'
    cases hrender.symm.trans hrender'
    have hkind := h.kind
    generalize a.contentType = kind at hkind hencodes
    cases hencodes with
    | json _ | text => simp at hkind
    | urlEncoding hread' | formData hread' =>
      cases hread.symm.trans hread'
      rfl

theorem DeclaresForm.sendsUnder {es : Entries Value} (h : a.DeclaresForm contexts es) {k : Key}
    {v : Value} (hmem : (k, v) ∈ es) : Request.SendsUnder (Request.wireTexts es) k v := by
  obtain ⟨_, _, -, -, hread⟩ := h.object
  have hreadable := Json.isReadable_of_read? hread
  refine Request.sendsUnder_of_mem ?_ (Request.mem_wireTexts.mpr ⟨v, hmem, rfl⟩)
    (hreadable.of_mem_entries hmem)
  rw [Request.keys_wireTexts]
  exact hreadable.keyedByTexts.nodup

/-- **The texts that are sent for declared values.** A request is built where every part can be, and
for each value that is declared under a key of the headers, the parameters or a form there is one
text under that key. It tells the value: a string is sent as it is, and all others as JSON that is
read as the value. Only null and the numbers that are not finite are not told; of the parameters,
those that are null are not sent. -/
theorem texts_of_declares {url : String} {body : Body}
    (hurl : Template.render (.str a.url) contexts = .ok url)
    (hheaders : Request.Declares contexts a.headers headers)
    (hparams : Request.Declares contexts a.params params) (hbody : a.Carries contexts body)
    (userAgent : String) :
    ∃ r, Request.build userAgent a contexts = .ok r ∧
      (∀ k v, (k, v) ∈ headers → Request.SendsUnder r.headers k v) ∧
      (∀ k v, (k, v) ∈ params → v ≠ .null → Request.SendsUnder r.params k v) ∧
      (∀ k, (k, .null) ∈ params → k ∉ r.params.keys) ∧
      ∀ es, a.DeclaresForm contexts es → ∃ fields, r.body.fields? = some fields ∧
        ∀ k v, (k, v) ∈ es → Request.SendsUnder fields k v := by
  have hsent : Request.IsHeadersOf userAgent headers a.SendsJson
      (Request.announced a.SendsJson (Request.headerTexts userAgent headers)) :=
    Request.isHeadersOf_announced hheaders.keyedByTexts
  have hasked := Request.isParamsOf_paramTexts hparams.keyedByTexts
  refine ⟨_, build_of_declares hurl hheaders hparams hbody userAgent,
    fun _ _ hmem => hsent.sendsUnder hheaders hmem,
    fun _ _ hmem hne => hasked.sendsUnder hparams hmem hne,
    fun _ hmem => hasked.not_mem_keys hparams hmem, fun es hform => ?_⟩
  exact ⟨_, hform.fields?_eq hbody, fun _ _ hmem => hform.sendsUnder hmem⟩

/-! ### One object in all parts -/

/-- A remote action that sends one object as its headers, its parameters and a form. -/
def withValues (text : String) : RemoteAction :=
  ⟨"values", .post, statusAddress, .urlEncoding, some text, some text, some text, none, .query,
    none, []⟩

section WithValues

variable {text : String} {es : Entries Value}

theorem declaresForm_withValues (hrender : Template.render (.str text) [] = .ok text)
    (hread : Json.read? text = some (.obj es)) : (withValues text).DeclaresForm [] es where
  hasBody := by
    rw [isBodyless_iff]
    exact not_or.mpr ⟨nofun, nofun⟩
  kind := .inl rfl
  object := ⟨text, text, rfl, hrender, hread⟩

theorem carries_withValues (hrender : Template.render (.str text) [] = .ok text)
    (hread : Json.read? text = some (.obj es)) :
    (withValues text).Carries [] (.form (Request.wireTexts es)) :=
  .encoded (declaresForm_withValues hrender hread).hasBody rfl hrender (.urlEncoding hread)

end WithValues

/-- A list that holds a null. -/
def listText : String := "\x7b\"X\": [null, true]\x7d"

theorem render_listText : Template.render (.str listText) [] = .ok listText :=
  eq_ok_of_toOption (by decide +kernel)

theorem read?_listText :
    Json.read? listText = some (.obj [(.str "X", .list [.null, .bool true])]) := by cbv

/-- It is sent as JSON in all parts. -/
theorem texts_of_declares_listText :
    ∃ r fields t, Request.build "engine" (withValues listText) [] = .ok r ∧
      r.body.fields? = some fields ∧ (.str "X", t) ∈ r.headers ∧ (.str "X", t) ∈ r.params ∧
      (.str "X", t) ∈ fields ∧ Json.read? t = some (.list [.null, .bool true]) := by
  have hdeclares : Request.Declares [] (some listText) [(.str "X", .list [.null, .bool true])] :=
    .object (by decide) render_listText read?_listText
  obtain ⟨r, hbuild, hheaders, hparams, -, hform⟩ := texts_of_declares (a := withValues listText)
    render_statusAddress hdeclares hdeclares (carries_withValues render_listText read?_listText)
    "engine"
  obtain ⟨fields, hbody, hsent⟩ :=
    hform _ (declaresForm_withValues render_listText read?_listText)
  obtain ⟨hheader, htells⟩ := hheaders _ _ List.mem_cons_self
  obtain ⟨hparam, -⟩ := hparams _ _ List.mem_cons_self nofun
  obtain ⟨hfield, -⟩ := hsent _ _ List.mem_cons_self
  exact ⟨r, fields, _, hbuild, hbody, (hheader _).mpr rfl, (hparam _).mpr rfl, (hfield _).mpr rfl,
    htells.mpr ⟨nofun, nofun⟩⟩

/-- A null. -/
def nullText : String := "\x7b\"X\": null\x7d"

theorem render_nullText : Template.render (.str nullText) [] = .ok nullText :=
  eq_ok_of_toOption (by decide +kernel)

theorem read?_nullText : Json.read? nullText = some (.obj [(.str "X", .null)]) := by cbv

/-- It is left out of the parameters, but sent as a header and in a form, by a text that does not tell
it. -/
theorem not_tells_nullText :
    Json.read? nullText = some (.obj [(.str "X", .null)]) ∧
    ∃ r fields, Request.build "engine" (withValues nullText) [] = .ok r ∧
      r.body.fields? = some fields ∧ r.params = [] ∧ (.str "X", "None") ∈ r.headers ∧
      (.str "X", "None") ∈ fields ∧ ¬ Json.Tells "None" .null := by
  have hdeclares : Request.Declares [] (some nullText) [(.str "X", .null)] :=
    .object (by decide) render_nullText read?_nullText
  have hbuild := build_of_declares (a := withValues nullText) render_statusAddress hdeclares hdeclares
    (carries_withValues render_nullText read?_nullText) "engine"
  obtain ⟨es, hes, hheaders⟩ := (describes_of_build hbuild).headers
  cases hes.unique hdeclares
  exact ⟨read?_nullText, _, _, hbuild, rfl, rfl, hheaders.mem_of_mem List.mem_cons_self,
    List.mem_cons_self, Request.not_tells_wireText_null⟩

end RemoteAction

end WizardLogic
