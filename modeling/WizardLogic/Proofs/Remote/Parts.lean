import Mathlib
import WizardLogic.Proofs.Json.Reading
import WizardLogic.Proofs.State.Wire
import WizardLogic.Remote.Request

/-!
# The parts of a request

Each part of a request is declared by a template, or by none: if it declares anything, it has to be
rendered to an object (`Request.Declares`). What a request has in a part is said without the order
in which the part is filled. The headers are the declared ones, the one that says who asks unless it
is declared, and the one that announces a JSON body unless a declared one names a content type
(`Request.IsHeadersOf`). The parameters are the declared ones that are not null
(`Request.IsParamsOf`). The body is what the content type makes of the rendered text
(`Request.Encodes`).

The parts that are built are the ones described: for each step of building there is a law that says
what comes of it.
-/

namespace WizardLogic

theorem map_eq_ok {ε α β : Type} {f : α → β} {e : Except ε α} {b : β} :
    e.map f = .ok b ↔ ∃ a, e = .ok a ∧ f a = b := by
  cases e with
  | error _ => exact ⟨nofun, nofun⟩
  | ok a => simp [Except.map]

namespace Request

variable {contexts : Entries Value} {template : Option String} {part text : String}
  {es : Entries Value} {k : Key} {t : String}

/-! ### What a part declares -/

/-- **The entries that a part of a request declares**: none without a template or with an empty one,
else those of the JSON object that it is rendered to. -/
inductive Declares (contexts : Entries Value) : Option String → Entries Value → Prop
  | absent : Declares contexts none []
  | empty : Declares contexts (some "") []
  | object {template text : String} {es : Entries Value} : template ≠ "" →
      Template.render (.str template) contexts = .ok text → Json.read? text = some (.obj es) →
      Declares contexts (some template) es

/-- Finds the entries that a part of a request declares. -/
def declared (part : String) (template : Option String) (contexts : Entries Value) :
    Except Failure (Entries Value) :=
  match template with
  | none => .ok []
  | some template =>
    if template.isEmpty then .ok [] else Template.render (.str template) contexts >>= objectOf part

theorem objectOf_eq_ok : objectOf part text = .ok es ↔ Json.read? text = some (.obj es) := by
  unfold objectOf
  split
  · next hnone => simp [hnone]
  · next es' hobj => simp [hobj]
  · next v hother hsome =>
    rw [hsome]
    exact ⟨nofun, fun h => absurd (Option.some.inj h) (hother es)⟩

theorem declared_eq_ok :
    declared part template contexts = .ok es ↔ Declares contexts template es := by
  constructor
  · intro h
    unfold declared at h
    split at h
    · cases h
      exact .absent
    · next template =>
      split at h
      · next hempty =>
        cases h
        rw [String.isEmpty_iff.mp hempty]
        exact .empty
      · next hne =>
        obtain ⟨text, hrender, hobject⟩ := exists_of_bind_eq_ok h
        exact .object (fun heq => hne (String.isEmpty_iff.mpr heq)) hrender
          (objectOf_eq_ok.mp hobject)
  · intro h
    unfold declared
    cases h with
    | absent => rfl
    | empty => rfl
    | object hne hrender hread =>
      dsimp only
      rw [if_neg fun hempty => hne (String.isEmpty_iff.mp hempty), hrender]
      exact objectOf_eq_ok.mpr hread

/-- What is made of the entries that a part declares, written out as the parts are built. -/
theorem map_declared {α : Type} (f : Entries Value → α) :
    (declared part template contexts).map f =
      match template with
      | none => return f []
      | some template =>
        if template.isEmpty then return f []
        else do
          let es ← objectOf part (← Template.render (.str template) contexts)
          return f es := by
  unfold declared
  cases template with
  | none => rfl
  | some template =>
    dsimp only
    split
    · rfl
    · cases Template.render (.str template) contexts with
      | error _ => rfl
      | ok text => exact map_eq_pure_bind f (objectOf part text)

/-- What is declared is an object. -/
theorem Declares.keyedByTexts (h : Declares contexts template es) : es.KeyedByTexts := by
  cases h with
  | absent | empty => exact .nil
  | object _ _ hread => exact (Json.isReadable_of_read? hread).keyedByTexts

/-- A part declares only one object. -/
theorem Declares.unique {es' : Entries Value} (h : Declares contexts template es)
    (h' : Declares contexts template es') : es = es' := by
  have hfound : declared "" template contexts = .ok es := declared_eq_ok.mpr h
  exact Except.ok.inj (hfound.symm.trans (declared_eq_ok.mpr h'))

/-! ### Entries as they are sent -/

theorem keys_wireTexts (es : Entries Value) : (wireTexts es).keys = es.keys := by
  unfold wireTexts Entries.keys
  rw [List.map_map]
  rfl

theorem mem_wireTexts : (k, t) ∈ wireTexts es ↔ ∃ v, (k, v) ∈ es ∧ t = wireText v := by
  simp [wireTexts, eq_comm]

/-! ### What the parameters are -/

/-- **The parameters for declared ones**: those that are not null, as texts. -/
structure IsParamsOf (declared : Entries Value) (params : Entries String) : Prop where
  nodup : params.keys.Nodup
  mem_iff : ∀ k t, (k, t) ∈ params ↔ ∃ v, (k, v) ∈ declared ∧ v ≠ .null ∧ t = wireText v
  ne_nil_iff : params ≠ [] ↔ ∃ e ∈ declared, e.2 ≠ .null

/-- The declared parameters that are sent. -/
def paramTexts (es : Entries Value) : Entries String :=
  wireTexts (es.filter fun (_, v) => !v.isNull)

theorem buildParams_eq (a : RemoteAction) (contexts : Entries Value) :
    buildParams a contexts = (declared "params" a.params contexts).map paramTexts :=
  (map_declared paramTexts).symm

theorem isParamsOf_paramTexts (h : es.KeyedByTexts) : IsParamsOf es (paramTexts es) := by
  have hkept : ∀ v : Value, (!v.isNull) = true ↔ v ≠ .null := by
    intro v
    cases v <;> simp [Value.isNull]
  refine ⟨?_, fun k t => ?_, ?_⟩
  · rw [paramTexts, keys_wireTexts]
    exact h.nodup.sublist (List.filter_sublist.map _)
  · rw [paramTexts, mem_wireTexts]
    exact exists_congr fun v => by rw [List.mem_filter, hkept, and_assoc]
  · rw [paramTexts, wireTexts, ne_eq, List.map_eq_nil_iff, List.filter_eq_nil_iff]
    push Not
    exact exists_congr fun e => and_congr_right fun _ => hkept e.2

/-! ### What the headers are -/

/-- **The headers over declared ones**: these, the one that says who asks unless it is declared, and
the one that announces a JSON body, if one is sent, unless a declared one names a content type. -/
structure IsHeadersOf (userAgent : String) (declared : Entries Value) (sendsJson : Prop)
    (headers : Entries String) : Prop where
  nodup : headers.keys.Nodup
  mem_iff : ∀ k t, (k, t) ∈ headers ↔
    (∃ v, (k, v) ∈ declared ∧ t = wireText v) ∨
    (k = userAgentHeader ∧ t = userAgent ∧ userAgentHeader ∉ declared.keys) ∨
    (k = contentTypeHeader ∧ t = "application/json" ∧ sendsJson ∧
      ∀ l ∈ declared.keys, headerName l ≠ headerName contentTypeHeader)

/-- The declared headers over the one that says who asks. -/
def headerTexts (userAgent : String) (es : Entries Value) : Entries String :=
  Entries.merge [(userAgentHeader, userAgent)] (wireTexts es)

/-- The headers with the one that announces a JSON body, if one is sent and none of them names a
content type. -/
def announced (sendsJson : Prop) [Decidable sendsJson] (headers : Entries String) :
    Entries String :=
  if sendsJson ∧ namesContentType headers = false then
    Entries.insert contentTypeHeader "application/json" headers
  else headers

theorem buildHeaders_eq (userAgent : String) (a : RemoteAction) (contexts : Entries Value) :
    buildHeaders userAgent a contexts =
      (declared "headers" a.headers contexts).map (headerTexts userAgent) :=
  (map_declared (headerTexts userAgent)).symm

theorem keyedByTexts_headerTexts (userAgent : String) (h : es.KeyedByTexts) :
    (headerTexts userAgent es).KeyedByTexts :=
  (Entries.KeyedByTexts.nil.insert _ _).merge ((keys_wireTexts es).symm ▸ h.texts)

theorem mem_headerTexts {userAgent : String} (h : es.KeyedByTexts) :
    (k, t) ∈ headerTexts userAgent es ↔ (∃ v, (k, v) ∈ es ∧ t = wireText v) ∨
      (k = userAgentHeader ∧ t = userAgent ∧ userAgentHeader ∉ es.keys) := by
  have hone : Entries.KeyedByTexts [(userAgentHeader, userAgent)] :=
    Entries.KeyedByTexts.nil.insert _ _
  have hwire : (wireTexts es).KeyedByTexts := h.of_sublist (keys_wireTexts es ▸ List.Sublist.refl _)
  rw [headerTexts, hone.mem_merge_iff hwire, mem_wireTexts, keys_wireTexts, List.mem_singleton,
    Prod.mk.injEq, and_assoc]
  exact or_congr_right (and_congr_right fun hk => by rw [hk])

/-- The headers that are sent without being declared have different names. -/
theorem headerName_userAgentHeader_ne :
    headerName userAgentHeader ≠ headerName contentTypeHeader := by decide

/-- The headers name a content type if the declared ones do. -/
theorem namesContentType_headerTexts {userAgent : String} (h : es.KeyedByTexts) :
    namesContentType (headerTexts userAgent es) = false ↔
      ∀ l ∈ es.keys, headerName l ≠ headerName contentTypeHeader := by
  have hname : headerName contentTypeHeader = "content-type".toList := by decide
  rw [namesContentType, List.any_eq_false, ← hname]
  simp only [decide_eq_true_eq]
  constructor
  · intro hnone l hl
    obtain ⟨⟨k, v⟩, hmem, rfl⟩ := List.mem_map.mp hl
    exact hnone (k, wireText v) ((mem_headerTexts h).mpr (.inl ⟨v, hmem, rfl⟩))
  · rintro hnone ⟨k, t⟩ hmem
    -- The default that says who asks names no content type, so the declared ones decide.
    rcases (mem_headerTexts h).mp hmem with ⟨v, hv, -⟩ | ⟨rfl, -, -⟩
    · exact hnone k (Entries.mem_keys_of_mem hv)
    · exact headerName_userAgentHeader_ne

theorem mem_announced {sendsJson : Prop} [Decidable sendsJson] {headers : Entries String} :
    (k, t) ∈ announced sendsJson headers ↔ (k, t) ∈ headers ∨
      (k = contentTypeHeader ∧ t = "application/json" ∧ sendsJson ∧
        namesContentType headers = false) := by
  unfold announced
  split
  · next hadd =>
    obtain ⟨hsends, hnone⟩ := hadd
    -- No header is replaced: one of that very name would name a content type.
    have hother : contentTypeHeader ∉ headers.keys := by
      intro hmem
      obtain ⟨e, he, hkey⟩ := List.mem_map.mp hmem
      refine List.any_eq_false.mp hnone e he (decide_eq_true ?_)
      rw [hkey]
      decide
    rw [contentTypeHeader, Entries.insert_of_not_mem hother, List.mem_append, List.mem_singleton,
      Prod.mk.injEq]
    simp only [hsends, hnone, and_true]
  · next hadd =>
    simp only [hadd, and_false, or_false]

/-- **The headers that are sent.** -/
theorem isHeadersOf_announced {userAgent : String} {sendsJson : Prop} [Decidable sendsJson]
    (h : es.KeyedByTexts) :
    IsHeadersOf userAgent es sendsJson (announced sendsJson (headerTexts userAgent es)) := by
  have htexts := keyedByTexts_headerTexts userAgent h
  constructor
  · unfold announced
    split
    · exact (htexts.insert _ _).nodup
    · exact htexts.nodup
  · intro k t
    rw [mem_announced, mem_headerTexts h, namesContentType_headerTexts h, or_assoc]

/-! ### What the body is -/

/-- **The body for a rendered text**, by the content type. -/
inductive Encodes : ContentType → String → Body → Prop
  | json {text : String} {v : Value} : Json.read? text = some v →
      Encodes .json text (.content (Json.print .asciiLine v))
  | text (text : String) : Encodes .text text (.content text)
  | urlEncoding {text : String} {es : Entries Value} : Json.read? text = some (.obj es) →
      Encodes .urlEncoding text (.form (wireTexts es))
  | formData {text : String} {es : Entries Value} : Json.read? text = some (.obj es) →
      Encodes .formData text (.parts (wireTexts es))

theorem buildBody_eq_ok {kind : ContentType} {headers headers' : Entries String} {body : Body} :
    buildBody kind headers text = .ok (headers', body) ↔
      Encodes kind text body ∧ headers' = announced (kind = .json) headers := by
  -- Only a JSON body is announced.
  have hsame : kind ≠ .json → announced (kind = .json) headers = headers := fun hne =>
    if_neg fun hadd => hne hadd.1
  constructor
  · intro h
    cases kind with
    | json =>
      unfold buildBody at h
      dsimp only at h
      split at h
      · cases h
      · next v hread =>
        cases h
        refine ⟨.json hread, ?_⟩
        unfold announced
        cases namesContentType headers <;> rfl
    | text =>
      cases h
      exact ⟨.text text, (hsame nofun).symm⟩
    | urlEncoding =>
      obtain ⟨es, hobject, heq⟩ := map_eq_ok.mp h
      cases heq
      exact ⟨.urlEncoding (objectOf_eq_ok.mp hobject), (hsame nofun).symm⟩
    | formData =>
      obtain ⟨es, hobject, heq⟩ := map_eq_ok.mp h
      cases heq
      exact ⟨.formData (objectOf_eq_ok.mp hobject), (hsame nofun).symm⟩
  · rintro ⟨hencodes, rfl⟩
    cases hencodes with
    | json hread =>
      unfold buildBody announced
      rw [hread]
      cases namesContentType headers <;> rfl
    | text =>
      rw [hsame nofun]
      rfl
    | urlEncoding hread =>
      rw [hsame nofun, buildBody, objectOf_eq_ok.mpr hread]
      rfl
    | formData hread =>
      rw [hsame nofun, buildBody, objectOf_eq_ok.mpr hread]
      rfl

end Request

end WizardLogic
