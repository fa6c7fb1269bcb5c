import Mathlib
import WizardLogic.Proofs.Remote.Request

/-!
# Header names in any letter case

The receiver of a request does not tell header names apart by their letter case, but the headers are
entries, which do. Of a remote action whose declared headers are different names in any case, the
headers that are sent hold all that it declares. Neither default comes in their way if it is spelled
as they are, and a content type is not even added where one is declared in another case. The one
that says who asks is: it stands beside a declared one that is spelled otherwise. That is the only
way in which two headers of a request come to have one name (`RemoteAction.headers_of_build`).
-/

namespace WizardLogic

namespace Request

variable {userAgent : String} {es : Entries Value} {sendsJson : Prop} {headers : Entries String}

/-- **No two entries have one name as headers**, in lower case. -/
def HaveOwnNames {α : Type} (es : Entries α) : Prop := (es.keys.map headerName).Nodup

theorem HaveOwnNames.eq_of_headerName {α : Type} {es : Entries α} (h : HaveOwnNames es) {k l : Key}
    (hk : k ∈ es.keys) (hl : l ∈ es.keys) (heq : headerName k = headerName l) : k = l :=
  List.inj_on_of_nodup_map h hk hl heq

namespace IsHeadersOf

variable (h : IsHeadersOf userAgent es sendsJson headers)
include h

/-- Every declared header is sent, as it is declared. -/
theorem mem_of_mem {k : Key} {v : Value} (hmem : (k, v) ∈ es) : (k, wireText v) ∈ headers :=
  (h.mem_iff k _).mpr (.inl ⟨v, hmem, rfl⟩)

theorem mem_keys_of_mem_keys {k : Key} (hk : k ∈ es.keys) : k ∈ headers.keys := by
  obtain ⟨⟨k, v⟩, hmem, rfl⟩ := List.mem_map.mp hk
  exact Entries.mem_keys_of_mem (h.mem_of_mem hmem)

/-- The header of a name that is declared: it is the declared one, or says who asks in the spelling
of its own. -/
theorem eq_or_eq_of_headerName (hnames : HaveOwnNames es) {k l : Key} {v : Value} {t : String}
    (hk : (k, v) ∈ es) (hl : (l, t) ∈ headers) (heq : headerName l = headerName k) :
    (l, t) = (k, wireText v) ∨
      (l = userAgentHeader ∧ t = userAgent ∧ userAgentHeader ∉ es.keys) := by
  have hkey := Entries.mem_keys_of_mem hk
  rcases (h.mem_iff l t).mp hl with ⟨w, hw, rfl⟩ | hagent | ⟨rfl, -, -, hnone⟩
  -- Two declared headers of one name are the same one.
  · have hsame := hnames.eq_of_headerName (Entries.mem_keys_of_mem hw) hkey heq
    subst hsame
    exact .inl (List.inj_on_of_nodup_map h.nodup (h.mem_of_mem hw) (h.mem_of_mem hk) rfl)
  · exact .inr hagent
  -- The content type is announced only if no declared header has its name.
  · exact absurd heq.symm (hnone k hkey)

/-- **When the headers have names of their own**: exactly if no declared one names who asks in
another spelling. -/
theorem haveOwnNames_iff (hnames : HaveOwnNames es) :
    HaveOwnNames headers ↔
      ∀ k ∈ es.keys, headerName k = headerName userAgentHeader → k = userAgentHeader := by
  constructor
  · intro hown k hk hname
    by_cases hagent : userAgentHeader ∈ es.keys
    · exact hnames.eq_of_headerName hk hagent hname
    · have hdefault : (userAgentHeader, userAgent) ∈ headers :=
        (h.mem_iff _ _).mpr (.inr (.inl ⟨rfl, rfl, hagent⟩))
      exact hown.eq_of_headerName (h.mem_keys_of_mem_keys hk)
        (Entries.mem_keys_of_mem hdefault) hname
  · intro hspelled
    -- A default that is sent has a name that no declared header has.
    have hagent : userAgentHeader ∉ es.keys →
        ∀ k ∈ es.keys, headerName k ≠ headerName userAgentHeader :=
      fun hother k hk heq => hother (hspelled k hk heq ▸ hk)
    refine h.nodup.map_on fun k hk l hl heq => ?_
    obtain ⟨⟨k, t⟩, hkt, rfl⟩ := List.mem_map.mp hk
    obtain ⟨⟨l, u⟩, hlu, rfl⟩ := List.mem_map.mp hl
    rcases (h.mem_iff k t).mp hkt with ⟨v, hv, -⟩ | ⟨rfl, -, hother⟩ | ⟨rfl, -, -, hnone⟩
    · have hdeclared := Entries.mem_keys_of_mem hv
      rcases (h.mem_iff l u).mp hlu with ⟨w, hw, -⟩ | ⟨rfl, -, hother⟩ | ⟨rfl, -, -, hnone⟩
      · exact hnames.eq_of_headerName hdeclared (Entries.mem_keys_of_mem hw) heq
      · exact absurd heq (hagent hother k hdeclared)
      · exact absurd heq (hnone k hdeclared)
    · rcases (h.mem_iff l u).mp hlu with ⟨w, hw, -⟩ | ⟨rfl, -, -⟩ | ⟨rfl, -, -, -⟩
      · exact absurd heq.symm (hagent hother l (Entries.mem_keys_of_mem hw))
      · rfl
      · exact absurd heq headerName_userAgentHeader_ne
    · rcases (h.mem_iff l u).mp hlu with ⟨w, hw, -⟩ | ⟨rfl, -, -⟩ | ⟨rfl, -, -, -⟩
      · exact absurd heq.symm (hnone l (Entries.mem_keys_of_mem hw))
      · exact absurd heq.symm headerName_userAgentHeader_ne
      · rfl

end IsHeadersOf

end Request

namespace RemoteAction

/-- **What becomes of declared headers** that have names of their own. Each of them is sent as it is
declared, and nothing else is sent under its name in any letter case, except that the default which
says who asks stands beside a declared one in another spelling. So the headers of the request have
names of their own exactly if no declared one is spelled so. -/
theorem headers_of_build {userAgent : String} {a : RemoteAction} {contexts es : Entries Value}
    {r : Request} (hbuild : Request.build userAgent a contexts = .ok r)
    (hdeclared : Request.Declares contexts a.headers es) (hnames : Request.HaveOwnNames es) :
    (∀ k v, (k, v) ∈ es → (k, Request.wireText v) ∈ r.headers ∧
      ∀ l t, (l, t) ∈ r.headers → Request.headerName l = Request.headerName k →
        (l, t) = (k, Request.wireText v) ∨
          (l = Request.userAgentHeader ∧ t = userAgent ∧ Request.userAgentHeader ∉ es.keys)) ∧
    (Request.HaveOwnNames r.headers ↔ ∀ k ∈ es.keys,
      Request.headerName k = Request.headerName Request.userAgentHeader →
        k = Request.userAgentHeader) := by
  obtain ⟨es', hes', hheaders⟩ := (describes_of_build hbuild).headers
  cases hdeclared.unique hes'
  exact ⟨fun k v hmem => ⟨hheaders.mem_of_mem hmem,
    fun l t hl heq => hheaders.eq_or_eq_of_headerName hnames hmem hl heq⟩,
    hheaders.haveOwnNames_iff hnames⟩

/-! ### Declared defaults -/

/-- A remote action that declares headers and sends a JSON body. -/
def withHeaders (headers : String) : RemoteAction :=
  ⟨"headers", .post, statusAddress, .json, some "null", none, some headers, none, .query, none, []⟩

theorem build_withHeaders (userAgent : String) {headers : String} {es : Entries Value}
    (h : Request.Declares [] (some headers) es) :
    Request.build userAgent (withHeaders headers) [] = .ok ⟨.post, statusAddress,
      Request.announced (withHeaders headers).SendsJson (Request.headerTexts userAgent es), [],
      .content "null"⟩ := by
  have hbodyless : ¬ (withHeaders headers).IsBodyless := by
    rw [isBodyless_iff]
    exact not_or.mpr ⟨nofun, nofun⟩
  have hrender : Template.render (.str "null") [] = .ok "null" :=
    eq_ok_of_toOption (by decide +kernel)
  have hencodes : Request.Encodes .json "null" (.content "null") :=
    .json (v := .null) (by cbv)
  have hbody : (withHeaders headers).Carries [] (.content "null") :=
    .encoded hbodyless rfl hrender hencodes
  have hparams : Request.Declares [] (withHeaders headers).params [] := .absent
  have hurl : Template.render (.str (withHeaders headers).url) [] = .ok statusAddress :=
    render_statusAddress
  exact build_of_declares hurl h hparams hbody userAgent

/-- Headers that name who asks as the default does, and the content type in other letters. -/
def spelledHeaders : String := "\x7b\"User-Agent\": \"me\", \"content-type\": \"text/csv\"\x7d"

theorem declares_spelledHeaders : Request.Declares [] (some spelledHeaders)
    [(.str "User-Agent", .str "me"), (.str "content-type", .str "text/csv")] := by
  have hrender : Template.render (.str spelledHeaders) [] = .ok spelledHeaders :=
    eq_ok_of_toOption (by decide +kernel)
  exact .object (by decide) hrender (by cbv)

/-- They replace both defaults: nothing else is sent under the two names. -/
theorem headers_of_build_spelledHeaders :
    ∃ r, Request.build "engine" (withHeaders spelledHeaders) [] = .ok r ∧
      Request.HaveOwnNames r.headers ∧
      (.str "User-Agent", "me") ∈ r.headers ∧ (.str "content-type", "text/csv") ∈ r.headers ∧
      ∀ k t, (k, t) ∈ r.headers → Request.headerName k = "user-agent".toList → t = "me" := by
  have hbuild := build_withHeaders "engine" declares_spelledHeaders
  have hnames : Request.HaveOwnNames
      [(Key.str "User-Agent", Value.str "me"), (Key.str "content-type", Value.str "text/csv")] := by
    unfold Request.HaveOwnNames
    decide
  obtain ⟨hsent, hown⟩ := headers_of_build hbuild declares_spelledHeaders hnames
  obtain ⟨hagent, hsame⟩ := hsent _ _ List.mem_cons_self
  obtain ⟨hkind, -⟩ := hsent _ _ (List.mem_cons_of_mem _ List.mem_cons_self)
  refine ⟨_, hbuild, hown.mpr (by decide), hagent, hkind, fun k t hmem hname => ?_⟩
  rcases hsame k t hmem (hname.trans (by decide)) with heq | ⟨-, -, hother⟩
  · exact congrArg Prod.snd heq
  · exact absurd List.mem_cons_self hother

/-- Headers that name who asks in other letters. -/
def lowerHeaders : String := "\x7b\"user-agent\": \"me\"\x7d"

theorem declares_lowerHeaders :
    Request.Declares [] (some lowerHeaders) [(.str "user-agent", .str "me")] := by
  have hrender : Template.render (.str lowerHeaders) [] = .ok lowerHeaders :=
    eq_ok_of_toOption (by decide +kernel)
  exact .object (by decide) hrender (by cbv)

/-- They do not replace the default, which is sent beside them. -/
theorem not_haveOwnNames_lowerHeaders :
    ∃ r es, Request.build "engine" (withHeaders lowerHeaders) [] = .ok r ∧
      Request.Declares [] (withHeaders lowerHeaders).headers es ∧ Request.HaveOwnNames es ∧
      ¬ Request.HaveOwnNames r.headers ∧ (.str "user-agent", "me") ∈ r.headers ∧
      (Request.userAgentHeader, "engine") ∈ r.headers := by
  have hnames : Request.HaveOwnNames [(Key.str "user-agent", Value.str "me")] := by
    unfold Request.HaveOwnNames
    decide
  have hbuild := build_withHeaders "engine" declares_lowerHeaders
  obtain ⟨es, hes, hheaders⟩ := (describes_of_build hbuild).headers
  cases hes.unique declares_lowerHeaders
  refine ⟨_, _, hbuild, hes, hnames, ?_, hheaders.mem_of_mem List.mem_cons_self,
    (hheaders.mem_iff _ _).mpr (.inr (.inl ⟨rfl, rfl, ?_⟩))⟩
  · rw [hheaders.haveOwnNames_iff hnames]
    intro hspelled
    have heq := hspelled (.str "user-agent") List.mem_cons_self (by decide)
    exact absurd heq (by decide)
  · decide

end RemoteAction

end WizardLogic
