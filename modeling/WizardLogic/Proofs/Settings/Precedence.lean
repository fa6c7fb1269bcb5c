import Mathlib
import WizardLogic.Proofs.Document.Names
import WizardLogic.Proofs.Settings.EnvironmentFile
import WizardLogic.Proofs.Settings.Kinds
import WizardLogic.Proofs.Value.Entries

/-!
# The sources of settings

Four sources may say something about a setting, and the first one that does decides what it is
(`Setting.Resolves`): the caller, the environment, the file, and last the default, which is null
where there is none. An empty text of the environment or of the file says something; null does not.

Only what is said about a setting itself matters (`Setting.Resolves.of_sameAbout`), if there are no
references in the file. Where names are different in upper case, so are the variables of settings,
and what is added for one setting changes no other one. If the caller gives values of the right
kinds, then settings are refused only for a required one that resolves to null
(`Settings.loadBeside_resolves`).
-/

namespace WizardLogic

open EnvironmentFile (IsLiteral CannotExtend written? bindings)

theorem Sources.upper_eq_of_variableName_eq {src : Sources} {n m : String}
    (h : src.variableName n = src.variableName m) : Text.upper n.toList = Text.upper m.toList := by
  have hlists := congrArg String.toList h
  simpa [variableName] using hlists

namespace Setting

variable {s t : Setting} {src src' : Sources} {file? file?' : Option String} {v v' : Value}

/-! ### The first source that says something -/

/-- **What a setting resolves to**: what the caller says, else what is made of the text that its
variable has in the environment, else of the one that the file writes for it, else the default. -/
inductive Resolves (s : Setting) (src : Sources) (file? : Option String) : Value → Prop
  | caller (hgiven : s.given src ≠ .null) : Resolves s src file? (s.given src)
  | environment {raw : String} (hgiven : s.given src = .null)
    (hraw : src.environment.lookup (src.variableName s.name) = some raw) :
    Resolves s src file? (s.ofText raw)
  | file {raw : String} (hgiven : s.given src = .null)
    (henvironment : src.environment.lookup (src.variableName s.name) = none)
    (hraw : written? file? (src.variableName s.name) = some raw) :
    Resolves s src file? (s.ofText raw)
  | default (hgiven : s.given src = .null)
    (henvironment : src.environment.lookup (src.variableName s.name) = none)
    (hfile : written? file? (src.variableName s.name) = none) :
    Resolves s src file? ((src.defaults.get? (.str s.name)).getD .null)

/-- A setting resolves to one value. -/
theorem Resolves.unique (h : s.Resolves src file? v) (h' : s.Resolves src file? v') : v = v' := by
  cases h <;> cases h' <;> simp_all

theorem inherited_of_some (src : Sources) {raw : String}
    (h : src.environment.lookup (src.variableName s.name) = some raw) :
    s.inherited src = s.ofText raw := by
  rw [inherited, h]

theorem inherited_of_none (src : Sources)
    (h : src.environment.lookup (src.variableName s.name) = none) :
    s.inherited src = (src.defaults.get? (.str s.name)).getD .null := by
  rw [inherited, h]

/-- **What is found for a setting is what it resolves to.** -/
theorem resolves_of_find {environment : EnvironmentFile.Environment} (hliteral : IsLiteral file?)
    (hextend : EnvironmentFile.extend src.environment file? = .ok environment)
    (h : s.find { src with environment } = .ok v) : s.Resolves src file? v := by
  have hlookup := EnvironmentFile.lookup_of_extend hextend (src.variableName s.name)
  rw [EnvironmentFile.textOf?_of_isLiteral hliteral] at hlookup
  by_cases hgiven : s.given src = .null
  · have hfind : s.find { src with environment } = .ok (s.inherited { src with environment }) :=
      find_of_given_eq_null hgiven
    obtain rfl := Except.ok.inj (hfind.symm.trans h)
    -- The extended environment has the variable from the first of the two that has it.
    cases henvironment : src.environment.lookup (src.variableName s.name) with
    | some raw =>
      rw [henvironment, Option.some_or] at hlookup
      rw [inherited_of_some { src with environment } hlookup]
      exact .environment hgiven henvironment
    | none =>
      rw [henvironment, Option.none_or] at hlookup
      cases hfile : written? file? (src.variableName s.name) with
      | some raw =>
        rw [inherited_of_some { src with environment } (hlookup.trans hfile)]
        exact .file hgiven henvironment hfile
      | none =>
        rw [inherited_of_none { src with environment } (hlookup.trans hfile)]
        exact .default hgiven henvironment hfile
  · have hgiven' : s.given { src with environment } ≠ .null := hgiven
    rw [find_of_given_ne_null hgiven'] at h
    split at h
    · obtain rfl := Except.ok.inj h
      exact .caller hgiven
    · cases h

/-! ### Two runs -/

/-- The sources of two runs say the same about a setting. -/
structure SameAbout (s : Setting) (src src' : Sources) (file? file?' : Option String) : Prop where
  given : s.given src' = s.given src
  environment : src'.environment.lookup (src'.variableName s.name) =
    src.environment.lookup (src.variableName s.name)
  file : written? file?' (src'.variableName s.name) = written? file? (src.variableName s.name)
  default : src'.defaults.get? (.str s.name) = src.defaults.get? (.str s.name)

/-- **A setting resolves to the same** where the sources say the same about it. -/
theorem Resolves.of_sameAbout (h : s.Resolves src file? v)
    (hsame : s.SameAbout src src' file? file?') : s.Resolves src' file?' v := by
  cases h with
  | caller hgiven =>
    rw [← hsame.given] at hgiven ⊢
    exact .caller hgiven
  | environment hgiven hraw =>
    exact .environment (hsame.given.trans hgiven) (hsame.environment.trans hraw)
  | file hgiven henvironment hraw =>
    exact .file (hsame.given.trans hgiven) (hsame.environment.trans henvironment)
      (hsame.file.trans hraw)
  | default hgiven henvironment hfile =>
    rw [← hsame.default]
    exact .default (hsame.given.trans hgiven) (hsame.environment.trans henvironment)
      (hsame.file.trans hfile)

/-- **Something is added for a setting** to one of the sources: a value, or a variable at any place
of the environment or of the file. -/
inductive Adds (t : Setting) (src : Sources) (file? : Option String) :
    Sources → Option String → Prop
  | caller (v : Value) :
    Adds t src file? { src with overrides := src.overrides.insert (.str t.name) v } file?
  | environment {before after : EnvironmentFile.Environment} (raw : String)
    (h : src.environment = before ++ after) :
    Adds t src file?
      { src with environment := before ++ (src.variableName t.name, raw) :: after } file?
  | file {before after : List EnvironmentFile.Binding} {value : Option (List Char)}
    {file?' : Option String} (h : bindings file? = before ++ after)
    (h' : bindings file?' = before ++ (src.variableName t.name, value) :: after) :
    Adds t src file? src file?'
  | default (v : Value) :
    Adds t src file? { src with defaults := src.defaults.insert (.str t.name) v } file?

/-- What is added for one setting says nothing about another one. -/
theorem Adds.sameAbout (h : t.Adds src file? src' file?')
    (hname : Text.upper s.name.toList ≠ Text.upper t.name.toList) :
    s.SameAbout src src' file? file?' := by
  have hvariable : src.variableName s.name ≠ src.variableName t.name :=
    fun heq => hname (Sources.upper_eq_of_variableName_eq heq)
  have hkey : ¬ (Key.str s.name).same (.str t.name) = true := fun heq => by
    rw [Key.str.inj (Key.str_same.mp heq)] at hname
    exact hname rfl
  cases h with
  | caller v => exact ⟨by rw [given, Entries.get?_insert, if_neg hkey, given], rfl, rfl, rfl⟩
  | environment raw h =>
    refine ⟨rfl, ?_, rfl, rfl⟩
    rw [h]
    exact EnvironmentFile.lookup_append_cons_of_ne hvariable _ _ _
  | file h h' =>
    exact ⟨rfl, rfl, EnvironmentFile.written?_of_bindings_eq_append h h' hvariable, rfl⟩
  | default v => exact ⟨rfl, rfl, rfl, by rw [Entries.get?_insert, if_neg hkey]⟩

end Setting

namespace Settings

variable {settings : List Setting} {src src' : Sources} {file? file?' : Option String}
  {required required' : List String} {found found' : Entries Value} {name : String}

/-! ### All settings -/

/-- The names of settings are different, also if case is ignored. -/
def DifferIgnoringCase (settings : List Setting) : Prop :=
  (settings.map fun s => Text.upper s.name.toList).Nodup

instance (settings : List Setting) : Decidable (DifferIgnoringCase settings) :=
  inferInstanceAs (Decidable (List.Nodup _))

theorem DifferIgnoringCase.nodup (h : DifferIgnoringCase settings) :
    (settings.map Setting.name).Nodup := by
  refine List.Nodup.of_map (fun name : String => Text.upper name.toList) ?_
  rw [List.map_map]
  exact h

/-- **Settings are what they resolve to**, each under its name. -/
def Resolved (settings : List Setting) (src : Sources) (file? : Option String)
    (found : Entries Value) : Prop :=
  List.Forall₂ (fun s p => p.1 = .str s.name ∧ s.Resolves src file? p.2) settings found

/-- What is found under a name belongs to the first setting with the name. -/
theorem Resolved.rel_get? (h : Resolved settings src file? found) (name : String) :
    Option.Rel (fun s v => s.Resolves src file? v) (settings.find? fun s => s.name = name)
      (found.get? (.str name)) := by
  induction h with
  | nil => exact .none
  | @cons s p settings found hfirst hrest ih =>
    obtain ⟨k, v⟩ := p
    obtain ⟨rfl, hv⟩ := hfirst
    by_cases hname : s.name = name
    · rw [List.find?_cons_of_pos (by simpa using hname), Entries.get?,
        if_pos (Key.str_same.mpr (by rw [hname]))]
      exact .some hv
    · rw [List.find?_cons_of_neg (by simpa using hname), Entries.get?,
        if_neg (fun hsame => hname (Key.str.inj (Key.str_same.mp hsame)))]
      exact ih

theorem Resolved.exists_get? (h : Resolved settings src file? found)
    (hnames : (settings.map Setting.name).Nodup) {s : Setting} (hs : s ∈ settings) :
    ∃ v, found.get? (.str s.name) = some v ∧ s.Resolves src file? v := by
  have hfirst : (settings.find? fun t => t.name = s.name) = some s :=
    ((findsByName_find? hnames).found s.name s).mpr ⟨hs, rfl⟩
  have hrel := h.rel_get? s.name
  rw [hfirst] at hrel
  cases hget : found.get? (.str s.name) with
  | none =>
    rw [hget] at hrel
    cases hrel
  | some v =>
    rw [hget] at hrel
    cases hrel with
    | some hv => exact ⟨v, rfl, hv⟩

theorem Resolved.get?_eq_none (h : Resolved settings src file? found)
    (hname : ∀ s ∈ settings, s.name ≠ name) : found.get? (.str name) = none := by
  have hnone : (settings.find? fun s => s.name = name) = none :=
    List.find?_eq_none.mpr fun s hs heq => hname s hs (by simpa using heq)
  have hrel := h.rel_get? name
  rw [hnone] at hrel
  cases hget : found.get? (.str name) with
  | none => rfl
  | some v =>
    rw [hget] at hrel
    cases hrel

/-! ### Required settings -/

/-- A name lacks a value if the setting with the name, should there be one, resolves to null. -/
def LacksValue (settings : List Setting) (src : Sources) (file? : Option String) (name : String) :
    Prop :=
  ∀ s ∈ settings, s.name = name → s.Resolves src file? .null

/-- The first of the required names that lacks a value. -/
def IsFirstLacking (settings : List Setting) (src : Sources) (file? : Option String)
    (required : List String) (name : String) : Prop :=
  ∃ before after, required = before ++ name :: after ∧ LacksValue settings src file? name ∧
    ∀ other ∈ before, ¬ LacksValue settings src file? other

theorem Resolved.isNull_iff (h : Resolved settings src file? found)
    (hnames : (settings.map Setting.name).Nodup) (name : String) :
    ((found.get? (.str name)).getD .null).isNull = true ↔ LacksValue settings src file? name := by
  by_cases hname : ∃ s ∈ settings, s.name = name
  · obtain ⟨s, hs, rfl⟩ := hname
    obtain ⟨v, hv, hresolves⟩ := h.exists_get? hnames hs
    rw [hv, Option.getD_some]
    constructor
    · intro hnull t ht hname
      obtain rfl := List.inj_on_of_nodup_map hnames ht hs hname
      cases v with
      | null => exact hresolves
      | _ => cases hnull
    · intro hlacks
      rw [hresolves.unique (hlacks s hs rfl)]
      rfl
  · have hother : ∀ s ∈ settings, s.name ≠ name := fun s hs heq => hname ⟨s, hs, heq⟩
    rw [h.get?_eq_none hother]
    exact iff_of_true rfl fun s hs heq => absurd heq (hother s hs)

theorem Resolved.missing?_eq_some_iff (h : Resolved settings src file? found)
    (hnames : (settings.map Setting.name).Nodup) :
    missing? found required = some name ↔ IsFirstLacking settings src file? required name := by
  have hnot (other : String) : (!((found.get? (.str other)).getD .null).isNull) = true ↔
      ¬ LacksValue settings src file? other := by
    rw [← h.isNull_iff hnames, Bool.not_eq_true, Bool.not_eq_true']
  rw [missing?, List.find?_eq_some_iff_append, h.isNull_iff hnames]
  simp only [hnot]
  constructor
  · rintro ⟨hname, before, after, hrequired, hbefore⟩
    exact ⟨before, after, hrequired, hname, hbefore⟩
  · rintro ⟨before, after, hrequired, hname, hbefore⟩
    exact ⟨hname, before, after, hrequired, hbefore⟩

/-- **Settings for which the caller gives what fits are found**, and then looked through for the
required ones. -/
theorem exists_resolved_of_fits {environment : EnvironmentFile.Environment}
    (hliteral : IsLiteral file?)
    (hextend : EnvironmentFile.extend src.environment file? = .ok environment)
    (hfits : ∀ s ∈ settings, s.Fits (s.given src)) (required : List String) :
    ∃ found, Resolved settings src file? found ∧
      ∀ e, load settings { src with environment } required = .error e ↔
        ∃ name, missing? found required = some name ∧
          e = .noSetting name (src.variableName name) := by
  cases hentries : (settings.mapM fun s => do
      return (Key.str s.name, ← s.find { src with environment }) :
        Except Error (Entries Value)) with
  | error e =>
    obtain ⟨s, hs, hentry⟩ := exists_of_mapM_eq_error hentries
    obtain hfind | ⟨v, -, hentry⟩ := error_or_of_bind_eq_error hentry
    · exact absurd (hfits s hs) (Setting.find_eq_error_iff.mp hfind).1
    · cases hentry
  | ok found =>
    refine ⟨found, (forall₂_of_mapM_eq_ok hentries).imp fun s p hentry => ?_, fun e => ?_⟩
    · obtain ⟨v, hfind, hentry⟩ := exists_of_bind_eq_ok hentry
      obtain rfl := Except.ok.inj hentry
      exact ⟨rfl, Setting.resolves_of_find hliteral hextend hfind⟩
    · rw [load, hentries]
      simp only [bind, Except.bind]
      cases missing? found required with
      | none => simp
      | some name => simp [eq_comm, Sources.variableName]

/-! ### Loading -/

theorem resolved_of_loadBeside (hliteral : IsLiteral file?)
    (h : loadBeside file? settings src required = .ok found) :
    Resolved settings src file? found := by
  cases hextend : EnvironmentFile.extend src.environment file? with
  | error f =>
    simp only [loadBeside, hextend] at h
    cases h
  | ok environment =>
    simp only [loadBeside, hextend, mapError_eq_ok_iff] at h
    exact (find_of_load h).imp fun s p hp =>
      ⟨hp.1, Setting.resolves_of_find hliteral hextend hp.2⟩

/-- **What loading fails for** if what the caller gives fits: the file, or the first of the required
settings that lacks a value. -/
theorem loadBeside_eq_error_iff (hliteral : IsLiteral file?)
    (hnames : (settings.map Setting.name).Nodup) (hfits : ∀ s ∈ settings, s.Fits (s.given src))
    (f : Failure) : loadBeside file? settings src required = .error f ↔
      (f = .fault .badValue ∧ CannotExtend src.environment file?) ∨
        (¬ CannotExtend src.environment file? ∧
          ∃ name, IsFirstLacking settings src file? required name ∧
            f = .error (.noSetting name (src.variableName name))) := by
  cases hextend : EnvironmentFile.extend src.environment file? with
  | error g =>
    obtain ⟨rfl, hcannot⟩ := EnvironmentFile.extend_eq_error_iff.mp hextend
    simp only [loadBeside, hextend, Except.error.injEq]
    rw [eq_comm, and_iff_left hcannot, or_iff_left fun h => h.1 hcannot]
  | ok environment =>
    have hcan : ¬ CannotExtend src.environment file? := fun hcannot => by
      rw [EnvironmentFile.extend_eq_error_iff.mpr ⟨rfl, hcannot⟩] at hextend
      cases hextend
    rw [or_iff_right fun h => hcan h.2, and_iff_right hcan]
    obtain ⟨found, hfound, hload⟩ := exists_resolved_of_fits hliteral hextend hfits required
    simp only [loadBeside, hextend, mapError_eq_error_iff, hload,
      ← hfound.missing?_eq_some_iff hnames]
    constructor
    · rintro ⟨e, ⟨name, hname, rfl⟩, rfl⟩
      exact ⟨name, hname, rfl⟩
    · rintro ⟨name, hname, rfl⟩
      exact ⟨_, ⟨name, hname, rfl⟩, rfl⟩

/-- Two runs find the same for a setting that their sources say the same about. -/
theorem get?_eq_of_sameAbout (hnames : (settings.map Setting.name).Nodup)
    (h : Resolved settings src file? found) (h' : Resolved settings src' file?' found')
    {s : Setting} (hs : s ∈ settings) (hsame : s.SameAbout src src' file? file?') :
    found'.get? (.str s.name) = found.get? (.str s.name) := by
  obtain ⟨v, hv, hresolves⟩ := h.exists_get? hnames hs
  obtain ⟨v', hv', hresolves'⟩ := h'.exists_get? hnames hs
  rw [hv, hv', hresolves'.unique (hresolves.of_sameAbout hsame)]

/-- **The sources of settings.** Let the names of settings be different, also if case is ignored,
and the file be literal. Settings that are loaded are what they resolve to. If what the caller gives
fits, then loading fails exactly if the environment cannot be extended by the file, or else some
required setting lacks a value; it fails for the first one. What is added for one setting to one of
the sources does not change what another setting is. -/
theorem loadBeside_resolves (hnames : DifferIgnoringCase settings) (hliteral : IsLiteral file?)
    (src : Sources) (required : List String) :
    (∀ found, loadBeside file? settings src required = .ok found →
      Resolved settings src file? found) ∧
    ((∀ s ∈ settings, s.Fits (s.given src)) → ∀ f,
      loadBeside file? settings src required = .error f ↔
        (f = .fault .badValue ∧ CannotExtend src.environment file?) ∨
          (¬ CannotExtend src.environment file? ∧
            ∃ name, IsFirstLacking settings src file? required name ∧
              f = .error (.noSetting name (src.variableName name)))) ∧
    ∀ t ∈ settings, ∀ src' file?', t.Adds src file? src' file?' → IsLiteral file?' →
      ∀ required' found found', loadBeside file? settings src required = .ok found →
        loadBeside file?' settings src' required' = .ok found' →
          ∀ s ∈ settings, s ≠ t → found'.get? (.str s.name) = found.get? (.str s.name) := by
  refine ⟨fun found => resolved_of_loadBeside hliteral,
    loadBeside_eq_error_iff hliteral hnames.nodup, ?_⟩
  intro t ht src' file?' hadds hliteral' required' found found' hload hload' s hs hne
  have hname : Text.upper s.name.toList ≠ Text.upper t.name.toList :=
    fun heq => hne (List.inj_on_of_nodup_map hnames hs ht heq)
  exact get?_eq_of_sameAbout hnames.nodup (resolved_of_loadBeside hliteral hload)
    (resolved_of_loadBeside hliteral' hload') hs (hadds.sameAbout hname)

/-! ### Settings from all sources -/

/-- Five settings. -/
def sampleSettings : List Setting :=
  [⟨"endpoint", [.text]⟩, ⟨"retries", [.integer]⟩, ⟨"verbose", [.truth]⟩, ⟨"region", [.text]⟩,
    ⟨"mode", [.text]⟩]

/-- The caller, the environment and the defaults, of which each says something that an earlier
source overrules. -/
def sampleSources : Sources where
  overrides := [(.str "endpoint", .str "caller"), (.str "retries", .null)]
  environment := [("S_ENDPOINT", "environment"), ("S_RETRIES", "")]
  stem := "S_"
  defaults := [(.str "verbose", .bool false), (.str "region", .str "default")]

/-- A file with a text for two of the settings. -/
def sampleFile : String := "S_RETRIES=5\nS_VERBOSE=' Yes'\n"

/-- The file with a text for a third one. -/
def longerFile : String := "S_RETRIES=5\nS_MODE=fast\nS_VERBOSE=' Yes'\n"

/-- What is found: something of the caller, of the environment, of the file and of the defaults, and
null. -/
def sampleFound : Entries Value :=
  [(.str "endpoint", .str "caller"), (.str "retries", .str ""), (.str "verbose", .bool true),
    (.str "region", .str "default"), (.str "mode", .null)]

/-- What is found in the longer file. -/
def longerFound : Entries Value := sampleFound.insert (.str "mode") (.str "fast")

/-- Five settings are found in four sources. Of three that are required the second one is the first
to lack a value, and a text for it in the file does not change the others. -/
theorem loadBeside_resolves_sample :
    (loadBeside (some sampleFile) sampleSettings sampleSources ["verbose"] = .ok sampleFound ∧
      Resolved sampleSettings sampleSources (some sampleFile) sampleFound) ∧
    (loadBeside (some sampleFile) sampleSettings sampleSources ["region", "mode", "other"] =
        .error (.error (.noSetting "mode" "S_MODE")) ∧
      IsFirstLacking sampleSettings sampleSources (some sampleFile) ["region", "mode", "other"]
        "mode") ∧
    loadBeside (some longerFile) sampleSettings sampleSources ["mode"] = .ok longerFound ∧
      ∀ s ∈ sampleSettings, s ≠ ⟨"mode", [.text]⟩ →
        longerFound.get? (.str s.name) = sampleFound.get? (.str s.name) := by
  have hnames : DifferIgnoringCase sampleSettings := by decide
  have hfits : ∀ s ∈ sampleSettings, s.Fits (s.given sampleSources) := by
    simp only [sampleSettings, List.forall_mem_cons]
    exact ⟨.inr rfl, .inl rfl, .inl rfl, .inl rfl, .inl rfl, List.forall_mem_nil _⟩
  have hbindings : bindings (some sampleFile) =
      [("S_RETRIES", some ['5'])] ++ [("S_VERBOSE", some [' ', 'Y', 'e', 's'])] := by cbv
  have hbindings' : bindings (some longerFile) = [("S_RETRIES", some ['5'])] ++
      [("S_MODE", some ['f', 'a', 's', 't']), ("S_VERBOSE", some [' ', 'Y', 'e', 's'])] := by cbv
  have hliteral : IsLiteral (some sampleFile) :=
    EnvironmentFile.isLiteral_of_forall (by rw [hbindings]; decide)
  have hliteral' : IsLiteral (some longerFile) :=
    EnvironmentFile.isLiteral_of_forall (by rw [hbindings']; decide)
  have hextend : EnvironmentFile.extend sampleSources.environment (some sampleFile) =
      .ok (sampleSources.environment ++ [("S_VERBOSE", " Yes")]) := by
    rw [EnvironmentFile.extend_some, hbindings]
    rfl
  have hextend' : EnvironmentFile.extend sampleSources.environment (some longerFile) =
      .ok (sampleSources.environment ++ [("S_MODE", "fast"), ("S_VERBOSE", " Yes")]) := by
    rw [EnvironmentFile.extend_some, hbindings']
    rfl
  have hload : loadBeside (some sampleFile) sampleSettings sampleSources ["verbose"] =
      .ok sampleFound := by
    rw [loadBeside, hextend]
    rfl
  have hfail : loadBeside (some sampleFile) sampleSettings sampleSources
      ["region", "mode", "other"] = .error (.error (.noSetting "mode" "S_MODE")) := by
    rw [loadBeside, hextend]
    rfl
  have hload' : loadBeside (some longerFile) sampleSettings sampleSources ["mode"] =
      .ok longerFound := by
    rw [loadBeside, hextend']
    rfl
  have hmode : Setting.Adds ⟨"mode", [.text]⟩ sampleSources (some sampleFile) sampleSources
      (some longerFile) := .file hbindings hbindings'
  obtain ⟨hresolved, -, hadds⟩ := loadBeside_resolves hnames hliteral sampleSources ["verbose"]
  obtain ⟨-, hfails, -⟩ :=
    loadBeside_resolves hnames hliteral sampleSources ["region", "mode", "other"]
  refine ⟨⟨hload, hresolved _ hload⟩, ⟨hfail, ?_⟩, hload',
    hadds _ (by decide) _ _ hmode hliteral' _ _ _ hload hload'⟩
  -- What fails here is not the file, so the error names the setting.
  rcases (hfails hfits _).mp hfail with ⟨hfault, -⟩ | ⟨-, name, hfirst, herror⟩
  · cases hfault
  · cases herror
    exact hfirst

end Settings

end WizardLogic
