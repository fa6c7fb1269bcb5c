import Mathlib
import WizardLogic.Settings
import WizardLogic.Proofs.Stateful
import WizardLogic.Proofs.Settings.EnvironmentFile

/-!
# The kinds of settings

A setting is to be null or of one of its kinds (`Setting.Fits`). What the caller says is checked
for that, and nothing else is accepted (`Setting.find_eq_error_iff`). A text of the environment is
not checked, but read as the first of the kinds that accepts it, and what a kind makes of a text is
of that kind (`SettingKind.admits_of_read?`). So a setting whose default fits does not fit exactly
if the environment gives it a text that none of its kinds accepts, and the caller says nothing
(`Setting.fits_iff_of_find`).

Of the engine's settings two may be any text, so only the time that a call may take is ever misread
(`Settings.loadEngine_kinds`). It is then the text that could not be read
(`Settings.not_isNumberOrNull_misread`).
-/

namespace WizardLogic

/-! ### Values -/

namespace Value

/-- Null or a number; truth values are no numbers. -/
def IsNumberOrNull : Value → Prop
  | null | int _ | float _ => True
  | _ => False

/-- Null or a text. -/
def IsTextOrNull : Value → Prop
  | null | str _ => True
  | _ => False

end Value

/-! ### One setting -/

namespace SettingKind

/-- **What a kind makes of a text is of that kind.** -/
theorem admits_of_read? {kind : SettingKind} {raw : String} {v : Value}
    (h : kind.read? raw = some v) : kind.admits v = true := by
  cases kind with
  | text | truth => rw [← Option.some.inj h]; rfl
  | integer | number =>
    obtain ⟨n, -, rfl⟩ := Option.map_eq_some_iff.mp h
    rfl
  | nothing => cases h

/-- Only the kind of texts admits a text. -/
theorem admits_str_iff {kind : SettingKind} {raw : String} :
    kind.admits (.str raw) = true ↔ kind = .text := by
  cases kind <;> simp [admits]

end SettingKind

namespace Setting

variable {s : Setting} {src : Sources} {raw : String} {v : Value} {e : Error}

/-- The values that a setting is to have: null, and those of its kinds. -/
def Fits (s : Setting) (v : Value) : Prop := v = .null ∨ s.admits v = true

theorem fits_number_iff {name : String} :
    (Setting.mk name [.number]).Fits v ↔ v.IsNumberOrNull := by
  cases v <;> simp [Fits, admits, SettingKind.admits, Value.IsNumberOrNull]

theorem fits_text_iff {name : String} : (Setting.mk name [.text]).Fits v ↔ v.IsTextOrNull := by
  cases v <;> simp [Fits, admits, SettingKind.admits, Value.IsTextOrNull]

/-- What the caller says about a setting; null for nothing. -/
def given (s : Setting) (src : Sources) : Value := (src.overrides.get? (.str s.name)).getD .null

/-- A setting with kinds misreads a text that none of them accepts. -/
def Misreads (s : Setting) (raw : String) : Prop :=
  s.kinds ≠ [] ∧ ∀ kind ∈ s.kinds, kind.read? raw = none

theorem misreads_number_iff {name : String} :
    (Setting.mk name [.number]).Misreads raw ↔ Number.readDouble? raw.toList = none := by
  simp [Misreads, SettingKind.read?]

theorem not_misreads_of_text (h : .text ∈ s.kinds) : ¬ s.Misreads raw :=
  fun hmisreads => Option.some_ne_none _ (hmisreads.2 _ h)

/-- A text that no kind accepts stays text. -/
theorem ofText_eq_str (h : ∀ kind ∈ s.kinds, kind.read? raw = none) : s.ofText raw = .str raw := by
  rw [ofText, List.findSome?_eq_none_iff.mpr h]
  rfl

/-- The value that is made of a text fits unless the text is misread. -/
theorem fits_ofText_iff : s.Fits (s.ofText raw) ↔ ¬ s.Misreads raw := by
  cases hread : s.kinds.findSome? fun kind => kind.read? raw with
  | some v =>
    obtain ⟨kind, hmem, hv⟩ := List.exists_of_findSome?_eq_some hread
    have hadmits : s.admits v = true := by
      rw [admits, Bool.or_eq_true, List.any_eq_true]
      exact .inr ⟨kind, hmem, SettingKind.admits_of_read? hv⟩
    have hvalue : s.ofText raw = v := by rw [ofText, hread]; rfl
    rw [hvalue]
    exact iff_of_true (.inr hadmits) fun h => Option.some_ne_none v (hv.symm.trans (h.2 kind hmem))
  | none =>
    have hnone : ∀ kind ∈ s.kinds, kind.read? raw = none := List.findSome?_eq_none_iff.mp hread
    -- The text itself would fit only a setting without kinds, as no kind accepts it.
    have hany : s.kinds.any (·.admits (.str raw)) = false := by
      rw [List.any_eq_false]
      intro kind hmem hadmits
      obtain rfl := SettingKind.admits_str_iff.mp hadmits
      exact Option.some_ne_none _ (hnone _ hmem)
    rw [ofText_eq_str hnone, Fits, admits, hany, Bool.or_false, List.isEmpty_iff, Misreads,
      and_iff_left hnone]
    simp

/-- A setting that the caller says nothing about is found elsewhere. -/
theorem find_of_given_eq_null (h : s.given src = .null) : s.find src = .ok (s.inherited src) := by
  unfold given at h
  rw [find, h]

/-- What the caller says about a setting is taken or refused. -/
theorem find_of_given_ne_null (h : s.given src ≠ .null) : s.find src =
    if s.admits (s.given src) then .ok (s.given src)
    else .error (.settingType s.name (s.kinds.map SettingKind.name) (s.given src).kindName) := by
  unfold given at h
  rw [find]
  split
  · rename_i hnull
    exact absurd hnull h
  · rfl

/-- **A setting is refused** exactly if the caller says what does not fit. -/
theorem find_eq_error_iff : s.find src = .error e ↔ ¬ s.Fits (s.given src) ∧
    e = .settingType s.name (s.kinds.map SettingKind.name) (s.given src).kindName := by
  by_cases hnull : s.given src = .null
  · rw [find_of_given_eq_null hnull]
    exact iff_of_false nofun fun h => h.1 (.inl hnull)
  · rw [find_of_given_ne_null hnull, Fits, or_iff_right hnull]
    by_cases hadmits : s.admits (s.given src) = true
    · simp [hadmits]
    · rw [if_neg hadmits, Except.error.injEq, eq_comm, and_iff_right hadmits]

/-- A setting is misread where the caller says nothing and the environment gives it a text that it
misreads. -/
def IsMisread (s : Setting) (src : Sources) (raw : String) : Prop :=
  s.given src = .null ∧ src.environment.lookup (src.variableName s.name) = some raw ∧ s.Misreads raw

/-- **What is found for a setting fits unless it was misread,** if its default does. -/
theorem fits_iff_of_find (h : s.find src = .ok v)
    (hdefault : s.Fits ((src.defaults.get? (.str s.name)).getD .null)) :
    s.Fits v ↔ ¬ ∃ raw, s.IsMisread src raw := by
  by_cases hnull : s.given src = .null
  · rw [find_of_given_eq_null hnull] at h
    obtain rfl := Except.ok.inj h
    unfold inherited IsMisread
    cases src.environment.lookup (src.variableName s.name) with
    | none => simpa using hdefault
    | some raw => simpa [hnull] using fits_ofText_iff
  · rw [find_of_given_ne_null hnull] at h
    split at h
    · rename_i hadmits
      obtain rfl := Except.ok.inj h
      exact iff_of_true (.inr hadmits) fun ⟨_, hmisread⟩ => hnull hmisread.1
    · cases h

/-- What is found for a setting that is misread is the text. -/
theorem eq_str_of_isMisread (h : s.find src = .ok v) (hmisread : s.IsMisread src raw) :
    v = .str raw := by
  obtain ⟨hnull, hraw, hmisreads⟩ := hmisread
  rw [find_of_given_eq_null hnull, inherited, hraw] at h
  exact (Except.ok.inj h).symm.trans (ofText_eq_str hmisreads.2)

end Setting

/-! ### All settings -/

namespace Settings

variable {settings : List Setting} {src : Sources} {required : List String}
  {found : Entries Value} {e : Error}

/-- **Every setting is found for itself.** -/
theorem find_of_load (h : load settings src required = .ok found) :
    List.Forall₂ (fun s p => p.1 = .str s.name ∧ s.find src = .ok p.2) settings found := by
  obtain ⟨entries, hentries, h⟩ := exists_of_bind_eq_ok h
  obtain rfl : entries = found := by
    split at h
    · cases h
    · exact Except.ok.inj h
  refine (forall₂_of_mapM_eq_ok hentries).imp fun s p hentry => ?_
  obtain ⟨v, hfind, hentry⟩ := exists_of_bind_eq_ok hentry
  obtain rfl := Except.ok.inj hentry
  exact ⟨rfl, hfind⟩

/-- **Settings are refused** for what the caller says, or for a required one that is missing. -/
theorem cause_of_load (h : load settings src required = .error e) :
    (∃ s ∈ settings, s.find src = .error e) ∨
      ∃ name ∈ required, e = .noSetting name (src.variableName name) := by
  obtain hentries | ⟨entries, -, h⟩ := error_or_of_bind_eq_error h
  · obtain ⟨s, hmem, hentry⟩ := exists_of_mapM_eq_error hentries
    obtain hfind | ⟨v, -, hentry⟩ := error_or_of_bind_eq_error hentry
    · exact .inl ⟨s, hmem, hfind⟩
    · cases hentry
  · split at h
    · next name hmissing =>
      exact .inr ⟨name, List.mem_of_find?_eq_some hmissing, (Except.error.inj h).symm⟩
    · cases h

/-- **Settings that are loaded fit,** but for those that are misread, if their defaults do. -/
theorem fits_iff_of_load (h : load settings src required = .ok found)
    (hdefaults : ∀ s ∈ settings, s.Fits ((src.defaults.get? (.str s.name)).getD .null)) :
    List.Forall₂ (fun s p => p.1 = .str s.name ∧ (s.Fits p.2 ↔ ¬ ∃ raw, s.IsMisread src raw) ∧
      ∀ raw, s.IsMisread src raw → p.2 = .str raw) settings found := by
  refine ((List.forall₂_and_left _ _).mpr ⟨hdefaults, find_of_load h⟩).imp ?_
  rintro s p ⟨hdefault, hkey, hfind⟩
  exact ⟨hkey, Setting.fits_iff_of_find hfind hdefault,
    fun raw => Setting.eq_str_of_isMisread hfind⟩

/-! ### The settings of the engine -/

/-- Where the values of the engine's settings come from. -/
def engineSources (overrides : Entries Value) (environment : EnvironmentFile.Environment) :
    Sources :=
  ⟨overrides, environment, engineStem, engineDefaults⟩

/-- The defaults of the engine's settings fit. -/
theorem fits_engineDefaults :
    ∀ s ∈ engineSettings, s.Fits ((engineDefaults.get? (.str s.name)).getD .null) := by
  simp only [engineSettings, List.forall_mem_cons]
  exact ⟨.inl rfl, .inr rfl, .inr rfl, List.forall_mem_nil _⟩

/-- The text of the time that a call may take is misread: the caller says nothing, and what the
environment gives, or else the file, is not a number. -/
def IsTimeMisread (overrides : Entries Value) (environment : EnvironmentFile.Environment)
    (text? : Option String) (raw : String) : Prop :=
  (overrides.get? (.str "remote_timeout")).getD .null = .null ∧
    EnvironmentFile.textOf? environment text? "WIZARD_ENGINE_REMOTE_TIMEOUT" = some raw ∧
      Number.readDouble? raw.toList = none

theorem isMisread_time_iff {overrides : Entries Value}
    {environment environment' : EnvironmentFile.Environment} {text? : Option String} {raw : String}
    (h : EnvironmentFile.extend environment text? = .ok environment') :
    (Setting.mk "remote_timeout" [.number]).IsMisread (engineSources overrides environment') raw ↔
      IsTimeMisread overrides environment text? raw := by
  have hname : (engineSources overrides environment').variableName "remote_timeout" =
      "WIZARD_ENGINE_REMOTE_TIMEOUT" := rfl
  rw [Setting.IsMisread, hname, Setting.misreads_number_iff, IsTimeMisread,
    ← EnvironmentFile.lookup_of_extend h]
  rfl

/-- The settings of the engine are loaded from the environment that a file extends, unless reading
the file fails. -/
theorem loadEngine_cases (file? : Option ByteArray) (overrides : Entries Value)
    (environment : EnvironmentFile.Environment) :
    (∃ bytes f, file? = some bytes ∧ EnvironmentFile.Fails environment bytes f ∧
        loadEngine file? overrides environment = .error (.fault f)) ∨
      ∃ text? environment', file?.mapM EnvironmentFile.decode = .ok text? ∧
        EnvironmentFile.extend environment text? = .ok environment' ∧
        loadEngine file? overrides environment =
          (load engineSettings (engineSources overrides environment') []).mapError
            Failure.error := by
  cases hdecode : file?.mapM EnvironmentFile.decode with
  | error f =>
    obtain ⟨bytes, hfile, hfails⟩ := EnvironmentFile.fails_of_decode environment hdecode
    refine .inl ⟨bytes, f, hfile, hfails, ?_⟩
    rw [loadEngine, hdecode]
  | ok text? =>
    cases hextend : EnvironmentFile.extend environment text? with
    | error f =>
      obtain ⟨bytes, hfile, hfails⟩ := EnvironmentFile.fails_of_extend hdecode hextend
      refine .inl ⟨bytes, f, hfile, hfails, ?_⟩
      rw [loadEngine, hdecode]
      simp only [loadBeside, hextend]
    | ok environment' =>
      refine .inr ⟨text?, environment', rfl, hextend, ?_⟩
      rw [loadEngine, hdecode]
      simp only [loadBeside, hextend]
      rfl

/-- **The kinds of the engine's settings.** Whatever the environment, the file and the caller say,
either the file cannot be read, or the caller is refused, or settings are loaded. Of these the
directory and the introduction are texts or null, and the time is a number or null unless its text
is misread; then it is that text. -/
theorem loadEngine_kinds (file? : Option ByteArray) (overrides : Entries Value)
    (environment : EnvironmentFile.Environment) :
    (∃ bytes f, file? = some bytes ∧ EnvironmentFile.Fails environment bytes f ∧
        loadEngine file? overrides environment = .error (.fault f)) ∨
      (∃ s e, s ∈ engineSettings ∧ ¬ s.Fits ((overrides.get? (.str s.name)).getD .null) ∧
        e.family = .general ∧ loadEngine file? overrides environment = .error (.error e)) ∨
      ∃ text? time directory agent, file?.mapM EnvironmentFile.decode = .ok text? ∧
        loadEngine file? overrides environment = .ok [(.str "remote_timeout", time),
          (.str "wizards_dir", directory), (.str "user_agent", agent)] ∧
        directory.IsTextOrNull ∧ agent.IsTextOrNull ∧
        (time.IsNumberOrNull ↔ ¬ ∃ raw, IsTimeMisread overrides environment text? raw) ∧
        ∀ raw, IsTimeMisread overrides environment text? raw → time = .str raw := by
  obtain hfault | ⟨text?, environment', hdecode, hextend, hload⟩ :=
    loadEngine_cases file? overrides environment
  · exact .inl hfault
  · rw [hload]
    cases hfound : load engineSettings (engineSources overrides environment') [] with
    | error e =>
      obtain ⟨s, hmem, hs⟩ | ⟨name, hname, -⟩ := cause_of_load hfound
      · obtain ⟨hrefused, rfl⟩ := Setting.find_eq_error_iff.mp hs
        exact .inr (.inl ⟨s, _, hmem, hrefused, rfl, rfl⟩)
      · cases hname
    | ok found =>
      have hfits := fits_iff_of_load hfound fits_engineDefaults
      simp only [engineSettings, List.forall₂_cons_left_iff, List.forall₂_nil_left_iff] at hfits
      obtain ⟨⟨_, time⟩, _, ⟨rfl, htime, hmisread⟩, ⟨⟨_, directory⟩, _, ⟨rfl, hdirectory, -⟩,
        ⟨⟨_, agent⟩, _, ⟨rfl, hagent, -⟩, rfl, rfl⟩, rfl⟩, rfl⟩ := hfits
      have htext : ∀ name, ¬ ∃ raw, (Setting.mk name [.text]).IsMisread
          (engineSources overrides environment') raw :=
        fun _ ⟨_, h⟩ => Setting.not_misreads_of_text List.mem_cons_self h.2.2
      rw [Setting.fits_text_iff] at hdirectory hagent
      rw [Setting.fits_number_iff] at htime
      simp only [isMisread_time_iff hextend] at htime hmisread
      exact .inr (.inr ⟨text?, time, directory, agent, hdecode, rfl, hdirectory.mpr (htext _),
        hagent.mpr (htext _), htime, hmisread⟩)

/-- **A time that is misread is no number.** -/
theorem not_isNumberOrNull_misread :
    loadEngine none [] [("WIZARD_ENGINE_REMOTE_TIMEOUT", "abc")] =
        .ok [(.str "remote_timeout", .str "abc"), (.str "wizards_dir", .str "wizards"),
          (.str "user_agent", .str "wizard-engine")] ∧
      ¬ (Value.str "abc").IsNumberOrNull :=
  ⟨rfl, id⟩

end Settings

end WizardLogic
