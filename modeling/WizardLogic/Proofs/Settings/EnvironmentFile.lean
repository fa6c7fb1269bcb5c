import Mathlib
import WizardLogic.Settings.EnvironmentFile

/-!
# What an environment file adds

A file sets each variable once, with the value that it gives it last (`nodup_additions`). An
environment takes those variables in order and keeps what it has, so afterwards a variable has the
value that the environment gave it before, or else the one that the file gives it
(`lookup_of_extend`).

Reading the file fails when the environment refuses one of the variables, which it does when it
does not have it and cannot hold it (`applyTo_eq_error_iff`), and also when the bytes of the file
are not in UTF-8 (`Fails`).

In a file without references every value stands for itself. What such a file gives a variable does
not depend on the environment, nor on what it says about other variables (`textOf?_of_isLiteral`).
-/

namespace WizardLogic.EnvironmentFile

variable {environment environment' : Environment} {entry : String × Option String}
  {file name : String} {f : Fault}

/-! ### The variables of a file -/

/-- The variables that a file sets beside an environment. -/
def additions (environment : Environment) (file : String) : List (String × Option String) :=
  bound environment (bindingsOf (Text.shortLineEnds file.toList))

theorem map_fst_set (name : String) (value : Option String) (vs : List (String × Option String)) :
    (set name value vs).map Prod.fst =
      if name ∈ vs.map Prod.fst then vs.map Prod.fst else vs.map Prod.fst ++ [name] := by
  induction vs with
  | nil => rfl
  | cons v vs ih =>
    obtain ⟨n, old⟩ := v
    by_cases hn : n = name
    · simp [set, hn]
    · rw [set, if_neg hn, List.map_cons, ih]
      by_cases hmem : name ∈ vs.map Prod.fst
      · rw [if_pos hmem, List.map_cons, if_pos (List.mem_cons_of_mem _ hmem)]
      · have hnew : name ∉ ((n, old) :: vs).map Prod.fst := by
          rw [List.map_cons, List.mem_cons]
          exact not_or.mpr ⟨Ne.symm hn, hmem⟩
        rw [if_neg hmem, if_neg hnew]
        rfl

theorem nodup_set {value : Option String} {vs : List (String × Option String)}
    (h : (vs.map Prod.fst).Nodup) : ((set name value vs).map Prod.fst).Nodup := by
  rw [map_fst_set]
  split
  · exact h
  · rename_i hmem
    exact List.concat_eq_append ▸ h.concat hmem

/-- **A file sets no variable twice.** -/
theorem nodup_additions (environment : Environment) (file : String) :
    ((additions environment file).map Prod.fst).Nodup := by
  rw [additions, bound]
  exact List.foldlRecOn (motive := fun vs => (List.map Prod.fst vs).Nodup) _ _ List.nodup_nil
    fun vs h binding _ => nodup_set h

/-! ### One variable -/

/-- An environment refuses a variable that it does not have and cannot hold. -/
def Refuses (environment : Environment) (entry : String × Option String) : Prop :=
  environment.lookup entry.1 = none ∧
    ∃ value, entry.2 = some value ∧ isAdmissible entry.1 value = false

theorem addVariable_eq_error_iff :
    addVariable environment entry = .error f ↔ f = .badValue ∧ Refuses environment entry := by
  obtain ⟨name, value?⟩ := entry
  unfold addVariable Refuses
  cases environment.lookup name with
  | some old => simp
  | none =>
    cases value? with
    | none => simp
    | some value =>
      cases hfit : isAdmissible name value with
      | true => simp [hfit]
      | false => simp [hfit, @eq_comm _ Fault.badValue]

/-- An environment that takes a variable has the value that it gave before, or else the new one. -/
theorem lookup_of_addVariable (h : addVariable environment entry = .ok environment')
    (name : String) : environment'.lookup name =
      (environment.lookup name).or (if name = entry.1 then entry.2 else none) := by
  obtain ⟨new, value?⟩ := entry
  unfold addVariable at h
  split at h
  · rename_i value hnone hvalue
    split at h
    · obtain rfl := Except.ok.inj h
      obtain rfl : value? = some value := hvalue
      rw [List.lookup_append]
      by_cases hname : name = new
      · simp [hname]
      · simp [hname, List.lookup_cons, beq_false_of_ne hname]
    · cases h
  -- Here the environment has the variable, or the file gives it no value.
  · rename_i hother
    obtain rfl := Except.ok.inj h
    by_cases hname : name = new
    · subst hname
      cases hold : environment.lookup name with
      | some old => rfl
      | none =>
        cases value? with
        | none => simp
        | some value => exact absurd rfl (hother value hold)
    · simp [hname]

theorem refuses_of_addVariable (h : addVariable environment entry = .ok environment')
    {other : String × Option String} (hne : other.1 ≠ entry.1) :
    Refuses environment' other ↔ Refuses environment other := by
  rw [Refuses, lookup_of_addVariable h, if_neg hne, Option.or_none, Refuses]

/-! ### All variables -/

/-- **An environment takes variables** unless it refuses one of them. -/
theorem foldlM_addVariable_eq_error_iff {vs : List (String × Option String)}
    (hnames : (vs.map Prod.fst).Nodup) :
    vs.foldlM addVariable environment = .error f ↔
      f = .badValue ∧ ∃ entry ∈ vs, Refuses environment entry := by
  induction vs generalizing environment with
  | nil => simp [pure, Except.pure]
  | cons entry vs ih =>
    obtain ⟨hnew, hrest⟩ := List.nodup_cons.mp hnames
    rw [List.foldlM_cons]
    cases hadd : addVariable environment entry with
    | error g =>
      obtain ⟨rfl, hrefused⟩ := addVariable_eq_error_iff.mp hadd
      constructor
      · intro h
        exact ⟨(Except.error.inj h).symm, entry, List.mem_cons_self, hrefused⟩
      · rintro ⟨rfl, -⟩
        rfl
    | ok next =>
      have htaken : ¬ Refuses environment entry := fun h => by
        rw [addVariable_eq_error_iff.mpr ⟨rfl, h⟩] at hadd
        cases hadd
      have hsame : ∀ other ∈ vs, Refuses next other ↔ Refuses environment other :=
        fun other hmem => refuses_of_addVariable hadd fun heq =>
          hnew (heq ▸ List.mem_map_of_mem hmem)
      refine (ih hrest).trans (and_congr_right fun _ => ?_)
      rw [List.exists_mem_cons_iff, or_iff_right htaken]
      exact exists_congr fun other => and_congr_right fun hmem => hsame other hmem

/-- What an environment has that has taken variables. -/
theorem lookup_of_foldlM_addVariable {vs : List (String × Option String)}
    (hnames : (vs.map Prod.fst).Nodup) (h : vs.foldlM addVariable environment = .ok environment')
    (name : String) :
    environment'.lookup name = (environment.lookup name).or (vs.lookup name).join := by
  induction vs generalizing environment with
  | nil =>
    obtain rfl := Except.ok.inj h
    simp
  | cons entry vs ih =>
    obtain ⟨hnew, hrest⟩ := List.nodup_cons.mp hnames
    rw [List.foldlM_cons] at h
    cases hadd : addVariable environment entry with
    | error g =>
      rw [hadd] at h
      cases h
    | ok next =>
      rw [hadd] at h
      rw [ih hrest h, lookup_of_addVariable hadd, Option.or_assoc]
      by_cases hname : name = entry.1
      · have hnone : vs.lookup name = none := by
          rw [List.lookup_eq_none_iff]
          intro other hmem
          exact bne_iff_ne.mpr fun heq =>
            hnew ((hname.symm.trans heq) ▸ List.mem_map_of_mem hmem)
        subst hname
        simp [hnone, List.lookup]
      · rw [if_neg hname, Option.none_or, List.lookup_cons, beq_false_of_ne hname]

/-! ### The file -/

/-- **Reading a file fails** exactly if the environment refuses a variable that it sets. -/
theorem applyTo_eq_error_iff : applyTo environment file = .error f ↔
    f = .badValue ∧ ∃ entry ∈ additions environment file, Refuses environment entry :=
  foldlM_addVariable_eq_error_iff (nodup_additions _ _)

/-- An environment cannot be extended by a file if it refuses a variable that the file sets. -/
def CannotExtend (environment : Environment) (file? : Option String) : Prop :=
  ∃ file, file? = some file ∧ ∃ entry ∈ additions environment file, Refuses environment entry

theorem extend_eq_error_iff {file? : Option String} : extend environment file? = .error f ↔
    f = .badValue ∧ CannotExtend environment file? := by
  cases file? with
  | none => simp [extend, CannotExtend]
  | some file => simp [extend, CannotExtend, applyTo_eq_error_iff]

/-- The text that a variable has beside a file: what the environment gives it, or else the file. -/
def textOf? (environment : Environment) (file? : Option String) (name : String) : Option String :=
  (environment.lookup name).or
    (file?.bind fun file => ((additions environment file).lookup name).join)

/-- **A variable has the value of the environment,** or else that of the file. -/
theorem lookup_of_extend {file? : Option String} (h : extend environment file? = .ok environment')
    (name : String) : environment'.lookup name = textOf? environment file? name := by
  cases file? with
  | none =>
    obtain rfl := Except.ok.inj h
    exact (Option.or_none).symm
  | some file => exact lookup_of_foldlM_addVariable (nodup_additions _ _) h name

/-! ### Files without references -/

/-- There is a reference somewhere in a value. -/
def HasReference (cs : List Char) : Prop :=
  ∃ before rest, cs = before ++ '$' :: '\x7b' :: rest ∧ reference? rest ≠ none

theorem HasReference.cons {cs : List Char} (h : HasReference cs) (c : Char) :
    HasReference (c :: cs) := by
  obtain ⟨before, rest, rfl, hrest⟩ := h
  exact ⟨c :: before, rest, rfl, hrest⟩

/-- **A value without references stays as it is.** -/
theorem interpolate_eq_self (lookUp : String → Option String) (n : Nat) {cs : List Char}
    (h : ¬ HasReference cs) : interpolate lookUp n cs = cs := by
  fun_induction interpolate lookUp n cs with
  | case1 => rfl
  | case2 => rfl
  | case3 n rest name absent after href ih => exact absurd ⟨[], rest, rfl, by simp [href]⟩ h
  | case4 n rest href ih => rw [ih (mt (fun h' => h'.cons '$') h)]
  | case5 n c rest hne ih => rw [ih (mt (fun h' => h'.cons c) h)]

/-- The bindings of a file; a missing file has none. -/
def bindings (file? : Option String) : List Binding :=
  file?.elim [] fun file => bindingsOf (Text.shortLineEnds file.toList)

theorem extend_some (environment : Environment) (file : String) :
    extend environment (some file) =
      (bound environment (bindings (some file))).foldlM addVariable environment := rfl

/-- **A file is literal** if there is no reference in its values. -/
def IsLiteral (file? : Option String) : Prop :=
  ∀ name cs, (name, some cs) ∈ bindings file? → ¬ HasReference cs

/-- A file without dollar signs in its values is literal. -/
theorem isLiteral_of_forall {file? : Option String}
    (h : ∀ binding ∈ bindings file?, '$' ∉ binding.2.getD []) : IsLiteral file? := by
  rintro name cs hmem ⟨before, rest, rfl, -⟩
  exact h _ hmem (List.mem_append_right before List.mem_cons_self)

/-- The text that a literal file gives a variable: that of its last binding. -/
def written? (file? : Option String) (name : String) : Option String :=
  ((bindings file?).reverse.lookup name).join.map String.ofList

theorem lookup_cons_eq {β : Type} (name new : String) (value : β) (vs : List (String × β)) :
    ((new, value) :: vs).lookup name = if name = new then some value else vs.lookup name := by
  rw [List.lookup_cons]
  by_cases hname : name = new
  · rw [if_pos hname, beq_iff_eq.mpr hname]
  · rw [if_neg hname, beq_false_of_ne hname]

theorem lookup_set (new : String) (value : Option String) (vs : List (String × Option String)) :
    (set new value vs).lookup name = if name = new then some value else vs.lookup name := by
  induction vs with
  | nil => rw [set, lookup_cons_eq]
  | cons v vs ih =>
    obtain ⟨old, w⟩ := v
    by_cases hold : old = new
    · rw [set, if_pos hold, hold, lookup_cons_eq, lookup_cons_eq]
      split <;> rfl
    · rw [set, if_neg hold, lookup_cons_eq, ih, lookup_cons_eq]
      by_cases hname : name = new
      · have hother : name ≠ old := fun h => hold (h.symm.trans hname)
        rw [if_neg hother, if_pos hname, if_pos hname]
      · rw [if_neg hname, if_neg hname]

/-- The last binding of a variable counts. -/
theorem lookup_bound {bs : List Binding} (h : ∀ name cs, (name, some cs) ∈ bs → ¬ HasReference cs)
    (environment : Environment) (name : String) :
    (bound environment bs).lookup name =
      (bs.reverse.lookup name).map (Option.map String.ofList) := by
  induction bs using List.reverseRecOn with
  | nil => rfl
  | append_singleton bs b ih =>
    obtain ⟨last, value⟩ := b
    have hbound : bound environment (bs ++ [(last, value)]) =
        set last (value.map String.ofList) (bound environment bs) := by
      cases value with
      | none => simp [bound]
      | some cs =>
        have hcs := h last cs (List.mem_append_right bs List.mem_cons_self)
        simp [bound, interpolate_eq_self _ _ hcs]
    have hinit := ih fun name cs hmem => h name cs (List.mem_append_left _ hmem)
    rw [hbound, lookup_set, hinit, List.reverse_concat, lookup_cons_eq]
    split <;> rfl

/-- **A literal file gives a variable what it writes for it,** whatever the environment says. -/
theorem textOf?_of_isLiteral {file? : Option String} (h : IsLiteral file?)
    (environment : Environment) (name : String) :
    textOf? environment file? name = (environment.lookup name).or (written? file? name) := by
  cases file? with
  | none => rfl
  | some file =>
    have hbound : (additions environment file).lookup name =
        ((bindings (some file)).reverse.lookup name).map (Option.map String.ofList) :=
      lookup_bound h environment name
    rw [textOf?, Option.bind_some, hbound, written?]
    cases List.lookup name (bindings (some file)).reverse <;> rfl

theorem lookup_append_cons_of_ne {β : Type} {name new : String} (h : name ≠ new)
    (before after : List (String × β)) (value : β) :
    (before ++ (new, value) :: after).lookup name = (before ++ after).lookup name := by
  rw [List.lookup_append, List.lookup_append, lookup_cons_eq, if_neg h]

/-- A binding of one variable does not change what is written for another one. -/
theorem written?_of_bindings_eq_append {file? file?' : Option String} {new : String}
    {value : Option (List Char)} {before after : List Binding}
    (h : bindings file? = before ++ after) (h' : bindings file?' = before ++ (new, value) :: after)
    (hname : name ≠ new) : written? file?' name = written? file? name := by
  have hlast : (bindings file?').reverse = after.reverse ++ (new, value) :: before.reverse := by
    rw [h', List.reverse_append, List.reverse_cons, List.append_assoc, List.singleton_append]
  rw [written?, written?, hlast, lookup_append_cons_of_ne hname, h, List.reverse_append]

/-! ### The bytes of the file -/

/-- Reading the bytes of a file beside an environment fails. -/
inductive Fails (environment : Environment) (bytes : ByteArray) : Fault → Prop
  /-- They are not in UTF-8. -/
  | undecodable (h : ¬ bytes.IsValidUTF8) : Fails environment bytes .undecodable
  /-- The environment refuses a variable. -/
  | refused (h : bytes.IsValidUTF8) {entry : String × Option String}
    (hmem : entry ∈ additions environment (String.fromUTF8 bytes h))
    (hrefuses : Refuses environment entry) : Fails environment bytes .badValue

theorem mapM_decode_of_isValid {bytes : ByteArray} (h : bytes.IsValidUTF8) :
    (some bytes).mapM decode = .ok (some (String.fromUTF8 bytes h)) := by
  simp [decode, String.fromUTF8?, h, Functor.map, Except.map]

theorem mapM_decode_of_not_isValid {bytes : ByteArray} (h : ¬ bytes.IsValidUTF8) :
    (some bytes).mapM decode = .error .undecodable := by
  simp [decode, String.fromUTF8?, h, Functor.map, Except.map]

theorem fails_of_decode {file? : Option ByteArray} (environment : Environment)
    (h : file?.mapM decode = .error f) :
    ∃ bytes, file? = some bytes ∧ Fails environment bytes f := by
  cases file? with
  | none => cases h
  | some bytes =>
    by_cases hvalid : bytes.IsValidUTF8
    · rw [mapM_decode_of_isValid hvalid] at h
      cases h
    · rw [mapM_decode_of_not_isValid hvalid] at h
      obtain rfl := Except.error.inj h
      exact ⟨bytes, rfl, .undecodable hvalid⟩

theorem fails_of_extend {file? : Option ByteArray} {text? : Option String}
    (hdecode : file?.mapM decode = .ok text?) (h : extend environment text? = .error f) :
    ∃ bytes, file? = some bytes ∧ Fails environment bytes f := by
  cases file? with
  | none =>
    obtain rfl := Except.ok.inj hdecode
    cases h
  | some bytes =>
    by_cases hvalid : bytes.IsValidUTF8
    · rw [mapM_decode_of_isValid hvalid] at hdecode
      obtain rfl := Except.ok.inj hdecode
      obtain ⟨rfl, entry, hmem, hrefuses⟩ := applyTo_eq_error_iff.mp h
      exact ⟨bytes, rfl, .refused hvalid hmem hrefuses⟩
    · rw [mapM_decode_of_not_isValid hvalid] at hdecode
      cases hdecode

end WizardLogic.EnvironmentFile
