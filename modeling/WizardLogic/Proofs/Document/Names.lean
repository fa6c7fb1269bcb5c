import Mathlib
import WizardLogic.Proofs.Document.RoundTrip

/-!
# The names in a wizard

Logic refers to steps and remote actions by name, so names have to be unambiguous. A wizard is
*well named* (`Wizard.IsWellNamed`) if no two steps and no two remote actions have the same name,
the names of remote actions are identifiers, and the initial step is the name of a step. Then a name
finds exactly what has it (`FindsByName`).

A document is accepted exactly if its fields can be read and the wizard that they give is well
named (`Wizard.read_eq_ok_iff_isWellNamed`). All other documents are refused as invalid: for the
distinctness of names and for the initial step after the fields have been read, and for a remote
action whose name is no identifier while they are, whatever else the document holds
(`Wizard.read_wellNamed`).
-/

namespace WizardLogic

open Reading

/-! ### Identifiers -/

/-- **Identifiers**: a letter or an underscore, and then letters, digits and underscores. Letters
and digits are those of ASCII. -/
def IsIdentifier (s : String) : Prop :=
  ∃ c cs, s.toList = c :: cs ∧ (c.isAlpha = true ∨ c = '_') ∧
    ∀ d ∈ cs, d.isAlphanum = true ∨ d = '_'

theorem isName_iff_isIdentifier {s : String} : isName s = true ↔ IsIdentifier s := by
  unfold isName IsIdentifier
  cases s.toList with
  | nil => simp
  | cons c cs => simp [isNameChar]

theorem isIdentifier_of_name {v : Value} {s : String} (h : name v = pure s) : IsIdentifier s := by
  obtain rfl := eq_of_name h
  rw [name] at h
  split at h
  · exact isName_iff_isIdentifier.mp ‹_›
  · exact absurd h issue_ne_pure

/-! ### Parts that were read -/

namespace Reading

/-- A field with one spelling is read from what stands under it. -/
theorem read_of_field_singleton {α : Type} {es : Entries Value} {s : String} {a : α}
    {read : Value → Reading α} (h : field es [s] read = pure a) :
    read ((Value.obj es).field s) = pure a := by
  unfold field at h
  cases hs : spelling? es [s] with
  | none =>
    rw [hs] at h
    exact absurd (under_eq_pure.mp h) issue_ne_pure
  | some t =>
    obtain rfl := List.mem_singleton.mp (List.mem_of_find?_eq_some hs)
    rw [hs] at h
    exact under_eq_pure.mp h

/-- Every item of a list that was read has been read. -/
theorem exists_read_of_mem_items {α : Type} {read : Value → Reading α} {i : ℕ} {vs : List Value}
    {as : List α} (h : items read i vs = pure as) {v : Value} (hv : v ∈ vs) :
    ∃ a ∈ as, read v = pure a := by
  induction vs generalizing i as with
  | nil => cases hv
  | cons v' vs ih =>
    obtain ⟨a, rest, ha, hrest, rfl⟩ := items_cons_eq_pure.mp h
    rcases List.mem_cons.mp hv with rfl | hv
    · exact ⟨a, List.mem_cons_self, ha⟩
    · obtain ⟨b, hb, hread⟩ := ih hrest hv
      exact ⟨b, List.mem_cons_of_mem a hb, hread⟩

end Reading

/-! ### Finding by name -/

/-- **A search by name** finds what is listed with the name, and fails exactly for names that are
not listed. -/
structure FindsByName {α : Type} (find? : String → Option α) (nameOf : α → String)
    (listed : List α) : Prop where
  found : ∀ n a, find? n = some a ↔ a ∈ listed ∧ nameOf a = n
  missing : ∀ n, find? n = none ↔ n ∉ listed.map nameOf

/-- Where no name occurs twice, the first with a name is the only one. -/
theorem findsByName_find? {α : Type} {nameOf : α → String} {listed : List α}
    (h : (listed.map nameOf).Nodup) :
    FindsByName (fun n => listed.find? fun a => nameOf a = n) nameOf listed where
  found n a := by
    constructor
    · intro hfound
      exact ⟨List.mem_of_find?_eq_some hfound, by simpa using List.find?_some hfound⟩
    · rintro ⟨hmem, rfl⟩
      cases hfirst : listed.find? fun b => nameOf b = nameOf a with
      | none =>
        have hne := List.find?_eq_none.mp hfirst a hmem
        simp at hne
      | some b =>
        have hname : nameOf b = nameOf a := by simpa using List.find?_some hfirst
        rw [List.inj_on_of_nodup_map h (List.mem_of_find?_eq_some hfirst) hmem hname]
  missing n := by simp [List.find?_eq_none]

/-! ### Well named wizards -/

namespace Wizard

/-- **Well named wizards.** -/
structure IsWellNamed (w : Wizard) : Prop where
  steps : (w.steps.map Step.name).Nodup
  actions : (w.remoteActions.map RemoteAction.name).Nodup
  identifiers : ∀ a ∈ w.remoteActions, IsIdentifier a.name
  initial : ∃ s ∈ w.steps, s.name = w.initialStep

variable {v : Value} {w : Wizard}

theorem isIdentifier_of_readFields (h : readFields v = pure w) :
    ∀ a ∈ w.remoteActions, IsIdentifier a.name := by
  intro a ha
  cases v with
  | obj es =>
    obtain ⟨-, -, -, -, -, hactions, -⟩ := readFields_obj_eq_pure.mp h
    rcases exists_of_fieldOr hactions with hnil | ⟨s, -, hlist⟩
    · rw [hnil] at ha
      cases ha
    · obtain ⟨vs, -, hitems⟩ := exists_items_of_list hlist
      obtain ⟨item, -, hread⟩ := exists_of_mem_items hitems ha
      cases item with
      | obj fields =>
        obtain ⟨t, hname⟩ := exists_of_field (RemoteAction.read_obj_eq_pure.mp hread).1
        exact isIdentifier_of_name hname
      | _ => exact absurd hread issue_ne_pure
  | _ => exact absurd h issue_ne_pure

/-- A wizard breaks no rule exactly if it is well named, its remote actions having identifiers for
names. -/
theorem brokenRule?_eq_none_iff (h : ∀ a ∈ w.remoteActions, IsIdentifier a.name) :
    w.brokenRule? = none ↔ w.IsWellNamed := by
  have hinitial : w.initialStep ∈ w.steps.map Step.name ↔ ∃ s ∈ w.steps, s.name = w.initialStep :=
    List.mem_map
  unfold brokenRule?
  constructor
  · intro hnone
    split at hnone
    · cases hnone
    · split at hnone
      · cases hnone
      · split at hnone
        · cases hnone
        · next hsteps hactions hstep =>
          exact ⟨not_not.mp hsteps, not_not.mp hactions, h, hinitial.mp (not_not.mp hstep)⟩
  · rintro ⟨hsteps, hactions, -, hstep⟩
    rw [if_neg (not_not.mpr hsteps), if_neg (not_not.mpr hactions),
      if_neg (not_not.mpr (hinitial.mpr hstep))]

/-- **A document is accepted** exactly if its fields can be read and give a well named wizard. -/
theorem read_eq_ok_iff_isWellNamed : read v = .ok w ↔ readFields v = pure w ∧ w.IsWellNamed :=
  read_eq_ok.trans (and_congr_right fun h => brokenRule?_eq_none_iff (isIdentifier_of_readFields h))

/-- A wizard that breaks a rule is refused for it. -/
theorem read_of_brokenRule? {text : String} (h : readFields v = pure w)
    (hrule : w.brokenRule? = some text) :
    read v = .error (.documentInvalid [⟨[], .invariant text⟩]) := by
  have hfields : readFields v = .ok w := h
  simp only [read, hfields, hrule]

/-- What is not accepted is refused as invalid. -/
theorem exists_issues_of_forall_ne (h : ∀ w, read v ≠ .ok w) :
    ∃ issues, read v = .error (.documentInvalid issues) := by
  cases hfields : readFields v with
  | error issues => exact ⟨issues, by rw [read, hfields]⟩
  | ok w =>
    cases hrule : w.brokenRule? with
    | some text => exact ⟨_, read_of_brokenRule? hfields hrule⟩
    | none => exact absurd (read_eq_ok.mpr ⟨hfields, hrule⟩) (h w)

/-- A document declares a remote action under a name, in the spelling of the field that counts. -/
inductive DeclaresAction : Value → String → Prop
  | intro {es action : Entries Value} {s n : String} {items : List Value} :
    spelling? es ["remoteActions", "remote_actions"] = some s →
    (Value.obj es).field s = .list items → .obj action ∈ items →
    (Value.obj action).field "name" = .str n → DeclaresAction (.obj es) n

/-- Every remote action that a document declares is one of the wizard, under its name. -/
theorem mem_names_of_declaresAction {n : String} (h : DeclaresAction v n)
    (hread : readFields v = pure w) : n ∈ w.remoteActions.map RemoteAction.name := by
  obtain @⟨es, action, s, n, vs, hs, hfield, hmem, hname⟩ := h
  obtain ⟨-, -, -, -, -, hactions, -⟩ := readFields_obj_eq_pure.mp hread
  unfold fieldOr at hactions
  rw [hs] at hactions
  have hlist := under_eq_pure.mp hactions
  rw [hfield] at hlist
  obtain ⟨a, ha, haction⟩ := exists_read_of_mem_items hlist hmem
  have hnamed := read_of_field_singleton (RemoteAction.read_obj_eq_pure.mp haction).1
  rw [hname] at hnamed
  exact List.mem_map.mpr ⟨a, ha, (Value.str.inj (eq_of_name hnamed)).symm⟩

/-- **The names in a wizard.** A document is accepted exactly if its fields can be read and give a
well named wizard. Then every name of a step finds this step and no other name finds any, and the
same holds of remote actions. All other documents are refused as invalid: one whose fields can be
read for the one rule about names that is broken first, and one that names a remote action by what
is no identifier whatever else it holds. -/
theorem read_wellNamed (v : Value) :
    (∀ w, read v = .ok w ↔ readFields v = pure w ∧ w.IsWellNamed) ∧
    (∀ w, read v = .ok w → FindsByName w.step? Step.name w.steps ∧
      FindsByName w.remoteAction? RemoteAction.name w.remoteActions) ∧
    (∀ w, readFields v = pure w → ¬ w.IsWellNamed →
      ∃ text, read v = .error (.documentInvalid [⟨[], .invariant text⟩])) ∧
    ∀ n, DeclaresAction v n → ¬ IsIdentifier n →
      ∃ issues, read v = .error (.documentInvalid issues) := by
  refine ⟨fun w => read_eq_ok_iff_isWellNamed, fun w h => ?_, fun w hfields hnot => ?_,
    fun n hdeclares hnot => ?_⟩
  · have hnamed := (read_eq_ok_iff_isWellNamed.mp h).2
    exact ⟨findsByName_find? hnamed.steps, findsByName_find? hnamed.actions⟩
  · rw [← brokenRule?_eq_none_iff (isIdentifier_of_readFields hfields)] at hnot
    obtain ⟨text, htext⟩ := Option.ne_none_iff_exists'.mp hnot
    exact ⟨text, read_of_brokenRule? hfields htext⟩
  · refine exists_issues_of_forall_ne fun w h => hnot ?_
    obtain ⟨hfields, hnamed⟩ := read_eq_ok_iff_isWellNamed.mp h
    obtain ⟨a, ha, rfl⟩ := List.mem_map.mp (mem_names_of_declaresAction hdeclares hfields)
    exact hnamed.identifiers a ha

end Wizard

/-! ### A well named wizard, and two documents that are refused -/

/-- A remote action under a name, the encoding of its body in the second spelling. -/
def actionNamed (n : String) : Value :=
  .obj [(.str "name", .str n), (.str "method", .str "GET"), (.str "url", .str "u"),
    (.str "content_type", .str "JSON")]

/-- A document with two steps and two remote actions. -/
def twoStepDocument (initial action : String) : Value :=
  .obj [(.str "name", .str "w"), (.str "initial_step", .str initial),
    (.str "steps", .list [.obj [(.str "name", .str "A")], .obj [(.str "name", .str "B")]]),
    (.str "remote_actions", .list [actionNamed "_a1", actionNamed action])]

/-- The remote action under a name. -/
def RemoteAction.named (n : String) : RemoteAction :=
  ⟨n, .get, "u", .json, none, none, none, none, .query, none, []⟩

/-- The wizard that the document describes. -/
def twoStepWizard (initial action : String) : Wizard :=
  ⟨"w", none, initial, none,
    [⟨"A", none, none, none, [], [], []⟩, ⟨"B", none, none, none, [], [], []⟩],
    [.named "_a1", .named action], []⟩

/-- An initial step that is none and a name with a hyphen are refused. -/
theorem Wizard.read_wellNamed_twoSteps :
    (∃ w, read (twoStepDocument "B" "a2") = .ok w ∧ w.IsWellNamed ∧
      FindsByName w.step? Step.name w.steps ∧
      FindsByName w.remoteAction? RemoteAction.name w.remoteActions) ∧
    (∃ text, read (twoStepDocument "C" "a2") = .error (.documentInvalid [⟨[], .invariant text⟩])) ∧
    ∃ issues, read (twoStepDocument "B" "a-2") = .error (.documentInvalid issues) := by
  have hread : read (twoStepDocument "B" "a2") = .ok (twoStepWizard "B" "a2") := rfl
  have hfields : readFields (twoStepDocument "C" "a2") = pure (twoStepWizard "C" "a2") := rfl
  have hlost : ¬ (twoStepWizard "C" "a2").IsWellNamed := by
    rintro ⟨-, -, -, s, hs, hname⟩
    simp only [twoStepWizard, List.mem_cons, List.not_mem_nil, or_false] at hs hname
    rcases hs with rfl | rfl <;> exact absurd hname (by decide)
  have hhyphen : ¬ IsIdentifier "a-2" := fun h =>
    absurd (isName_iff_isIdentifier.mpr h) (by decide)
  have hdeclares : DeclaresAction (twoStepDocument "B" "a-2") "a-2" :=
    .intro rfl rfl (List.mem_cons_of_mem _ List.mem_cons_self) rfl
  obtain ⟨haccepted, hfinds, -, -⟩ := read_wellNamed (twoStepDocument "B" "a2")
  obtain ⟨-, -, hrefused, -⟩ := read_wellNamed (twoStepDocument "C" "a2")
  obtain ⟨-, -, -, hmisnamed⟩ := read_wellNamed (twoStepDocument "B" "a-2")
  exact ⟨⟨_, hread, ((haccepted _).mp hread).2, hfinds _ hread⟩, hrefused _ hfields hlost,
    hmisnamed _ hdeclares hhyphen⟩

end WizardLogic
