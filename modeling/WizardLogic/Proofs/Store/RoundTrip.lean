import Mathlib
import WizardLogic.Store.Directory
import WizardLogic.Proofs.Document.Nulls
import WizardLogic.Proofs.Yaml.RoundTrip

/-!
# Wizards stored in files and loaded again

A directory stores a wizard as indented JSON and reads all its files as YAML. Storing puts the
document in the file that is tried first when the wizard is loaded, so other files under the same
name do not count (`DirectoryStore.find?_of_save`), and the text of the document is read from the
file as it was written (`DirectoryStore.textOf_print`). What is left is the difference between the
two languages: the loaded wizard is the one that the document describes after `Value.asYaml`, for
which a number without a point is a text (`DirectoryStore.load_save`).

So storing and loading gives back a settled wizard, if its texts and keys are kept
(`Value.keptByYaml`) and its numbers have points, and it does not give back every wizard
(`DirectoryStore.not_same_load_save_tenToSixteen`).
-/

namespace WizardLogic

namespace DirectoryStore

variable {s s' : DirectoryStore} {name : Value} {w : Wizard}

/-! ### Files -/

/-- A file that was put into a directory is found there, whatever else there is. -/
theorem lookup_put (file text : String) (es : List (String × DirectoryEntry)) :
    (put file text es).lookup file = some (.file text) := by
  induction es with
  | nil => simp [put]
  | cons e es ih =>
    obtain ⟨f, e⟩ := e
    by_cases h : f = file
    · rw [put, if_pos h, h, List.lookup_cons_self]
    · have hne : (file == f) = false := beq_eq_false_iff_ne.mpr fun heq => h heq.symm
      rw [put, if_neg h, List.lookup_cons, hne, ih]

/-- The other files stay as they are. -/
theorem lookup_put_of_ne {file other text : String} (h : other ≠ file)
    (es : List (String × DirectoryEntry)) : (put file text es).lookup other = es.lookup other := by
  induction es with
  | nil => simp [put, List.lookup, beq_eq_false_iff_ne.mpr h]
  | cons e es ih =>
    obtain ⟨f, e⟩ := e
    by_cases hf : f = file
    · have hne : (other == f) = false := beq_eq_false_iff_ne.mpr fun heq => h (heq.trans hf)
      rw [put, if_pos hf, List.lookup_cons, List.lookup_cons, hne]
    · rw [put, if_neg hf, List.lookup_cons, List.lookup_cons, ih]

/-- **What storing does**: it puts the document of the wizard in the file that is tried first. -/
theorem exists_of_save (h : s.save name w = .ok s') : ∃ n, Store.nameOf name = .ok n ∧
    s'.entries = put (n ++ ".json") (Json.print .indented w.jsonDocument) s.entries ∧
    s'.path = s.path := by
  unfold save at h
  cases hname : Store.nameOf name with
  | error e =>
    rw [hname] at h
    cases h
  | ok n =>
    rw [hname] at h
    simp only [bind, Except.bind] at h
    split at h
    · cases h
    · obtain rfl := Except.ok.inj h
      exact ⟨n, rfl, rfl, rfl⟩

/-- Storing succeeds under a name, unless a directory takes the place of the file. -/
theorem exists_save {n : String} (hname : Store.nameOf name = .ok n)
    (hfile : s.entries.lookup (n ++ ".json") ≠ some .directory) (w : Wizard) :
    ∃ s', s.save name w = .ok s' := by
  unfold save
  rw [hname]
  simp only [bind, Except.bind, if_neg hfile]
  exact ⟨_, rfl⟩

/-- The file that was stored is the one that is found. -/
theorem find?_of_save (h : s.save name w = .ok s') : ∃ n, Store.nameOf name = .ok n ∧
    s'.find? n = some (n ++ ".json", textOf (Json.print .indented w.jsonDocument)) := by
  obtain ⟨n, hname, hentries, -⟩ := exists_of_save h
  refine ⟨n, hname, ?_⟩
  rw [find?, hentries, endings, List.findSome?_cons, lookup_put]

/-- A file of another name differs from the one that is stored: its ending does not make up for the
name. -/
theorem append_ne_append {m n ending : String} (hending : ending ∈ endings) (hne : m ≠ n) :
    m ++ ending ≠ n ++ ".json" := by
  intro heq
  have hlists : m.toList ++ ending.toList = n.toList ++ ".json".toList := by
    simpa using congrArg String.toList heq
  have hlast := congrArg List.getLast? hlists
  simp only [endings, List.mem_cons, List.not_mem_nil, or_false] at hending
  rcases hending with rfl | rfl | rfl
  · exact hne (String.toList_injective (List.append_cancel_right hlists))
  · simp at hlast
  · simp at hlast

/-- The files under other names are found as before. -/
theorem find?_of_save_of_ne {m n : String} (h : s.save name w = .ok s')
    (hname : Store.nameOf name = .ok n) (hne : m ≠ n) : s'.find? m = s.find? m := by
  obtain ⟨n', hname', hentries, -⟩ := exists_of_save h
  obtain rfl := Except.ok.inj (hname.symm.trans hname')
  have hlookup : ∀ ending ∈ endings,
      s'.entries.lookup (m ++ ending) = s.entries.lookup (m ++ ending) := fun ending hending => by
    rw [hentries, lookup_put_of_ne (append_ne_append hending hne)]
  simp only [endings, List.forall_mem_cons] at hlookup
  obtain ⟨hjson, hyaml, hyml, -⟩ := hlookup
  simp only [find?, endings, List.findSome?_cons, List.findSome?_nil, hjson, hyaml, hyml]

/-- **Storing a wizard leaves the others alone.** -/
theorem load_of_save_of_ne {other : Value} {m n : String} (h : s.save name w = .ok s')
    (hname : Store.nameOf name = .ok n) (hother : Store.nameOf other = .ok m) (hne : m ≠ n) :
    s'.load other = s.load other := by
  obtain ⟨-, -, -, hpath⟩ := exists_of_save h
  unfold load
  rw [hother]
  simp only [bind, Except.bind, find?_of_save_of_ne h hname hne, hpath, pathOf]

/-! ### The round trip -/

/-- The text of a kept value is read from a file as it is. -/
theorem textOf_print {v : Value} (hjson : v.IsJson) (hkept : v.keptByYaml = true) :
    textOf (Json.print .indented v) = Json.print .indented v := by
  have hsteady : ∀ c ∈ Json.write .indented 0 v, c ≠ '\r' := fun c hc =>
    bne_iff_ne.mp (Bool.and_eq_true_iff.mp (Yaml.isSteady_write hjson hkept 0 c hc)).2
  rw [textOf, Json.print, String.toList_ofList, Text.shortLineEnds_eq_self hsteady]

/-- What is stored of a wizard is an object. -/
theorem exists_jsonDocument_eq (w : Wizard) : ∃ es, w.jsonDocument = .obj es := by
  rw [Wizard.jsonDocument, Wizard.document, Wizard.toValue_eq, Nulls.objectOf_dropped,
    Value.withTextKeys]
  exact ⟨_, rfl⟩

/-- What is loaded is what the stored document is read as. -/
theorem load_of_save (hjson : w.jsonDocument.IsJson) (hkept : w.jsonDocument.keptByYaml = true)
    (hsave : s.save name w = .ok s') :
    s'.load name = (Wizard.read w.jsonDocument.asYaml).mapError Failure.error := by
  obtain ⟨n, hname, hfind⟩ := find?_of_save hsave
  obtain ⟨es, hdocument⟩ := exists_jsonDocument_eq w
  rw [textOf_print hjson hkept] at hfind
  rw [hdocument] at hjson hkept
  unfold load
  rw [hname]
  simp only [bind, Except.bind, hfind]
  rw [wizardOf, hdocument, Yaml.read_print hjson hkept, Value.asYaml]

/-- **Loading gives what is read from the document that was stored**: whatever else is in the
directory, a wizard that was read from JSON and stored is loaded as the wizard that its document
describes, but for numbers without a point, which have become texts. If there are none and the
wizard is settled, it is loaded as it is. -/
theorem load_save {v : Value} (hjson : v.IsJson) (hread : Wizard.read v = .ok w)
    (hkept : w.document.keptByYaml = true) (hsave : s.save name w = .ok s') :
    s'.load name = (Wizard.read w.document.asYaml).mapError Failure.error ∧
      (w.document.asYaml = w.document → w.isSettled = true → s'.load name = .ok w) := by
  have hdocument := Wizard.jsonDocument_eq_document hjson hread
  have hload := load_of_save (hdocument ▸ Wizard.isJson_document hjson hread) (hdocument ▸ hkept)
    hsave
  rw [hdocument] at hload
  refine ⟨hload, fun hpoints hsettled => ?_⟩
  rw [hload, hpoints, Wizard.read_document_of_isSettled hread hsettled]
  rfl

end DirectoryStore

/-! ### Wizards with an unknown field -/

/-- A wizard of one step with an unknown field. -/
def extraWizard (extra : Value) : Wizard :=
  ⟨"w", none, "A", none, [⟨"A", none, none, none, [], [], []⟩], [], [(.str "extra", extra)]⟩

/-- The document of a wizard of one step with an unknown field. -/
def extraDocument (extra : Value) : Value :=
  .obj [(.str "name", .str "w"), (.str "initialStep", .str "A"),
    (.str "steps", .list [.obj [(.str "name", .str "A")]]), (.str "extra", extra)]

section Extra

variable {extra : Value}

theorem Wizard.read_extraDocument (extra : Value) :
    Wizard.read (extraDocument extra) = .ok (extraWizard extra) := rfl

theorem isJson_extraDocument (h : extra.IsJson) : (extraDocument extra).IsJson := by
  simp [extraDocument, Value.isJson_obj, Value.isJson_list, Entries.keys, Value.IsJson.str, h]

theorem read_document_extraWizard (h : extra.isNull = false) :
    Wizard.read (extraWizard extra).document = .ok (extraWizard extra) := by
  refine Wizard.read_document_of_isSettled (Wizard.read_extraDocument extra) ?_
  cases extra with
  | null => cases h
  | _ => rfl

theorem document_extraWizard (h : extra.isNull = false) : (extraWizard extra).document =
    .obj [(.str "name", .str "w"), (.str "initialStep", .str "A"),
      (.str "steps", .list [.obj [(.str "name", .str "A"), (.str "components", .list []),
        (.str "events", .obj [])]]),
      (.str "remoteActions", .list []), (.str "extra", extra)] := by
  cases extra with
  | null => cases h
  | _ => rfl

/-- Of the document, only the unknown field may be read as something else. -/
theorem asYaml_document_extraWizard (h : extra.isNull = false) :
    (extraWizard extra).document.asYaml = (extraWizard extra.asYaml).document := by
  rw [document_extraWizard h, document_extraWizard (extra.isNull_asYaml.trans h)]
  rfl

end Extra

/-- An unknown field with texts and numbers of several spellings. -/
def spelledExtra : Value :=
  .obj [(.str "é \"\n", .list [.str "a\u2028b\t", .int (-12345678901234567890), .null]),
    (.str "<<", .float (.finite true 6755399441055744 1022 (by decide)))]

/-- A directory with other files. -/
def crowdedStore : DirectoryStore :=
  ⟨"wizards", some [("w.yaml", .file "name: other"), ("w.json", .file "[]"), ("d.json", .directory)]⟩

/-- The wizard with that field is loaded as it was stored. -/
theorem DirectoryStore.load_save_spelled :
    (extraDocument spelledExtra).IsJson ∧
      Wizard.read (extraDocument spelledExtra) = .ok (extraWizard spelledExtra) ∧
      (extraWizard spelledExtra).document.keptByYaml = true ∧
      ∃ s', crowdedStore.save (.str "w") (extraWizard spelledExtra) = .ok s' ∧
        s'.load (.str "w") = .ok (extraWizard spelledExtra) := by
  have hfloat : (Value.float (.finite true 6755399441055744 1022 (by decide))).IsJson := .float rfl
  have hextra : spelledExtra.IsJson := by
    simp [spelledExtra, Value.isJson_obj, Value.isJson_list, Entries.keys, Value.IsJson.str,
      Value.IsJson.int, Value.IsJson.null, hfloat]
  have hpoint : (Double.finite true 6755399441055744 1022 (by decide)).chars.contains '.' = true := by
    decide +kernel
  have hsame : spelledExtra.asYaml = spelledExtra := by
    simp only [spelledExtra, Value.asYaml, Value.asYamlEntries, Value.asYamlItems, hpoint, reduceIte]
  obtain ⟨s', hsave⟩ := exists_save (s := crowdedStore)
    (rfl : Store.nameOf (.str "w") = .ok "w") (by decide) (extraWizard spelledExtra)
  have hjson := isJson_extraDocument hextra
  have hread := Wizard.read_extraDocument spelledExtra
  have hkept : (extraWizard spelledExtra).document.keptByYaml = true := by decide +kernel
  have hdocument : (extraWizard spelledExtra).document.asYaml =
      (extraWizard spelledExtra).document := by
    rw [asYaml_document_extraWizard rfl, hsame]
  have hload := load_save hjson hread hkept hsave
  exact ⟨hjson, hread, hkept, s', hsave, hload.2 hdocument (by decide)⟩

/-- The number `1e+16`. -/
def tenToSixteen : Double := .finite false 5000000000000000 1075 (by decide)

/-- **A wizard is not always loaded as its document describes it**: a number that is spelled without
a point has become a text. -/
theorem DirectoryStore.not_same_load_save_tenToSixteen :
    ∃ w s' w', (extraDocument (.float tenToSixteen)).IsJson ∧
      Wizard.read (extraDocument (.float tenToSixteen)) = .ok w ∧
      (⟨"wizards", none⟩ : DirectoryStore).save (.str "w") w = .ok s' ∧
      s'.load (.str "w") = .ok w' ∧ Wizard.read w.document = .ok w ∧ w'.same w = false := by
  have hchars : tenToSixteen.chars = ['1', 'e', '+', '1', '6'] := by decide +kernel
  have htext : (Value.float tenToSixteen).asYaml = .str "1e+16" := by
    rw [Value.asYaml, hchars]
    rfl
  have hextra : (Value.float tenToSixteen).IsJson := .float rfl
  have hjson := isJson_extraDocument hextra
  have hread := Wizard.read_extraDocument (.float tenToSixteen)
  obtain ⟨s', hsave⟩ := exists_save (s := ⟨"wizards", none⟩)
    (rfl : Store.nameOf (.str "w") = .ok "w") (by decide) (extraWizard (.float tenToSixteen))
  have hdocument := Wizard.jsonDocument_eq_document hjson hread
  have hload := load_of_save (hdocument ▸ Wizard.isJson_document hjson hread)
    (hdocument ▸ (by decide +kernel)) hsave
  rw [hdocument, asYaml_document_extraWizard rfl, htext, read_document_extraWizard rfl] at hload
  exact ⟨_, s', _, hjson, hread, hsave, hload, read_document_extraWizard rfl, rfl⟩

end WizardLogic
