import Mathlib
import WizardLogic.Proofs.Store.Names

/-!
# The names in a directory

A directory goes two ways between names and files. Listing starts from the files: of each it takes
the ending off and keeps what is left, if the ending is one of those that wizards have
(`DirectoryStore.mem_names_iff`). Loading starts from a name and tries the endings in order
(`DirectoryStore.finds_iff`). The two ways meet because an ending has only the point that it starts
with, so nothing but the name is left when it is taken off (`DirectoryStore.splitEnding_append`).

What they do not agree on is what a name is: loading looks at the name first, and listing does not.
So a wizard is found under exactly those of the listed names that are names
(`DirectoryStore.names_listed`), and a file that is called by anything else is listed and not found
(`DirectoryStore.not_finds_spaced`).
-/

namespace WizardLogic

/-! ### Lists in order -/

namespace Store

theorem nodup_eraseDups (names : List String) : names.eraseDups.Nodup := by
  match names with
  | [] => exact List.nodup_nil
  | n :: names =>
    have hlength := List.length_filter_le (fun m => !m == n) names
    rw [List.eraseDups_cons, List.nodup_cons, List.mem_eraseDups, List.mem_filter]
    exact ⟨by simp, nodup_eraseDups _⟩
termination_by names.length
decreasing_by simp only [List.length_cons]; omega

theorem mem_inOrder {n : String} {names : List String} : n ∈ inOrder names ↔ n ∈ names := by
  rw [inOrder, (List.mergeSort_perm _ _).mem_iff, List.mem_eraseDups]

/-- **A list in order** is ascending and has nothing twice. -/
theorem pairwise_inOrder (names : List String) : (inOrder names).Pairwise (· < ·) := by
  have hle : (inOrder names).Pairwise (· ≤ ·) := by
    have hsorted : (inOrder names).Pairwise fun a b => decide (a ≤ b) = true :=
      List.pairwise_mergeSort (by simpa using fun a b c => String.le_trans)
        (by simpa using String.le_total) names.eraseDups
    simpa using hsorted
  have hne : (inOrder names).Pairwise (· ≠ ·) :=
    (List.mergeSort_perm _ _).nodup_iff.mpr (nodup_eraseDups names)
  exact hle.imp₂ (fun _ _ hle hne => lt_of_le_of_ne hle hne) hne

end Store

namespace DirectoryStore

variable {s : DirectoryStore} {file : String} {n : String}

/-! ### Endings -/

/-- An ending is a point and something behind it in which there is no other. -/
theorem exists_of_mem_endings {ending : String} (h : ending ∈ endings) :
    ∃ cs, ending.toList = '.' :: cs ∧ cs ≠ [] ∧ '.' ∉ cs := by
  simp only [endings, List.mem_cons, List.not_mem_nil, or_false] at h
  rcases h with rfl | rfl | rfl
  · exact ⟨['j', 's', 'o', 'n'], rfl, by simp, by decide⟩
  · exact ⟨['y', 'a', 'm', 'l'], rfl, by simp, by decide⟩
  · exact ⟨['y', 'm', 'l'], rfl, by simp, by decide⟩

/-- A file is split at the last point of its name, if there is anything on both sides. -/
theorem splitEnding_of_eq {stem tail : List Char} (hfile : file.toList = stem ++ '.' :: tail)
    (hpoint : '.' ∉ tail) : splitEnding file =
      if stem = [] ∨ tail = [] then (file, "")
      else (String.ofList stem, String.ofList ('.' :: tail)) := by
  have htail : file.toList.reverse.takeWhile (· != '.') = tail.reverse := by
    have hall : ∀ c ∈ tail.reverse, (c != '.') = true := fun c hc =>
      bne_iff_ne.mpr fun heq => hpoint (heq ▸ List.mem_reverse.mp hc)
    rw [hfile, List.reverse_append, List.reverse_cons, List.append_assoc,
      List.takeWhile_append_of_pos hall]
    simp
  have hlength : file.toList.length = stem.length + (tail.length + 1) := by
    rw [hfile, List.length_append, List.length_cons]
  have hstem : file.toList.take (file.toList.length - tail.length - 1) = stem := by
    have hcount : file.toList.length - tail.length - 1 = stem.length := by omega
    rw [hcount, hfile, List.take_left]
  have hshorter : tail.length ≠ file.toList.length := by omega
  simp only [splitEnding, htail, hstem, List.reverse_reverse, List.isEmpty_reverse,
    List.length_reverse, decide_eq_false hshorter, Bool.or_false, Bool.or_eq_true,
    List.isEmpty_iff]

theorem splitEnding_of_not_mem (h : '.' ∉ file.toList) : splitEnding file = (file, "") := by
  have hall : ∀ c ∈ file.toList.reverse, (c != '.') = true := fun c hc =>
    bne_iff_ne.mpr fun heq => h (heq ▸ List.mem_reverse.mp hc)
  simp [splitEnding, List.takeWhile_eq_self_iff.mpr hall]

/-- **What is in front of an ending is what is left without it.** -/
theorem splitEnding_append {ending : String} (h : ending ∈ endings) (hne : n ≠ "") :
    splitEnding (n ++ ending) = (n, ending) := by
  obtain ⟨cs, hending, hcs, hpoint⟩ := exists_of_mem_endings h
  have hlist : (n ++ ending).toList = n.toList ++ '.' :: cs := by rw [String.toList_append, hending]
  rw [splitEnding_of_eq hlist hpoint, if_neg (by simpa [hcs] using hne), ← hending,
    String.ofList_toList, String.ofList_toList]

/-- Only an ending in front of which there is something is taken off. -/
theorem eq_append_of_splitEnding {ending : String} (h : splitEnding file = (n, ending))
    (hending : ending ≠ "") : file = n ++ ending ∧ n ≠ "" := by
  by_cases hmem : '.' ∈ file.toList
  · obtain ⟨rest, stem, hreverse, hpoint⟩ := List.eq_append_cons_of_mem (List.mem_reverse.mpr hmem)
    have hfile : file.toList = stem.reverse ++ '.' :: rest.reverse := by
      rw [← List.reverse_reverse file.toList, hreverse]
      simp
    rw [splitEnding_of_eq hfile (by simpa using hpoint)] at h
    split at h
    · exact absurd (Prod.mk.inj h).2.symm hending
    · next hsides =>
      obtain ⟨rfl, rfl⟩ := Prod.mk.inj h
      refine ⟨String.toList_injective (by simpa using hfile), ?_⟩
      simpa using (not_or.mp hsides).1
  · rw [splitEnding_of_not_mem hmem] at h
    exact absurd (Prod.mk.inj h).2.symm hending

/-- **A file is listed under what stands in front of its ending**, unless there is nothing. -/
theorem listed?_eq_some {e : DirectoryEntry} : listed? file e = some n ↔
    e.isFile = true ∧ n ≠ "" ∧ ∃ ending ∈ endings, file = n ++ ending := by
  constructor
  · intro h
    simp only [listed?] at h
    split at h
    · next hlisted =>
      obtain ⟨hending, hfile⟩ := Bool.and_eq_true_iff.mp hlisted
      obtain rfl := Option.some.inj h
      have hmem : (splitEnding file).2 ∈ endings := by simpa using hending
      have hne : (splitEnding file).2 ≠ "" := fun heq => by
        rw [heq] at hmem
        exact absurd hmem (by decide)
      obtain ⟨heq, hstem⟩ := eq_append_of_splitEnding rfl hne
      exact ⟨hfile, hstem, _, hmem, heq⟩
    · cases h
  · rintro ⟨hfile, hne, ending, hmem, rfl⟩
    simp only [listed?, splitEnding_append hmem hne, hfile, Bool.and_true]
    rw [if_pos (by simpa using hmem)]

/-! ### From files to names and from names to files -/

/-- **A directory has each name once.** -/
def HasDistinctFiles (s : DirectoryStore) : Prop := (s.entries.map Prod.fst).Nodup

theorem lookup_eq_some_iff {es : List (String × DirectoryEntry)} (h : (es.map Prod.fst).Nodup)
    {e : DirectoryEntry} : es.lookup file = some e ↔ (file, e) ∈ es := by
  rw [List.lookup_eq_some_iff]
  constructor
  · rintro ⟨before, after, rfl, -⟩
    simp
  · intro hmem
    obtain ⟨before, after, rfl⟩ := List.append_of_mem hmem
    refine ⟨before, after, rfl, fun e' he' => bne_iff_ne.mpr fun heq => ?_⟩
    rw [List.map_append, List.map_cons, List.nodup_append] at h
    exact h.2.2 _ (List.mem_map_of_mem he') _ List.mem_cons_self heq.symm

/-- **The names that are listed** are those that stand in front of an ending in the name of a
file. -/
theorem mem_names_iff : n ∈ s.names ↔
    n ≠ "" ∧ ∃ ending ∈ endings, ∃ text, (n ++ ending, .file text) ∈ s.entries := by
  rw [names, Store.mem_inOrder, List.mem_filterMap]
  constructor
  · rintro ⟨⟨file, e⟩, hmem, hlisted⟩
    obtain ⟨hfile, hne, ending, hending, rfl⟩ := listed?_eq_some.mp hlisted
    cases e with
    | file text => exact ⟨hne, ending, hending, text, hmem⟩
    | directory => cases hfile
  · rintro ⟨hne, ending, hending, text, hmem⟩
    exact ⟨_, hmem, listed?_eq_some.mpr ⟨rfl, hne, ending, hending, rfl⟩⟩

/-- A file is found for a name if there is one with the name in front of an ending. -/
theorem isSome_find? : (s.find? n).isSome = true ↔
    ∃ ending ∈ endings, ∃ text, s.entries.lookup (n ++ ending) = some (.file text) := by
  rw [find?, List.findSome?_isSome_iff]
  refine exists_congr fun ending => and_congr_right fun _ => ?_
  rcases s.entries.lookup (n ++ ending) with _ | (text | _) <;> simp

/-- **Whether there is a document under a name**: loading it does not end with the error that there
is none, however else it may end. -/
def Finds (s : DirectoryStore) (name : Value) : Prop :=
  ∀ e : Error, s.load name = .error e → e.family ≠ .documentMissing

/-- There is a document under the names for which there is a file. -/
theorem finds_iff {name : Value} :
    s.Finds name ↔ ∃ n, Store.nameOf name = .ok n ∧ (s.find? n).isSome = true := by
  by_cases haccepted : Store.IsAccepted name
  · obtain ⟨n, hn⟩ := Store.isAccepted_iff.mp haccepted
    have hload := s.load_of_nameOf hn
    cases hfind : s.find? n with
    | none =>
      rw [hfind] at hload
      refine ⟨fun h => absurd rfl (h _ hload), ?_⟩
      rintro ⟨m, hm, hsome⟩
      obtain rfl := Except.ok.inj (hn.symm.trans hm)
      rw [hfind] at hsome
      cases hsome
    | some found =>
      rw [hfind] at hload
      refine ⟨fun _ => ⟨n, hn, by rw [hfind]; rfl⟩, fun _ e he => ?_⟩
      rw [family_of_wizardOf (hload.symm.trans he)]
      exact nofun
  · refine ⟨fun h => absurd rfl (h _ (s.load_of_not_isAccepted haccepted)), ?_⟩
    rintro ⟨n, hn, -⟩
    exact absurd (Store.isAccepted_iff.mpr ⟨n, hn⟩) haccepted

/-- The two ways meet: a name is listed if a file is found for it. -/
theorem mem_names_iff_isSome_find? (hs : s.HasDistinctFiles) :
    n ∈ s.names ↔ n ≠ "" ∧ (s.find? n).isSome = true := by
  simp only [mem_names_iff, isSome_find?, lookup_eq_some_iff hs]

theorem ne_empty_of_isName (h : Store.isName n = true) : n ≠ "" := by
  rintro rfl
  exact absurd h (by decide)

/-- **A document is found under the listed names that are names.** -/
theorem finds_str_iff (hs : s.HasDistinctFiles) :
    s.Finds (.str n) ↔ n ∈ s.names ∧ Store.IsAccepted (.str n) := by
  have haccepted : Store.IsAccepted (.str n) ↔ Store.isName n = true := by
    rw [Store.isAccepted_iff]
    simp [Store.nameOf_eq_ok]
  rw [finds_iff, mem_names_iff_isSome_find? hs, haccepted]
  simp only [Store.nameOf_eq_ok, Value.str.injEq]
  constructor
  · rintro ⟨m, ⟨rfl, hname⟩, hfile⟩
    exact ⟨⟨ne_empty_of_isName hname, hfile⟩, hname⟩
  · rintro ⟨⟨-, hfile⟩, hname⟩
    exact ⟨n, ⟨rfl, hname⟩, hfile⟩

/-! ### Storing one more -/

variable {s' : DirectoryStore} {w : Wizard}

theorem map_fst_put (file text : String) (es : List (String × DirectoryEntry)) :
    (put file text es).map Prod.fst =
      if file ∈ es.map Prod.fst then es.map Prod.fst else es.map Prod.fst ++ [file] := by
  induction es with
  | nil => rfl
  | cons e es ih =>
    obtain ⟨f, e⟩ := e
    rw [put]
    split
    · next h => simp [h]
    · next h =>
      have hne : file ≠ f := Ne.symm h
      simp only [List.map_cons, List.mem_cons, hne, false_or, ih]
      split <;> rfl

/-- A directory keeps each name once. -/
theorem hasDistinctFiles_of_save (hs : s.HasDistinctFiles) {name : Value}
    (h : s.save name w = .ok s') : s'.HasDistinctFiles := by
  obtain ⟨n, -, hentries, -⟩ := exists_of_save h
  rw [HasDistinctFiles, hentries, map_fst_put]
  split
  · exact hs
  · next hnew =>
    exact List.nodup_append.mpr ⟨hs, by simp, fun f hf g hg heq =>
      hnew (List.mem_singleton.mp hg ▸ heq ▸ hf)⟩

/-- **Storing a wizard adds its name to the list** and no other. -/
theorem mem_names_of_save (hs : s.HasDistinctFiles) (h : s.save (.str n) w = .ok s') {m : String} :
    m ∈ s'.names ↔ m = n ∨ m ∈ s.names := by
  have hs' := hasDistinctFiles_of_save hs h
  obtain ⟨k, hname, hfind⟩ := find?_of_save h
  obtain ⟨heq, hisName⟩ := Store.nameOf_eq_ok.mp hname
  obtain rfl := Value.str.inj heq
  rw [mem_names_iff_isSome_find? hs, mem_names_iff_isSome_find? hs']
  by_cases hm : m = n
  · subst hm
    simp [hfind, ne_empty_of_isName hisName]
  · simp [hm, find?_of_save_of_ne h hname hm]

/-- **What a directory lists.** The list is ascending and has nothing twice, and the wizards that
are found are those under the listed names that are names. Under an accepted name a wizard can be
stored unless a directory has the name of the file, and then the name is listed beside those that
were. -/
theorem names_listed (hs : s.HasDistinctFiles) (w : Wizard) :
    s.names.Pairwise (· < ·) ∧
      (∀ n, s.Finds (.str n) ↔ n ∈ s.names ∧ Store.IsAccepted (.str n)) ∧
      ∀ n, Store.IsAccepted (.str n) →
        s.entries.lookup (n ++ ".json") = some .directory ∧
            s.save (.str n) w = .error (.fault .isDirectory) ∨
          ∃ s', s.save (.str n) w = .ok s' ∧ s'.HasDistinctFiles ∧
            ∀ m, m ∈ s'.names ↔ m = n ∨ m ∈ s.names := by
  refine ⟨Store.pairwise_inOrder _, fun n => finds_str_iff hs, fun n hn => ?_⟩
  obtain ⟨k, hname⟩ := Store.isAccepted_iff.mp hn
  obtain rfl := Value.str.inj (Store.nameOf_eq_ok.mp hname).1
  by_cases htaken : s.entries.lookup (n ++ ".json") = some .directory
  · refine .inl ⟨htaken, ?_⟩
    rw [save, hname]
    exact if_pos htaken
  · obtain ⟨s', hsave⟩ := exists_save hname htaken w
    exact .inr ⟨s', hsave, hasDistinctFiles_of_save hs hsave, fun m => mem_names_of_save hs hsave⟩

/-- A directory lists its wizards, and the one that is stored in it. -/
theorem names_listed_crowded : crowdedStore.HasDistinctFiles ∧
    ∃ s', crowdedStore.save (.str "new") (extraWizard (.bool true)) = .ok s' ∧
      "new" ∈ s'.names := by
  have hdistinct : crowdedStore.HasDistinctFiles := by
    unfold HasDistinctFiles
    decide
  have haccepted : Store.IsAccepted (.str "new") := Store.isAccepted_iff.mpr ⟨"new", rfl⟩
  have hlisted := names_listed hdistinct (extraWizard (.bool true))
  rcases hlisted.2.2 "new" haccepted with ⟨htaken, -⟩ | ⟨s', hsave, -, hnames⟩
  · exact absurd htaken (by decide)
  · exact ⟨hdistinct, s', hsave, (hnames "new").mpr (.inl rfl)⟩

/-- A directory with a file that is called by two words. -/
def spacedStore : DirectoryStore := ⟨"wizards", some [("a b.json", .file "\x7b\x7d")]⟩

/-- **Not every listed name is found**: what stands in front of the ending is no name. -/
theorem not_finds_spaced : spacedStore.HasDistinctFiles ∧ "a b" ∈ spacedStore.names ∧
    ¬ spacedStore.Finds (.str "a b") := by
  refine ⟨List.nodup_singleton _, ?_, fun h => ?_⟩
  · exact mem_names_iff.mpr ⟨by decide, ".json", List.mem_cons_self, _, List.mem_cons_self⟩
  · obtain ⟨n, hn, -⟩ := finds_iff.mp h
    obtain ⟨heq, hname⟩ := Store.nameOf_eq_ok.mp hn
    obtain rfl := Value.str.inj heq
    exact absurd hname (by decide)

end DirectoryStore

end WizardLogic
