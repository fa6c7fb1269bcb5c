import Mathlib
import WizardLogic.Regex.Parser
import WizardLogic.Regex.Matcher
import WizardLogic.Store.Memory
import WizardLogic.Proofs.Store.RoundTrip

/-!
# Names and the files they lead to

A store looks at the name before it does anything else. A plain name (`Store.IsPlain`) is a text of
ASCII letters, digits, underscores and hyphens that is not empty. All plain names pass, and what
else passes is a plain name with a line feed behind it (`Store.isName_iff`): the check asks for what
the pattern `^[A-Za-z0-9_-]+$` matches (`Store.isName_eq_search`), and its last sign holds before a
line feed that ends the text as well as at the very end.

A name that does not pass is refused by every store whatever it holds
(`Store.names_checked`). Under a name that does, a directory writes one file, whose name has no
slash and is not made of points alone. So however many wizards are stored, every file that comes
into being lies directly in the directory (`Path.isDirectlyIn_inDirectory`).
-/

namespace WizardLogic

/-! ### Plain names -/

namespace Store

/-- **A plain name.** -/
structure IsPlain (s : String) : Prop where
  ne_nil : s.toList ≠ []
  chars : ∀ c ∈ s.toList, isNameChar c = true

/-- What passes for a name: a plain name, also with a line feed behind it. -/
def IsAccepted (name : Value) : Prop :=
  ∃ n, IsPlain n ∧ (name = .str n ∨ name = .str (n ++ "\n"))

theorem dropLineFeed_append (cs : List Char) : dropLineFeed (cs ++ ['\n']) = cs := by
  simp [dropLineFeed]

/-- A line feed is dropped from the end only. -/
theorem dropLineFeed_cons (c : Char) (cs : List Char) :
    dropLineFeed (c :: cs) = if cs = [] ∧ c = '\n' then [] else c :: dropLineFeed cs := by
  cases cs with
  | nil => by_cases hc : c = '\n' <;> simp [dropLineFeed, hc]
  | cons d cs =>
    simp only [dropLineFeed, List.getLast?_cons_cons, List.dropLast_cons_cons, reduceCtorEq,
      false_and, if_false]
    split <;> rfl

/-- A text is what is left without its line feed, with or without one behind. -/
theorem eq_dropLineFeed_or (cs : List Char) :
    cs = dropLineFeed cs ∨ cs = dropLineFeed cs ++ ['\n'] := by
  unfold dropLineFeed
  split
  · next h => exact .inr (List.dropLast_append_getLast? '\n' h).symm
  · exact .inl rfl

theorem dropLineFeed_eq_self {cs : List Char} (h : '\n' ∉ cs) : dropLineFeed cs = cs := by
  rw [dropLineFeed, if_neg fun hlast => h (List.mem_of_getLast? hlast)]

theorem ne_lineFeed_of_isNameChar {c : Char} (h : isNameChar c = true) : c ≠ '\n' := by
  rintro rfl
  exact absurd h (by decide)

theorem IsPlain.lineFeed_not_mem {n : String} (h : IsPlain n) : '\n' ∉ n.toList := fun hmem =>
  ne_lineFeed_of_isNameChar (h.chars _ hmem) rfl

/-- **What passes for a name.** -/
theorem isName_iff {s : String} : isName s = true ↔ ∃ n, IsPlain n ∧ (s = n ∨ s = n ++ "\n") := by
  have hplain (n : String) :
      (!n.toList.isEmpty && n.toList.all isNameChar) = true ↔ IsPlain n := by
    simp only [Bool.and_eq_true, Bool.not_eq_true', List.isEmpty_eq_false_iff, List.all_eq_true]
    exact ⟨fun h => ⟨h.1, h.2⟩, fun h => ⟨h.ne_nil, h.chars⟩⟩
  unfold isName
  constructor
  · intro h
    refine ⟨String.ofList (dropLineFeed s.toList), (hplain _).mp (by simpa using h), ?_⟩
    exact (eq_dropLineFeed_or s.toList).imp
      (fun heq => String.toList_injective (by simpa using heq))
      (fun heq => String.toList_injective (by simpa using heq))
  · rintro ⟨n, hn, rfl | rfl⟩
    · rw [dropLineFeed_eq_self hn.lineFeed_not_mem]
      exact (hplain _).mpr hn
    · have hlist : (n ++ "\n").toList = n.toList ++ ['\n'] := by simp
      rw [hlist, dropLineFeed_append]
      exact (hplain n).mpr hn

/-! ### The pattern of names -/

/-- One of the characters that the pattern lists. -/
def nameCharacter : Regex.Node :=
  .set false [.range 65 90, .range 97 122, .range 48 57, .char '_', .char '-'] false false

/-- The expression of the pattern: at the start of the text, one or more of the characters, and
then the end of the text. -/
def nameExpression : Regex.Node :=
  .sequence [.start false, .repetition 1 none .greedy nameCharacter, .finish false]

theorem parse_namePattern : Regex.parse "^[A-Za-z0-9_-]+$" = .ok nameExpression := by cbv

section Matching

variable {before cs : List Char} {position : Nat} {groups : List (Nat × List Char)}

theorem run_nameCharacter_nil (k : Regex.Rest) :
    nameCharacter.run ⟨before, [], position, groups⟩ k = none := rfl

theorem run_nameCharacter_cons (c : Char) (k : Regex.Rest) :
    nameCharacter.run ⟨before, c :: cs, position, groups⟩ k =
      if isNameChar c then k ⟨c :: before, cs, position + 1, groups⟩ else none := by
  have hlisted : ([.range 65 90, .range 97 122, .range 48 57, .char '_', .char '-'].any
      (Regex.SetItem.holds false false c) != false) = isNameChar c := by
    rw [Bool.eq_iff_iff]
    simp [Regex.SetItem.holds, isNameChar, Char.isAlphanum, Char.isAlpha, Char.isUpper,
      Char.isLower, Char.isDigit, UInt32.le_iff_toNat_le]
    tauto
  rw [nameCharacter, Regex.Node.run, ← hlisted]
  rfl

/-- What remains of the expression behind the characters. -/
def nameEnd : Regex.Rest := fun q => Regex.runAll [.finish false] q some

theorem isSome_nameEnd :
    (nameEnd ⟨before, cs, position, groups⟩).isSome = true ↔ cs = [] ∨ cs = ['\n'] := by
  simp only [nameEnd, Regex.runAll, Regex.Node.run]
  rcases cs with _ | ⟨c, _ | ⟨d, cs⟩⟩
  · simp [Regex.Place.isFinish]
  · by_cases hc : c = '\n' <;> simp [Regex.Place.isFinish, hc]
  · simp [Regex.Place.isFinish]

end Matching

/-- Another round of a repetition that has had enough of them: it is tried first, and what remains
is matched at once if that leads nowhere. -/
theorem repeatFrom_of_le {body : Regex.Place → Regex.Rest → Option Regex.Place}
    {lo fuel count : Nat} {last : Option Nat} {p : Regex.Place} {k : Regex.Rest}
    (hcount : lo ≤ count) (hlast : last ≠ some p.position) :
    Regex.repeatFrom body lo none false (fuel + 1) count last p k =
      (body p fun q => Regex.repeatFrom body lo none false fuel (count + 1) (some p.position) q
        k).or (k p) := by
  rw [Regex.repeatFrom, if_neg (Nat.not_lt.mpr hcount)]
  simp only [reduceCtorEq, decide_false, Bool.false_or, decide_eq_true_eq, if_neg hlast,
    Bool.false_eq_true, if_false]
  cases body p _ <;> rfl

/-- Going on with the characters of a name leads to the end of the text, or to a line feed in front
of it. -/
theorem isSome_repeatFrom_nameCharacter {fuel count position : Nat} {last : Option Nat}
    {before cs : List Char} {groups : List (Nat × List Char)} (hfuel : cs.length < fuel)
    (hcount : 1 ≤ count) (hlast : ∀ n ∈ last, n < position) :
    (Regex.repeatFrom (fun p k => nameCharacter.run p k) 1 none false fuel count last
      ⟨before, cs, position, groups⟩ nameEnd).isSome = (dropLineFeed cs).all isNameChar := by
  have hmoved : last ≠ some position := fun h => Nat.lt_irrefl _ (hlast position h)
  induction cs generalizing fuel count position last before with
  | nil =>
    obtain ⟨fuel, rfl⟩ : ∃ n, fuel = n + 1 := ⟨fuel - 1, by omega⟩
    rw [repeatFrom_of_le hcount hmoved, run_nameCharacter_nil, Option.none_or]
    exact isSome_nameEnd.mpr (.inl rfl)
  | cons c cs ih =>
    obtain ⟨fuel, rfl⟩ : ∃ n, fuel = n + 1 := ⟨fuel - 1, by omega⟩
    rw [List.length_cons] at hfuel
    rw [repeatFrom_of_le hcount hmoved, run_nameCharacter_cons, Option.isSome_or, dropLineFeed_cons,
      Bool.eq_iff_iff, Bool.or_eq_true, isSome_nameEnd]
    by_cases hc : isNameChar c = true
    -- A character of a name is no line feed, so only another round can succeed.
    · have hne := ne_lineFeed_of_isNameChar hc
      rw [if_pos hc, ih (by omega) (by omega) (by simp) (by simp), if_neg fun h => hne h.2,
        List.all_cons, hc, Bool.true_and]
      simp [hne]
    · rw [if_neg hc]
      by_cases hend : cs = [] ∧ c = '\n'
      · simp [hend]
      · simp only [if_neg hend, List.all_cons, hc, Option.isSome_none, Bool.false_and, reduceCtorEq,
          false_or, List.cons.injEq, Bool.false_eq_true, iff_false]
        exact fun h => hend ⟨h.2, h.1⟩

/-- **The check is the pattern**: what passes for a name is what the pattern is found in. -/
theorem isName_eq_search (s : String) : isName s = nameExpression.search s := by
  -- The expression begins with the start of the text, so it is found there or nowhere.
  have helsewhere (before cs : List Char) (c : Char) (position : Nat) :
      Regex.searchFrom nameExpression (c :: before) position cs = false := by
    induction cs generalizing before c position with
    | nil => rfl
    | cons d cs ih =>
      rw [Regex.searchFrom, ih, Bool.or_false]
      rfl
  have hstart (cs : List Char) : nameExpression.run ⟨[], cs, 0, []⟩ some =
      Regex.repeatFrom (fun p k => nameCharacter.run p k) 1 none false (1 + cs.length + 2) 0 none
        ⟨[], cs, 0, []⟩ nameEnd := rfl
  unfold isName Regex.Node.search
  cases s.toList with
  | nil => rfl
  | cons c cs =>
    rw [Regex.searchFrom, helsewhere, Bool.or_false, hstart, Regex.repeatFrom, if_pos (by omega),
      run_nameCharacter_cons, dropLineFeed_cons]
    by_cases hc : isNameChar c = true
    · have hne := ne_lineFeed_of_isNameChar hc
      rw [if_pos hc, isSome_repeatFrom_nameCharacter (by rw [List.length_cons]; omega)
        (by omega) (by simp), if_neg fun h => hne h.2]
      simp [hc]
    · rw [if_neg hc]
      by_cases hend : cs = [] ∧ c = '\n' <;> simp [hend, hc]

/-! ### The check -/

theorem nameOf_eq_ok {name : Value} {n : String} :
    nameOf name = .ok n ↔ name = .str n ∧ isName n = true := by
  cases name with
  | str s =>
    by_cases h : isName s = true
    · simp only [nameOf, if_pos h, Except.ok.injEq, Value.str.injEq]
      exact ⟨fun heq => ⟨heq, heq ▸ h⟩, And.left⟩
    · simp only [nameOf, if_neg h, reduceCtorEq, Value.str.injEq, false_iff]
      rintro ⟨rfl, hname⟩
      exact h hname
  | _ => simp [nameOf]

/-- What is accepted is a name. -/
theorem isAccepted_iff {name : Value} : IsAccepted name ↔ ∃ n, nameOf name = .ok n := by
  simp only [nameOf_eq_ok, isName_iff]
  constructor
  · rintro ⟨n, hn, hname | hname⟩
    · exact ⟨n, hname, n, hn, .inl rfl⟩
    · exact ⟨n ++ "\n", hname, n, hn, .inr rfl⟩
  · rintro ⟨_, rfl, n, hn, hspelled⟩
    exact ⟨n, hn, hspelled.imp (congrArg Value.str) (congrArg Value.str)⟩

/-- What is not accepted is refused. -/
theorem nameOf_of_not_isAccepted {name : Value} (h : ¬ IsAccepted name) :
    nameOf name = .error (Error.wizardName name) := by
  rw [isAccepted_iff] at h
  unfold nameOf at h ⊢
  split
  · next s =>
    split
    · next hname => exact absurd ⟨s, if_pos hname⟩ h
    · rfl
  · rfl

end Store

/-! ### Files in a directory -/

namespace Path

/-- **A path that leads directly into a directory**: it starts as the directory's path does and
makes one step more, which does not lead upwards. -/
structure IsDirectlyIn (path directory : String) : Prop where
  root_eq : root path.toList = root directory.toList
  exists_steps : ∃ name, steps path.toList = steps directory.toList ++ [name] ∧ name ≠ ['.', '.']

theorem exists_parts_eq_cons (cs : List Char) : ∃ p ps, parts cs = p :: ps := by
  cases cs with
  | nil => exact ⟨_, _, rfl⟩
  | cons c cs =>
    rw [parts]
    split
    · exact ⟨_, _, rfl⟩
    · split <;> exact ⟨_, _, rfl⟩

/-- A slash ends a part. -/
theorem parts_append_slash (cs ds : List Char) :
    parts (cs ++ '/' :: ds) = parts cs ++ parts ds := by
  induction cs with
  | nil => simp [parts]
  | cons c cs ih =>
    obtain ⟨p, ps, hparts⟩ := exists_parts_eq_cons cs
    rw [List.cons_append, parts, parts, ih, hparts]
    split <;> rfl

theorem parts_of_not_mem {cs : List Char} (h : '/' ∉ cs) : parts cs = [cs] := by
  induction cs with
  | nil => rfl
  | cons c cs ih =>
    obtain ⟨hc, hcs⟩ := List.ne_and_not_mem_of_not_mem_cons h
    rw [parts, if_neg hc.symm, ih hcs]

section InDirectory

variable {directory file : String}

/-- A path in a directory is the path of the directory, a slash unless there is one, and the
file. -/
theorem toList_inDirectory_cases (directory file : String) :
    directory = "." ∧ (inDirectory directory file).toList = file.toList ∨
      (∃ cs, directory.toList = cs ++ ['/'] ∧
        (inDirectory directory file).toList = cs ++ '/' :: file.toList) ∨
      directory.toList.getLast? ≠ some '/' ∧
        (inDirectory directory file).toList = directory.toList ++ '/' :: file.toList := by
  unfold inDirectory
  split
  · next h => exact .inl ⟨h, rfl⟩
  · split
    · next h =>
      refine .inr (.inl ⟨directory.toList.dropLast, (List.dropLast_append_getLast? '/' h).symm, ?_⟩)
      rw [String.toList_append, ← List.dropLast_append_getLast? '/' h]
      simp
    · next h =>
      refine .inr (.inr ⟨h, ?_⟩)
      rw [String.toList_append, String.toList_append]
      simp

/-- A file in a directory is one step further. -/
theorem steps_inDirectory (hslash : '/' ∉ file.toList) (hne : file.toList ≠ [])
    (hpoint : file.toList ≠ ['.']) :
    steps (inDirectory directory file).toList = steps directory.toList ++ [file.toList] := by
  have hfile : steps file.toList = [file.toList] := by
    rw [steps, parts_of_not_mem hslash, List.filter_cons_of_pos (by simp [hne, hpoint]),
      List.filter_nil]
  have hsteps (cs : List Char) : steps (cs ++ '/' :: file.toList) = steps cs ++ [file.toList] := by
    rw [← hfile, steps, parts_append_slash, List.filter_append]
    rfl
  rcases toList_inDirectory_cases directory file with
    ⟨rfl, hpath⟩ | ⟨cs, hdirectory, hpath⟩ | ⟨-, hpath⟩
  · rw [hpath, hfile]
    rfl
  -- What stands behind the last slash of the directory is empty and leads nowhere.
  · have hempty : steps (cs ++ ['/']) = steps cs := by
      rw [steps, parts_append_slash, List.filter_append]
      exact List.append_nil _
    rw [hpath, hdirectory, hsteps, hempty]
  · rw [hpath, hsteps]

/-- A file in a directory is under the same root. -/
theorem root_inDirectory (hdirectory : directory ≠ "") (hslash : '/' ∉ file.toList) :
    root (inDirectory directory file).toList = root directory.toList := by
  have hfile : file.toList.takeWhile (· = '/') = [] := by
    rw [List.takeWhile_eq_nil_iff]
    rintro hpos hhead
    exact hslash (of_decide_eq_true hhead ▸ List.getElem_mem hpos)
  suffices hslashes : (inDirectory directory file).toList.takeWhile (· = '/') =
      directory.toList.takeWhile (· = '/') by rw [root, hslashes, root]
  have hwhole (h : (directory.toList.takeWhile (· = '/')).length = directory.toList.length) :
      directory.toList.takeWhile (· = '/') = directory.toList :=
    (List.takeWhile_prefix _).eq_of_length h
  rcases toList_inDirectory_cases directory file with
    ⟨rfl, hpath⟩ | ⟨cs, hends, hpath⟩ | ⟨hends, hpath⟩
  · rw [hpath, hfile]
    rfl
  · have hsplit : cs ++ '/' :: file.toList = directory.toList ++ file.toList := by simp [hends]
    rw [hpath, hsplit, List.takeWhile_append, hfile, List.append_nil]
    split
    · next h => exact (hwhole h).symm
    · rfl
  -- The directory is not made of slashes alone, since it does not end with one.
  · rw [hpath, List.takeWhile_append, if_neg]
    intro h
    have hne : directory.toList ≠ [] := by simpa using hdirectory
    have hslashes := List.takeWhile_eq_self_iff.mp (hwhole h) _ (List.getLast_mem hne)
    rw [List.getLast?_eq_getLast_of_ne_nil hne] at hends
    exact hends (congrArg some (of_decide_eq_true hslashes))

end InDirectory

/-- **A file whose name has no slash is directly in its directory**, unless its name is made of
points. -/
theorem isDirectlyIn_inDirectory {directory file : String} (hdirectory : directory ≠ "")
    (hslash : '/' ∉ file.toList) (hne : file.toList ≠ []) (hpoint : file.toList ≠ ['.'])
    (hpoints : file.toList ≠ ['.', '.']) : IsDirectlyIn (inDirectory directory file) directory where
  root_eq := root_inDirectory hdirectory hslash
  exists_steps := ⟨_, steps_inDirectory hslash hne hpoint, hpoints⟩

end Path

namespace DirectoryStore

variable {s s' : DirectoryStore} {name : Value} {w : Wizard}

/-- **The directory after some wizards were stored**, of which those that could not be stored have
left it as it was. -/
def saveAll (s : DirectoryStore) (saves : List (Value × Wizard)) : DirectoryStore :=
  saves.foldl (fun s save => (s.save save.1 save.2).toOption.getD s) s

/-- What is in a directory after a file was put into it: that file, and what was there. -/
theorem mem_put {file text : String} {es : List (String × DirectoryEntry)}
    {e : String × DirectoryEntry} (h : e ∈ put file text es) :
    e = (file, .file text) ∨ e ∈ es := by
  induction es with
  | nil => exact .inl (List.mem_singleton.mp h)
  | cons e' es ih =>
    obtain ⟨f, kind⟩ := e'
    rw [put] at h
    split at h
    · next heq =>
      rw [heq] at h
      exact (List.mem_cons.mp h).imp_right (List.mem_cons_of_mem _)
    · rcases List.mem_cons.mp h with rfl | hmem
      · exact .inr List.mem_cons_self
      · exact (ih hmem).imp_right (List.mem_cons_of_mem _)

/-- A file under a name that a directory accepts. -/
def IsNamedFile (file : String) : Prop := ∃ n, Store.IsAccepted (.str n) ∧ file = n ++ ".json"

/-- **One wizard**: what is new in the directory is a file under a name. -/
theorem isNamedFile_of_save (h : s.save name w = .ok s') {e : String × DirectoryEntry}
    (hmem : e ∈ s'.entries) : e ∈ s.entries ∨ IsNamedFile e.1 := by
  obtain ⟨n, hname, hentries, -⟩ := exists_of_save h
  rw [hentries] at hmem
  rcases mem_put hmem with rfl | hold
  · obtain ⟨rfl, -⟩ := Store.nameOf_eq_ok.mp hname
    exact .inr ⟨n, Store.isAccepted_iff.mpr ⟨n, hname⟩, rfl⟩
  · exact .inl hold

/-- What holds of a directory and is kept by storing a wizard holds after storing any number of
them. -/
theorem saveAll_induction {P : DirectoryStore → Prop} (hs : P s)
    (hsave : ∀ {s s' : DirectoryStore} {name : Value} {w : Wizard}, P s → s.save name w = .ok s' →
      P s') (saves : List (Value × Wizard)) : P (s.saveAll saves) := by
  induction saves generalizing s with
  | nil => exact hs
  | cons save saves ih =>
    refine ih ?_
    change P ((s.save save.1 save.2).toOption.getD s)
    cases hstored : s.save save.1 save.2 with
    | error f => exact hs
    | ok s' => exact hsave hs hstored

/-- **Any number of wizards**: what is new in the directory are files under names. -/
theorem isNamedFile_of_saveAll (saves : List (Value × Wizard)) {e : String × DirectoryEntry}
    (hmem : e ∈ (s.saveAll saves).entries) : e ∈ s.entries ∨ IsNamedFile e.1 := by
  revert hmem
  refine saveAll_induction (P := fun s' => e ∈ s'.entries → e ∈ s.entries ∨ IsNamedFile e.1) .inl
    (fun ih hsave hmem => ?_) saves
  exact (isNamedFile_of_save hsave hmem).elim ih .inr

theorem path_saveAll (s : DirectoryStore) (saves : List (Value × Wizard)) :
    (s.saveAll saves).path = s.path := by
  refine saveAll_induction (P := fun s' => s'.path = s.path) rfl (fun ih hsave => ?_) saves
  obtain ⟨-, -, -, hpath⟩ := exists_of_save hsave
  exact hpath.trans ih

/-- A file under a name is directly in the directory. -/
theorem IsNamedFile.isDirectlyIn {file : String} (h : IsNamedFile file) (hpath : s.path ≠ "") :
    Path.IsDirectlyIn (s.pathOf file) s.path := by
  obtain ⟨n, hname, rfl⟩ := h
  have hlist : (n ++ ".json").toList = n.toList ++ ['.', 'j', 's', 'o', 'n'] := by simp
  have hslash : '/' ∉ n.toList := by
    obtain ⟨m, hm, hspelled⟩ := hname
    have hplain : '/' ∉ m.toList := fun hmem => absurd (hm.chars _ hmem) (by decide)
    rcases hspelled with heq | heq <;> obtain rfl := Value.str.inj heq
    · exact hplain
    · simpa using hplain
  refine Path.isDirectlyIn_inDirectory hpath ?_ ?_ ?_ ?_
  · simpa [hlist] using hslash
  · simp [hlist]
  · intro heq
    simpa [hlist] using congrArg List.length heq
  · intro heq
    simpa [hlist] using congrArg List.length heq

end DirectoryStore

/-! ### Refusals -/

/-- The errors of reading a document are about the document. -/
theorem Wizard.family_of_read {v : Value} {e : Error} (h : Wizard.read v = .error e) :
    e.family = .documentInvalid := by
  unfold Wizard.read at h
  split at h
  · obtain rfl := Except.error.inj h
    rfl
  · split at h
    · obtain rfl := Except.error.inj h
      rfl
    · cases h

namespace DirectoryStore

variable {s : DirectoryStore} {name : Value}

/-- The errors of reading a file are about the document in it. -/
theorem family_of_wizardOf {path text : String} {e : Error}
    (h : wizardOf path text = .error (.error e)) : e.family = .documentInvalid := by
  unfold wizardOf at h
  split at h
  · obtain rfl := Failure.error.inj (Except.error.inj h)
    rfl
  · cases h
  · split at h
    · next document es _ =>
      cases hread : Wizard.read (.obj es) with
      | error e' =>
        rw [hread] at h
        obtain rfl := Failure.error.inj (Except.error.inj h)
        exact Wizard.family_of_read hread
      | ok w =>
        rw [hread] at h
        cases h
    · obtain rfl := Failure.error.inj (Except.error.inj h)
      rfl

theorem load_of_not_isAccepted (h : ¬ Store.IsAccepted name) :
    s.load name = .error (Error.wizardName name) := by
  rw [load, Store.nameOf_of_not_isAccepted h]
  rfl

theorem load_of_nameOf {n : String} (h : Store.nameOf name = .ok n) :
    s.load name = match s.find? n with
      | none => .error (Error.noWizardIn n s.path)
      | some (file, text) => wizardOf (s.pathOf file) text := by
  rw [load, h]
  rfl

/-- An accepted name is not refused when a wizard is looked for. -/
theorem load_ne_refusal (h : Store.IsAccepted name) :
    s.load name ≠ .error (Error.wizardName name) := by
  obtain ⟨n, hn⟩ := Store.isAccepted_iff.mp h
  rw [load_of_nameOf hn]
  cases s.find? n with
  | none => simp
  | some found => exact fun hload => absurd (family_of_wizardOf hload) nofun

theorem save_of_not_isAccepted (h : ¬ Store.IsAccepted name) (w : Wizard) :
    s.save name w = .error (Error.wizardName name) := by
  rw [save, Store.nameOf_of_not_isAccepted h]
  rfl

/-- An accepted name is not refused when a wizard is stored. -/
theorem save_ne_refusal (h : Store.IsAccepted name) (w : Wizard) :
    s.save name w ≠ .error (Error.wizardName name) := by
  obtain ⟨n, hn⟩ := Store.isAccepted_iff.mp h
  rw [save, hn]
  simp only [bind, Except.bind]
  split <;> exact nofun

end DirectoryStore

namespace MemoryStore

variable {s : MemoryStore} {name : Value}

theorem save_of_not_isAccepted (h : ¬ Store.IsAccepted name) (w : Wizard) :
    s.save name w = .error (Error.wizardName name) := by
  rw [save, Store.nameOf_of_not_isAccepted h]
  rfl

theorem exists_save (h : Store.IsAccepted name) (w : Wizard) : ∃ s', s.save name w = .ok s' := by
  obtain ⟨n, hn⟩ := Store.isAccepted_iff.mp h
  rw [save, hn]
  exact ⟨_, rfl⟩

end MemoryStore

/-- **What the check of names lets through.** Plain names, and plain names with a line feed behind
them, are not refused. Any other value is refused, with the same error by every store, whatever it
holds. So of the files in a directory in which any wizards were stored, those that were not there
before are called by accepted names and lie directly in it. -/
theorem Store.names_checked (d : DirectoryStore) (m : MemoryStore) (w : Wizard) :
    (∀ name, IsAccepted name →
      d.load name ≠ .error (Error.wizardName name) ∧
        d.save name w ≠ .error (Error.wizardName name) ∧ ∃ m', m.save name w = .ok m') ∧
    (∀ name, ¬ IsAccepted name →
      (Error.wizardName name).family = .documentMissing ∧
        d.load name = .error (Error.wizardName name) ∧
        d.save name w = .error (Error.wizardName name) ∧
        m.save name w = .error (Error.wizardName name)) ∧
    ∀ saves, (d.saveAll saves).path = d.path ∧
      ∀ e ∈ (d.saveAll saves).entries, e ∉ d.entries → DirectoryStore.IsNamedFile e.1 ∧
        (d.path ≠ "" → Path.IsDirectlyIn (d.pathOf e.1) d.path) := by
  refine ⟨fun name h => ?_, fun name h => ?_, fun saves => ?_⟩
  · exact ⟨d.load_ne_refusal h, d.save_ne_refusal h w, m.exists_save h w⟩
  · exact ⟨rfl, d.load_of_not_isAccepted h, d.save_of_not_isAccepted h w,
      m.save_of_not_isAccepted h w⟩
  · refine ⟨d.path_saveAll saves, fun e hmem hnew => ?_⟩
    have hnamed := (d.isNamedFile_of_saveAll saves hmem).resolve_left hnew
    exact ⟨hnamed, hnamed.isDirectlyIn⟩

/-- A path that leads out of the directory is no name. -/
theorem Store.names_checked_upwards : ¬ IsAccepted (.str "../secrets") ∧
    crowdedStore.load (.str "../secrets") = .error (Error.wizardName (.str "../secrets")) := by
  have hname : ¬ IsAccepted (.str "../secrets") := by
    rw [isAccepted_iff]
    rintro ⟨n, hn⟩
    obtain ⟨rfl, hname⟩ : n = "../secrets" ∧ isName n = true := by
      obtain ⟨heq, hname⟩ := nameOf_eq_ok.mp hn
      exact ⟨(Value.str.inj heq).symm, hname⟩
    exact absurd hname (by decide)
  have hchecked := names_checked crowdedStore {} (extraWizard (.bool true))
  exact ⟨hname, (hchecked.2.1 _ hname).2.1⟩

/-- **Not only plain names pass**: a wizard is stored under a name with a line feed behind it, in a
file whose name has the line feed too. -/
theorem DirectoryStore.exists_save_lineFeed : ¬ Store.IsPlain "w\n" ∧
    ∃ s', (⟨"wizards", none⟩ : DirectoryStore).save (.str "w\n") (extraWizard (.bool true)) =
      .ok s' ∧ s'.files? = some ["w\n.json"] := by
  refine ⟨fun h => h.lineFeed_not_mem (by decide), _, rfl, ?_⟩
  change some (Store.inOrder ["w\n.json"]) = some ["w\n.json"]
  simp [Store.inOrder, List.eraseDups, List.eraseDupsBy, List.eraseDupsBy.loop]

end WizardLogic
