import WizardLogic.Proofs.Document.Settled

/-!
# Writing and reading wizards

A wizard that was read from a JSON document and is written again describes itself by another
document, in which nulls are missing and all declared fields have their wire spelling. Reading that
document gives the same wizard exactly if the wizard is settled (`Wizard.same_read_document_iff`):
otherwise some unknown field is missing from it, or has been read as a declared field.

`RoundTrips` says for a part of a document what writing and reading does to it. It is shown for the
small parts first and then along the recursion by which components are read.
-/

namespace WizardLogic

open Reading

/-! ### Leaves -/

namespace Value

theorem isJson_ofText? (s : Option String) : (ofText? s).IsJson := by
  cases s with
  | none => exact .null
  | some s => exact .str s

theorem isJson_ofTruth? (b : Option Bool) : (ofTruth? b).IsJson := by
  cases b with
  | none => exact .null
  | some b => exact .bool b

/-- The fields of a JSON value are JSON, absent ones included. -/
theorem IsJson.field {v : Value} (h : v.IsJson) (s : String) : (v.field s).IsJson := by
  cases h with
  | @obj es _ _ hvalues =>
    cases hs : es.get? (.str s) with
    | none =>
      rw [field_obj_of_not_mem (Entries.get?_eq_none.mp hs)]
      exact .null
    | some w =>
      rw [field_obj_of_get? hs]
      exact hvalues _ (Entries.mem_of_get? hs)
  | _ => exact .null

end Value

namespace Reading

variable {es : Entries Value} {spellings : List String} {s : String}

theorem name_of_field (h : field es spellings name = pure s) : name (.str s) = pure s := by
  obtain ⟨t, ht⟩ := exists_of_field h
  rw [eq_of_name ht] at ht
  exact ht

theorem nonEmptyText_of_field (h : field es spellings nonEmptyText = pure s) :
    nonEmptyText (.str s) = pure s := by
  obtain ⟨t, ht⟩ := exists_of_field h
  rw [eq_of_nonEmptyText ht] at ht
  exact ht

theorem optional_truth_ofTruth? (b : Option Bool) : optional truth (.ofTruth? b) = pure b := by
  cases b <;> rfl

/-- A list of descriptors is written as it was read. -/
theorem eq_of_list_descriptor {v : Value} {blocks : List Value}
    (h : list descriptor v = pure blocks) : v = .list blocks := by
  obtain ⟨vs, rfl, hitems⟩ := exists_items_of_list h
  suffices hall : ∀ i, items descriptor i vs = pure blocks → vs = blocks from
    congrArg Value.list (hall 0 hitems)
  clear h hitems
  induction vs generalizing blocks with
  | nil => exact fun i hi => pure_inj.mp hi
  | cons v vs ih =>
    intro i hi
    obtain ⟨w, rest, hw, hrest, rfl⟩ := items_cons_eq_pure.mp hi
    rw [eq_of_descriptor hw, ih (i + 1) hrest]

end Reading

theorem EventType.name_of_ofName? {s : String} {e : EventType} (h : ofName? s = some e) :
    e.name = s := by
  unfold ofName? at h
  simpa using List.find?_some h

namespace Events

theorem readEntries_cons {k : Key} {v : Value} {es : Entries Value} {events : Events}
    (h : readEntries ((k, v) :: es) = pure events) :
    ∃ e blocks rest, k = .str e.name ∧ list descriptor v = pure blocks ∧
      readEntries es = pure rest ∧ (e, blocks) :: rest = events := by
  unfold readEntries at h
  obtain ⟨_, rest, hfirst, hrest, rfl⟩ := seq_eq_pure.mp h
  obtain ⟨_, blocks, hevent, hblocks, rfl⟩ := seq_eq_pure.mp hfirst
  obtain ⟨e, he, rfl⟩ := map_eq_pure.mp hevent
  refine ⟨e, blocks, rest, ?_, under_eq_pure.mp hblocks, hrest, rfl⟩
  cases k with
  | str s =>
    dsimp only at he
    cases hs : EventType.ofName? s with
    | none =>
      rw [hs] at he
      cases he
    | some e' =>
      rw [hs] at he
      rw [← pure_inj.mp he, EventType.name_of_ofName? hs]
  | _ => cases he

/-- **Events are written as they were read.** -/
theorem toValue_of_read {v : Value} {events : Events} (h : read v = pure events) :
    events.toValue = v := by
  cases v with
  | obj es =>
    change readEntries es = pure events at h
    -- The induction is on the entries, with the events that were read from them left open.
    suffices hes : (events.map fun e => (Key.str e.1.name, Value.list e.2)) = es from
      congrArg Value.obj hes
    induction es generalizing events with
    | nil =>
      rw [← pure_inj.mp h]
      rfl
    | cons entry es ih =>
      obtain ⟨k, v⟩ := entry
      obtain ⟨e, blocks, rest, rfl, hblocks, hrest, rfl⟩ := readEntries_cons h
      rw [List.map_cons, ih hrest, eq_of_list_descriptor hblocks]
  | _ => exact absurd h issue_ne_pure

variable {es : Entries Value} {spellings : List String} {events : Events}

theorem read_toValue_of_fieldOr (h : fieldOr es spellings [] read = pure events) :
    read events.toValue = pure events := by
  rcases exists_of_fieldOr h with rfl | ⟨s, -, hs⟩
  · rfl
  · rw [toValue_of_read hs]
    exact hs

theorem isJson_of_fieldOr (hjson : (Value.obj es).IsJson)
    (h : fieldOr es spellings [] read = pure events) : events.toValue.IsJson := by
  rcases exists_of_fieldOr h with rfl | ⟨s, -, hs⟩
  · exact .obj nofun List.nodup_nil nofun
  · rw [toValue_of_read hs]
    exact hjson.field s

end Events

/-! ### Round trips -/

/-- What writing and reading does to a part of a document that was read from a value. With its nulls
it is written as JSON, if it was read from JSON. If it is settled, it is read again from what is
written without nulls; and if the part that is read then is equal to it, it is settled. -/
structure RoundTrips {α : Type} (read : Value → Reading α) (write : Nulls → α → Value)
    (settled : α → Bool) (v : Value) (a : α) : Prop where
  isJson : v.IsJson → (write .kept a).IsJson
  read_write : settled a = true → read (write .dropped a) = pure a
  settled_of_looseEq : ∀ a', read (write .dropped a) = pure a' →
    (write .kept a).looseEq (write .kept a') = true → settled a = true

section List

variable {α : Type} {read : Value → Reading α} {write : Nulls → α → Value} {settled : α → Bool}

/-- Items that are read from what was written for others, and equal to them, show that those are
settled. -/
theorem all_settled_of_items {as as' : List α} {i : Nat}
    (h : ∀ a ∈ as, ∀ a', read (write .dropped a) = pure a' →
      (write .kept a).looseEq (write .kept a') = true → settled a = true)
    (hitems : items read i (as.map (write .dropped)) = pure as')
    (heq : Value.looseEqList (as.map (write .kept)) (as'.map (write .kept)) = true) :
    as.all settled = true := by
  induction as generalizing i as' with
  | nil => rfl
  | cons a as ih =>
    obtain ⟨a', rest, ha', hrest, rfl⟩ := items_cons_eq_pure.mp hitems
    obtain ⟨hfirst, hlater⟩ := List.forall_mem_cons.mp h
    obtain ⟨heq, heqs⟩ := Value.looseEqList_cons.mp heq
    rw [List.all_cons, hfirst a' ha' heq, ih hlater hrest heqs, Bool.and_self]

/-- A list makes the round trip that its items make. -/
theorem RoundTrips.list {v : Value} {as : List α}
    (h : ∀ vs, v = .list vs → ∀ w ∈ vs, ∀ a, read w = pure a → RoundTrips read write settled w a)
    (has : Reading.list read v = pure as) :
    RoundTrips (Reading.list read) (fun nulls as => .list (as.map (write nulls)))
      (·.all settled) v as := by
  obtain ⟨vs, rfl, hitems⟩ := exists_items_of_list has
  have hall : ∀ a ∈ as, ∃ w ∈ vs, RoundTrips read write settled w a := fun a ha => by
    obtain ⟨w, hw, hread⟩ := exists_of_mem_items hitems ha
    exact ⟨w, hw, h vs rfl w hw a hread⟩
  refine ⟨fun hjson => ?_, fun hsettled => ?_, fun as' has' heq => ?_⟩
  · cases hjson with
    | list hvs =>
      refine .list fun w hw => ?_
      obtain ⟨a, ha, rfl⟩ := List.mem_map.mp hw
      obtain ⟨w, hw, hround⟩ := hall a ha
      exact hround.isJson (hvs w hw)
  · refine items_map (fun a ha => ?_) 0
    obtain ⟨w, -, hround⟩ := hall a ha
    exact hround.read_write (List.all_eq_true.mp hsettled a ha)
  · refine all_settled_of_items (fun a ha a' hread heq => ?_) has' (by rwa [Value.looseEq] at heq)
    obtain ⟨w, -, hround⟩ := hall a ha
    exact hround.settled_of_looseEq a' hread heq

/-- A list in a field makes the round trip that its items make; without the field it is empty. -/
theorem RoundTrips.list_of_fieldOr {es : Entries Value} {spellings : List String} {as : List α}
    (h : ∀ s ∈ spellings, ∀ vs, (Value.obj es).field s = .list vs → ∀ w ∈ vs, ∀ a,
      read w = pure a → RoundTrips read write settled w a)
    (has : fieldOr es spellings [] (Reading.list read) = pure as) :
    ∃ v, ((Value.obj es).IsJson → v.IsJson) ∧
      RoundTrips (Reading.list read) (fun nulls as => .list (as.map (write nulls)))
        (·.all settled) v as := by
  rcases exists_of_fieldOr has with rfl | ⟨s, hs, has⟩
  · exact ⟨.list [], fun _ => .list nofun, .list (by simp) rfl⟩
  · exact ⟨(Value.obj es).field s, fun hjson => hjson.field s, .list (h s hs) has⟩

end List

/-! ### Fields -/

namespace Separate

variable {ds : List Declared} {extra : Entries Value} {name : String} {others : List String}
variable {α : Type} {absent a : α} {read : Value → Reading α}

/-- A value other than null is read again from what was written for it. -/
theorem fieldOr_value (h : Separate ds extra) {v : Value}
    (hd : (⟨name, others, v⟩ : Declared) ∈ ds) (hread : read v = pure a)
    (hnull : v.isNull = false) :
    fieldOr (writtenEntries ds extra) (name :: others) absent read = pure a :=
  (h.fieldOr_writtenEntries hd hnull).trans (under_eq_pure.mpr hread)

/-- A value that has to be present is read again from what was written for it. -/
theorem field_value (h : Separate ds extra) {v : Value}
    (hd : (⟨name, others, v⟩ : Declared) ∈ ds) (hread : read v = pure a)
    (hnull : v.isNull = false) :
    field (writtenEntries ds extra) (name :: others) read = pure a :=
  (h.requiredField_writtenEntries hd hnull).trans (under_eq_pure.mpr hread)

/-- What is read for a field is read from what was written for it, if that is not null. -/
theorem read_of_fieldOr (h : Separate ds extra) {v : Value}
    (hd : (⟨name, others, v⟩ : Declared) ∈ ds)
    (hread : fieldOr (writtenEntries ds extra) (name :: others) absent read = pure a)
    (hnull : v.isNull = false) : read v = pure a :=
  under_eq_pure.mp ((h.fieldOr_writtenEntries hd hnull).symm.trans hread)

theorem read_of_field (h : Separate ds extra) {v : Value}
    (hd : (⟨name, others, v⟩ : Declared) ∈ ds)
    (hread : field (writtenEntries ds extra) (name :: others) read = pure a)
    (hnull : v.isNull = false) : read v = pure a :=
  under_eq_pure.mp ((h.requiredField_writtenEntries hd hnull).symm.trans hread)

/-- What is found in the place of a field is what was written for it, null included. -/
theorem field_eq (h : Separate ds extra) {v : Value}
    (hd : (⟨name, others, v⟩ : Declared) ∈ ds) :
    (Value.obj (writtenEntries ds extra)).field name = v :=
  h.field_writtenEntries hd

/-- A text that may be null is read again from what was written for it. -/
theorem fieldOr_text? (h : Separate ds extra) (hkeep : keepsExtra ds extra = true)
    {s : Option String} (hd : (⟨name, others, .ofText? s⟩ : Declared) ∈ ds) :
    fieldOr (writtenEntries ds extra) (name :: others) none (optional Reading.text) = pure s := by
  refine h.fieldOr_eq_pure hkeep hd (fun _ => optional_text_ofText? s) fun hnull => ?_
  cases s with
  | none => rfl
  | some s => cases hnull

end Separate

/-! ### Remote actions -/

namespace RemoteAction

theorem separate {es : Entries Value} {a : RemoteAction}
    (h : unknownFields es fields = pure a.extra) : Separate a.declared a.extra :=
  .of_unknownFields (by simp [declared, Declared.spellings]) h

/-- **The round trip of a remote action.** -/
theorem roundTrips {v : Value} {a : RemoteAction} (h : read v = pure a) :
    RoundTrips read toValue isSettled v a := by
  cases v with
  | obj es =>
    obtain ⟨hname, -, hurl, -, -, -, -, -, -, -, hextra⟩ := read_obj_eq_pure.mp h
    have hsep := separate hextra
    refine ⟨fun hjson => ?_, fun hsettled => ?_, fun a' ha' heq => ?_⟩
    · refine hsep.isJson_kept ?_ (isJson_of_unknownFields hjson hextra)
      simp [declared, Value.IsJson.str, Value.isJson_ofText?]
    · rw [toValue_eq, Nulls.objectOf_dropped, read_obj_eq_pure]
      exact ⟨hsep.field_value (by simp [declared]) (name_of_field hname) rfl,
        hsep.field_value (by simp [declared]) (word_str a.method.ofName?_name) rfl,
        hsep.field_value (by simp [declared]) (nonEmptyText_of_field hurl) rfl,
        hsep.field_value (by simp [declared]) (word_str a.contentType.ofName?_name) rfl,
        hsep.fieldOr_text? hsettled (by simp [declared]),
        hsep.fieldOr_text? hsettled (by simp [declared]),
        hsep.fieldOr_text? hsettled (by simp [declared]),
        hsep.fieldOr_text? hsettled (by simp [declared]),
        hsep.fieldOr_value (by simp [declared]) (word_str a.expressionKind.ofName?_name) rfl,
        hsep.fieldOr_text? hsettled (by simp [declared]),
        hsep.unknownFields_eq_pure hsettled⟩
    · rw [toValue_eq, Nulls.objectOf_dropped, read_obj_eq_pure] at ha'
      obtain ⟨-, -, -, -, -, -, -, -, -, -, hextra'⟩ := ha'
      rw [toValue_eq, toValue_eq] at heq
      obtain ⟨hlength, -⟩ := hsep.of_looseEq_kept heq rfl
      exact hsep.keepsExtra_of_unknownFields hextra' hlength
  | _ => exact absurd h issue_ne_pure

end RemoteAction

/-! ### Components -/

namespace Component

theorem separate (nulls : Nulls) {es : Entries Value} {c : Component}
    (h : unknownFields es fields = pure c.extra) : Separate (c.declared nulls) c.extra :=
  .of_unknownFields (by simp [declared, sides, Declared.spellings]) h

/-- The value that a component carries is null or a field of what the component was read from. -/
theorem component_eq {es : Entries Value} {spellings : List String} {v : Value}
    (h : fieldOr es spellings .null pure = pure v) :
    v = .null ∨ ∃ s, v = (Value.obj es).field s := by
  rcases exists_of_fieldOr h with h | ⟨s, -, hs⟩
  · exact Or.inl h
  · exact Or.inr ⟨s, (pure_inj.mp hs).symm⟩

theorem side_mem_declared (nulls : Nulls) {c : Component}
    {side : String × Option (Position Component)} (h : side ∈ c.sides) :
    (⟨side.1, [], sideToValue nulls side.2⟩ : Declared) ∈ c.declared nulls :=
  List.mem_append_right _ (List.mem_map_of_mem h)

/-- All components have the same sides. -/
theorem exists_side_of_mem (c' : Component) {c : Component}
    {side : String × Option (Position Component)} (h : side ∈ c.sides) :
    ∃ side' ∈ c'.sides, side'.1 = side.1 := by
  have hnames : c.sides.map Prod.fst = c'.sides.map Prod.fst := rfl
  have hname : side.1 ∈ c.sides.map Prod.fst := List.mem_map_of_mem h
  rw [hnames] at hname
  exact List.mem_map.mp hname

/-- A component makes the round trip that its sides make. -/
theorem roundTrips_obj {es : Entries Value} {c : Component}
    (hsides : ∀ side ∈ c.sides,
      RoundTrips readSide sideToValue isSideSettled ((Value.obj es).field side.1) side.2)
    (h : read (.obj es) = pure c) : RoundTrips read toValue isSettled (.obj es) c := by
  obtain ⟨-, -, -, hcomponent, -, hevents, -, hextra⟩ := read_obj_eq_pure.mp h
  have hsep := separate .dropped hextra
  refine ⟨fun hjson => ?_, fun hsettled => ?_, fun c' hc' heq => ?_⟩
  · rw [toValue_eq]
    refine (separate .kept hextra).isJson_kept ?_ (isJson_of_unknownFields hjson hextra)
    have hvalue : c.component.IsJson := by
      rcases component_eq hcomponent with h | ⟨s, h⟩
      · exact h ▸ .null
      · exact h ▸ hjson.field s
    refine List.forall_mem_append.mpr ⟨?_, ?_⟩
    · simp [Value.IsJson.int, Value.IsJson.str, Value.isJson_ofText?, hvalue,
        Events.isJson_of_fieldOr hjson hevents]
    · refine List.forall_mem_map.mpr fun side hside => ?_
      exact (hsides side hside).isJson (hjson.field side.1)
  · rw [isSettled_eq, Bool.and_eq_true] at hsettled
    obtain ⟨hkeep, hsettled⟩ := hsettled
    rw [toValue_eq, Nulls.objectOf_dropped, read_obj_eq_pure]
    refine ⟨hsep.fieldOr_value (by simp [declared]) (integer_int c.order) rfl,
      hsep.field_value (by simp [declared]) (text_str c.name) rfl,
      hsep.fieldOr_text? hkeep (by simp [declared]), ?_,
      hsep.fieldOr_text? hkeep (by simp [declared]),
      hsep.fieldOr_value (by simp [declared]) (Events.read_toValue_of_fieldOr hevents) rfl,
      fun side hside => ?_, hsep.unknownFields_eq_pure hkeep⟩
    · refine hsep.fieldOr_eq_pure (d := ⟨"component", [], c.component⟩) hkeep (by simp [declared])
        (fun _ => rfl) fun hnull => ?_
      cases hvalue : c.component with
      | null => rfl
      | _ =>
        rw [hvalue] at hnull
        cases hnull
    · rw [hsep.field_eq (side_mem_declared .dropped hside)]
      exact (hsides side hside).read_write (List.all_eq_true.mp hsettled side hside)
  · rw [toValue_eq, Nulls.objectOf_dropped, read_obj_eq_pure] at hc'
    obtain ⟨-, -, -, -, -, -, hsides', hextra'⟩ := hc'
    rw [toValue_eq, toValue_eq] at heq
    obtain ⟨hlength, hfields⟩ := (separate .kept hextra).of_looseEq_kept heq rfl
    rw [isSettled_eq, hsep.keepsExtra_of_unknownFields hextra' hlength, Bool.true_and,
      List.all_eq_true]
    intro side hside
    -- A side is read again from what was written for it, which may be null.
    obtain ⟨side', hside', hname⟩ := exists_side_of_mem c' hside
    have hread := hsides' side' hside'
    rw [hname, hsep.field_eq (side_mem_declared .dropped hside)] at hread
    exact (hsides side hside).settled_of_looseEq side'.2 hread
      (hfields _ (side_mem_declared .kept hside) _ (side_mem_declared .kept hside') hname.symm)

end Component

namespace Position

open Component

theorem separate (nulls : Nulls) {es : Entries Value} {p : Position Component}
    (h : unknownFields es fields = pure p.extra) : Separate (p.declared nulls) p.extra :=
  .of_unknownFields (by simp [declared, Declared.spellings]) h

/-- What stands at a side makes the round trip that the components there make. -/
theorem roundTrips_obj {es : Entries Value} {side : Option (Position Component)}
    (hcomponents : ∀ vs, (Value.obj es).field "components" = .list vs → ∀ w ∈ vs, ∀ c,
      read w = pure c → RoundTrips read toValue isSettled w c)
    (h : readSide (.obj es) = pure side) :
    RoundTrips readSide sideToValue isSideSettled (.obj es) side := by
  obtain ⟨p, rfl, -, hlist, hextra⟩ := readSide_obj_eq_pure.mp h
  have hsep := separate .dropped hextra
  obtain ⟨v, hv, list⟩ := RoundTrips.list_of_fieldOr (by simpa using hcomponents) hlist
  refine ⟨fun hjson => ?_, fun hsettled => ?_, fun side' hside' heq => ?_⟩
  · rw [sideToValue_some]
    refine (separate .kept hextra).isJson_kept ?_ (isJson_of_unknownFields hjson hextra)
    have hitems := list.isJson (hv hjson)
    simp [declared, Value.isJson_ofText?, hitems]
  · rw [isSideSettled_some, Bool.and_eq_true] at hsettled
    obtain ⟨hkeep, hsettled⟩ := hsettled
    rw [sideToValue_some, Nulls.objectOf_dropped, readSide_obj_eq_pure]
    exact ⟨p, rfl, hsep.fieldOr_text? hkeep (by simp [declared]),
      hsep.fieldOr_value (by simp [declared]) (list.read_write hsettled) rfl,
      hsep.unknownFields_eq_pure hkeep⟩
  · rw [sideToValue_some, Nulls.objectOf_dropped, readSide_obj_eq_pure] at hside'
    obtain ⟨p', rfl, -, hlist', hextra'⟩ := hside'
    rw [sideToValue_some, sideToValue_some] at heq
    obtain ⟨hlength, hfields⟩ := (separate .kept hextra).of_looseEq_kept heq rfl
    rw [isSideSettled_some, hsep.keepsExtra_of_unknownFields hextra' hlength, Bool.true_and]
    refine list.settled_of_looseEq p'.components ?_ ?_
    · exact hsep.read_of_fieldOr (by simp [declared]) hlist' rfl
    · exact hfields ⟨"components", [], _⟩ (by simp [declared]) ⟨"components", [], _⟩
        (by simp [declared]) rfl

end Position

/-- **The round trip of a component.** -/
theorem Component.roundTrips {v : Value} {c : Component} (h : Component.read v = pure c) :
    RoundTrips Component.read Component.toValue Component.isSettled v c := by
  -- Lists of components have no parts of their own to lose, so of them the induction says only that
  -- their items make the round trip.
  revert v c
  suffices hall : (∀ v c, Component.read v = pure c →
        RoundTrips Component.read toValue isSettled v c) ∧
      (∀ v side, readSide v = pure side →
        RoundTrips readSide sideToValue isSideSettled v side) ∧
      (∀ v vs, v = Value.list vs → ∀ w ∈ vs, ∀ c, Component.read w = pure c →
        RoundTrips Component.read toValue isSettled w c) ∧
      ∀ (_ : Nat) (vs : List Value), ∀ w ∈ vs, ∀ c, Component.read w = pure c →
        RoundTrips Component.read toValue isSettled w c from fun {v c} => hall.1 v c
  refine Component.read.mutual_induct _ _ _ _ ?component ?noComponent ?nothing ?side ?noSide
    ?list ?noList ?nil ?cons
  case component =>
    intro es top left right bottom c h
    obtain ⟨-, -, -, -, -, -, hsides, -⟩ := Component.read_obj_eq_pure.mp h
    refine roundTrips_obj (fun side hside => ?_) h
    have hread := hsides side hside
    simp only [sides, List.mem_cons, List.not_mem_nil, or_false] at hside
    rcases hside with rfl | rfl | rfl | rfl
    · exact top _ hread
    · exact left _ hread
    · exact right _ hread
    · exact bottom _ hread
  case noComponent =>
    intro v hv c h
    cases v with
    | obj es => exact (hv es rfl).elim
    | _ =>
      rw [Component.read] at h
      · exact absurd h issue_ne_pure
      · intro es h
        cases h
  case nothing =>
    intro side h
    rw [readSide] at h
    obtain rfl := pure_inj.mp h
    exact ⟨fun _ => .null, fun _ => by rw [sideToValue, readSide], fun _ _ _ => rfl⟩
  case side =>
    intro es hcomponents side h
    exact Position.roundTrips_obj hcomponents h
  case noSide =>
    intro v hnull hobj side h
    cases v with
    | null => exact (hnull rfl).elim
    | obj es => exact (hobj es rfl).elim
    | _ =>
      rw [readSide] at h
      · exact absurd h issue_ne_pure
      · intro h
        cases h
      · intro es h
        cases h
  case list =>
    rintro vs hvs _ ⟨⟩
    exact hvs
  case noList =>
    rintro v hv vs rfl
    exact (hv vs rfl).elim
  case nil =>
    intro i w hw
    cases hw
  case cons =>
    intro i v vs hv hvs w hw
    rcases List.mem_cons.mp hw with rfl | hw
    · exact hv
    · exact hvs w hw

/-! ### Steps and wizards -/

namespace Step

theorem separate (nulls : Nulls) {es : Entries Value} {s : Step}
    (h : unknownFields es fields = pure s.extra) : Separate (s.declared nulls) s.extra :=
  .of_unknownFields (by simp [declared, Declared.spellings]) h

/-- **The round trip of a step.** -/
theorem roundTrips {v : Value} {s : Step} (h : read v = pure s) :
    RoundTrips read toValue isSettled v s := by
  cases v with
  | obj es =>
    obtain ⟨-, -, -, -, hcomponents, hevents, hextra⟩ := read_obj_eq_pure.mp h
    have hsep := separate .dropped hextra
    obtain ⟨v, hv, list⟩ :=
      RoundTrips.list_of_fieldOr (fun _ _ _ _ _ _ _ hc => Component.roundTrips hc) hcomponents
    refine ⟨fun hjson => ?_, fun hsettled => ?_, fun s' hs' heq => ?_⟩
    · rw [toValue_eq]
      refine (separate .kept hextra).isJson_kept ?_ (isJson_of_unknownFields hjson hextra)
      have hitems := list.isJson (hv hjson)
      simp [declared, Value.IsJson.str, Value.isJson_ofText?, hitems,
        Events.isJson_of_fieldOr hjson hevents]
    · rw [isSettled, Bool.and_eq_true] at hsettled
      obtain ⟨hkeep, hsettled⟩ := hsettled
      rw [toValue_eq, Nulls.objectOf_dropped, read_obj_eq_pure]
      exact ⟨hsep.field_value (by simp [declared]) (text_str s.name) rfl,
        hsep.fieldOr_text? hkeep (by simp [declared]),
        hsep.fieldOr_text? hkeep (by simp [declared]),
        hsep.fieldOr_text? hkeep (by simp [declared]),
        hsep.fieldOr_value (by simp [declared]) (list.read_write hsettled) rfl,
        hsep.fieldOr_value (by simp [declared]) (Events.read_toValue_of_fieldOr hevents) rfl,
        hsep.unknownFields_eq_pure hkeep⟩
    · rw [toValue_eq, Nulls.objectOf_dropped, read_obj_eq_pure] at hs'
      obtain ⟨-, -, -, -, hcomponents', -, hextra'⟩ := hs'
      rw [toValue_eq, toValue_eq] at heq
      obtain ⟨hlength, hfields⟩ := (separate .kept hextra).of_looseEq_kept heq rfl
      rw [isSettled, hsep.keepsExtra_of_unknownFields hextra' hlength, Bool.true_and]
      refine list.settled_of_looseEq s'.components ?_ ?_
      · exact hsep.read_of_fieldOr (by simp [declared]) hcomponents' rfl
      · exact hfields ⟨"components", [], _⟩ (by simp [declared]) ⟨"components", [], _⟩
          (by simp [declared]) rfl
  | _ => exact absurd h issue_ne_pure

end Step

namespace Wizard

theorem separate (nulls : Nulls) {es : Entries Value} {w : Wizard}
    (h : unknownFields es fields = pure w.extra) : Separate (w.declared nulls) w.extra :=
  .of_unknownFields (by simp [declared, Declared.spellings]) h

/-- **The round trip of the fields of a wizard.** -/
theorem roundTrips {v : Value} {w : Wizard} (h : readFields v = pure w) :
    RoundTrips readFields toValue isSettled v w := by
  cases v with
  | obj es =>
    obtain ⟨-, -, -, -, hsteps, hactions, hextra⟩ := readFields_obj_eq_pure.mp h
    have hsep := separate .dropped hextra
    obtain ⟨s, hs⟩ := exists_of_field hsteps
    have steps := RoundTrips.list (fun _ _ _ _ _ hstep => Step.roundTrips hstep) hs
    obtain ⟨v, hv, actions⟩ :=
      RoundTrips.list_of_fieldOr (fun _ _ _ _ _ _ _ ha => RemoteAction.roundTrips ha) hactions
    refine ⟨fun hjson => ?_, fun hsettled => ?_, fun w' hw' heq => ?_⟩
    · rw [toValue_eq]
      refine (separate .kept hextra).isJson_kept ?_ (isJson_of_unknownFields hjson hextra)
      have hstepItems := steps.isJson (hjson.field s)
      have hactionItems := actions.isJson (hv hjson)
      simp [declared, Value.IsJson.str, Value.isJson_ofText?, Value.isJson_ofTruth?, hstepItems,
        hactionItems]
    · rw [isSettled, Bool.and_eq_true, Bool.and_eq_true] at hsettled
      obtain ⟨⟨hkeep, hstepsSettled⟩, hactionsSettled⟩ := hsettled
      rw [toValue_eq, Nulls.objectOf_dropped, readFields_obj_eq_pure]
      refine ⟨hsep.field_value (by simp [declared]) (text_str w.name) rfl,
        hsep.fieldOr_text? hkeep (by simp [declared]),
        hsep.field_value (by simp [declared]) (text_str w.initialStep) rfl, ?_,
        hsep.field_value (by simp [declared]) (steps.read_write hstepsSettled) rfl,
        hsep.fieldOr_value (by simp [declared]) (actions.read_write hactionsSettled) rfl,
        hsep.unknownFields_eq_pure hkeep⟩
      refine hsep.fieldOr_eq_pure (d := ⟨"isActive", ["is_active"], .ofTruth? w.isActive⟩) hkeep
        (by simp [declared]) (fun _ => optional_truth_ofTruth? w.isActive) fun hnull => ?_
      cases hactive : w.isActive with
      | none => rfl
      | some b =>
        rw [hactive] at hnull
        cases hnull
    · rw [toValue_eq, Nulls.objectOf_dropped, readFields_obj_eq_pure] at hw'
      obtain ⟨-, -, -, -, hsteps', hactions', hextra'⟩ := hw'
      rw [toValue_eq, toValue_eq] at heq
      obtain ⟨hlength, hfields⟩ := (separate .kept hextra).of_looseEq_kept heq rfl
      have hstepsSettled : w.steps.all Step.isSettled = true := by
        refine steps.settled_of_looseEq w'.steps ?_ ?_
        · exact hsep.read_of_field (by simp [declared]) hsteps' rfl
        · exact hfields ⟨"steps", [], _⟩ (by simp [declared]) ⟨"steps", [], _⟩
            (by simp [declared]) rfl
      have hactionsSettled : w.remoteActions.all RemoteAction.isSettled = true := by
        refine actions.settled_of_looseEq w'.remoteActions ?_ ?_
        · exact hsep.read_of_fieldOr (by simp [declared]) hactions' rfl
        · exact hfields ⟨"remoteActions", ["remote_actions"], _⟩ (by simp [declared])
            ⟨"remoteActions", ["remote_actions"], _⟩ (by simp [declared]) rfl
      rw [isSettled, hsep.keepsExtra_of_unknownFields hextra' hlength, hstepsSettled,
        hactionsSettled, Bool.and_self, Bool.and_self]
  | _ => exact absurd h issue_ne_pure

theorem read_eq_ok {v : Value} {w : Wizard} :
    read v = .ok w ↔ readFields v = pure w ∧ w.brokenRule? = none := by
  unfold read
  rcases readFields v with issues | w'
  · exact ⟨nofun, fun h => nomatch h.1⟩
  · dsimp only
    refine ⟨fun h => ?_, ?_⟩
    · cases hrule : w'.brokenRule? with
      | none =>
        rw [hrule] at h
        obtain rfl := Except.ok.inj h
        exact ⟨rfl, hrule⟩
      | some text =>
        rw [hrule] at h
        cases h
    · rintro ⟨h, hrule⟩
      obtain rfl := pure_inj.mp h
      rw [hrule]

/-- **When writing and reading gives back a wizard.** The document of a wizard that was read from
JSON is read as the same wizard exactly if the wizard is settled. -/
theorem same_read_document_iff {v : Value} {w : Wizard} (hjson : v.IsJson)
    (h : read v = .ok w) : (∃ w', read w.document = .ok w' ∧ w.same w') ↔ w.isSettled := by
  obtain ⟨hfields, hrule⟩ := read_eq_ok.mp h
  have hround := roundTrips hfields
  refine ⟨?_, fun hsettled => ?_⟩
  · rintro ⟨w', hread, hsame⟩
    exact hround.settled_of_looseEq w' (read_eq_ok.mp hread).1 hsame
  · exact ⟨w, read_eq_ok.mpr ⟨hround.read_write hsettled, hrule⟩,
      (hround.isJson hjson).looseEq_self⟩

end Wizard

/-! ### A wizard that comes back and one that does not -/

/-- A document with a component inside a component, a field that is null and one in both
spellings. -/
def nestedDocument : Value :=
  .obj [(.str "name", .str "w"), (.str "initialStep", .str "A"), (.str "isActive", .null),
    (.str "steps", .list [.obj [(.str "name", .str "A"), (.str "className", .str "wide"),
      (.str "class_name", .list [.null]),
      (.str "components", .list [.obj [(.str "name", .str "c"),
        (.str "top", .obj [(.str "components", .list [.obj [(.str "name", .str "d")]])])]])]])]

/-- The wizard that the nested document describes. -/
def nestedWizard : Wizard :=
  ⟨"w", none, "A", none, [⟨"A", none, none, some "wide",
    [⟨0, "c", none, .null, none, [],
      some ⟨none, [⟨0, "d", none, .null, none, [], none, none, none, none, []⟩], []⟩,
      none, none, none, []⟩], [], [(.str "class_name", .list [.null])]⟩], [], []⟩

theorem Component.readSide_null : Component.readSide .null = pure none := by
  rw [Component.readSide]

theorem Wizard.read_nestedDocument : Wizard.read nestedDocument = .ok nestedWizard := by
  have hnull := Component.readSide_null
  have hinner : Component.read (.obj [(.str "name", .str "d")]) =
      pure ⟨0, "d", none, .null, none, [], none, none, none, none, []⟩ :=
    Component.read_obj_eq_pure.mpr ⟨rfl, rfl, rfl, rfl, rfl, rfl, by
      simp only [Component.sides, List.forall_mem_cons]
      exact ⟨hnull, hnull, hnull, hnull, by simp⟩, rfl⟩
  have hside : Component.readSide (.obj [(.str "components", .list [.obj [(.str "name",
      .str "d")]])]) = pure (some ⟨none, [⟨0, "d", none, .null, none, [], none, none, none, none,
        []⟩], []⟩) :=
    Component.readSide_obj_eq_pure.mpr ⟨_, rfl, rfl,
      under_eq_pure.mpr (items_cons_eq_pure.mpr ⟨_, [], hinner, rfl, rfl⟩), rfl⟩
  have houter : Component.read (.obj [(.str "name", .str "c"), (.str "top", .obj [(.str "components",
      .list [.obj [(.str "name", .str "d")]])])]) = pure ⟨0, "c", none, .null, none, [],
        some ⟨none, [⟨0, "d", none, .null, none, [], none, none, none, none, []⟩], []⟩,
        none, none, none, []⟩ :=
    Component.read_obj_eq_pure.mpr ⟨rfl, rfl, rfl, rfl, rfl, rfl, by
      simp only [Component.sides, List.forall_mem_cons]
      exact ⟨hside, hnull, hnull, hnull, by simp⟩, rfl⟩
  refine read_eq_ok.mpr ⟨readFields_obj_eq_pure.mpr ⟨rfl, rfl, rfl, rfl, ?_, rfl, rfl⟩, rfl⟩
  refine under_eq_pure.mpr (items_cons_eq_pure.mpr ⟨_, [], ?_, rfl, rfl⟩)
  refine Step.read_obj_eq_pure.mpr ⟨rfl, rfl, rfl, rfl, ?_, rfl, rfl⟩
  exact under_eq_pure.mpr (items_cons_eq_pure.mpr ⟨_, [], houter, rfl, rfl⟩)

/-- The nested document is read again from what is written for it. -/
theorem Wizard.same_read_document_nestedDocument :
    nestedDocument.IsJson ∧ Wizard.read nestedDocument = .ok nestedWizard ∧
      ∃ w', Wizard.read nestedWizard.document = .ok w' ∧ nestedWizard.same w' := by
  have hjson : nestedDocument.IsJson := by
    simp [nestedDocument, Value.isJson_obj, Value.isJson_list, Entries.keys, Value.IsJson.str,
      Value.IsJson.null]
  have hread := Wizard.read_nestedDocument
  exact ⟨hjson, hread, (Wizard.same_read_document_iff hjson hread).mpr (by decide)⟩

/-- A document with an unknown field that is null. -/
def nullExtraDocument : Value :=
  .obj [(.str "name", .str "w"), (.str "initialStep", .str "A"),
    (.str "steps", .list [.obj [(.str "name", .str "A")]]), (.str "extra", .null)]

/-- **Writing and reading does not always give back a wizard**: an unknown field that is null is
lost. -/
theorem Wizard.not_same_read_document_nullExtra :
    ∃ w, nullExtraDocument.IsJson ∧ Wizard.read nullExtraDocument = .ok w ∧
      ¬∃ w', Wizard.read w.document = .ok w' ∧ w.same w' := by
  let w : Wizard :=
    ⟨"w", none, "A", none, [⟨"A", none, none, none, [], [], []⟩], [], [(.str "extra", .null)]⟩
  have hread : Wizard.read nullExtraDocument = .ok w := rfl
  refine ⟨w, ?_, hread, ?_⟩
  · simp [nullExtraDocument, Value.isJson_obj, Value.isJson_list, Entries.keys, Value.IsJson.str,
      Value.IsJson.null]
  · rintro ⟨w', hread', hsame⟩
    have hround := Wizard.roundTrips (Wizard.read_eq_ok.mp hread).1
    have hsettled := hround.settled_of_looseEq w' (Wizard.read_eq_ok.mp hread').1 hsame
    exact absurd hsettled (by decide)

end WizardLogic
