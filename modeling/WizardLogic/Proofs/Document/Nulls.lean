import WizardLogic.Proofs.Document.RoundTrip

/-!
# Documents without nulls

What is written for a wizard with its nulls is JSON if the wizard was read from JSON. Leaving the
nulls out, at every level of the document's own structure, takes fields away and changes no other
value, so the document of such a wizard is JSON as well (`Wizard.isJson_document`). It has text keys
only, and making all keys text leaves it as it is (`Wizard.jsonDocument_eq_document`).
-/

namespace WizardLogic

open Reading

/-! ### Objects -/

/-- An object without its nulls is JSON if it is JSON with its nulls and the fields of the same names
are JSON values. -/
theorem Nulls.isJson_dropped {ds ds' : List Declared} {extra : Entries Value}
    (h : (Nulls.kept.objectOf ds extra).IsJson)
    (hnames : ds'.map Declared.name = ds.map Declared.name) (hvalues : ∀ d ∈ ds', d.value.IsJson) :
    (Nulls.dropped.objectOf ds' extra).IsJson := by
  rw [objectOf_kept, Value.isJson_obj] at h
  obtain ⟨htexts, hnodup, hjson⟩ := h
  have hkeys : Entries.keys (ds'.map Declared.entry ++ extra) =
      Entries.keys (ds.map Declared.entry ++ extra) := by
    have happend : ∀ es : List Declared, Entries.keys (es.map Declared.entry ++ extra) =
        (es.map Declared.name).map Key.str ++ extra.keys := by
      intro es
      rw [← keys_entries]
      exact List.map_append
    rw [happend, happend, hnames]
  have hsublist : (Entries.keys (writtenEntries ds' extra)).Sublist
      (Entries.keys (ds.map Declared.entry ++ extra)) :=
    hkeys ▸ List.filter_sublist.map Prod.fst
  rw [objectOf_dropped]
  refine .obj (fun k hk => htexts k (hsublist.subset hk)) (hnodup.sublist hsublist) fun e he => ?_
  rcases List.mem_append.mp (List.mem_of_mem_filter he) with he | he
  · obtain ⟨d, hd, rfl⟩ := List.mem_map.mp he
    exact hvalues d hd
  · exact hjson e (List.mem_append_right _ he)

/-- The declared fields of a JSON object are JSON values. -/
theorem Nulls.isJson_of_kept {ds : List Declared} {extra : Entries Value}
    (h : (Nulls.kept.objectOf ds extra).IsJson) : ∀ d ∈ ds, d.value.IsJson := by
  rw [objectOf_kept, Value.isJson_obj] at h
  exact fun d hd => h.2.2 d.entry (List.mem_append_left extra (List.mem_map_of_mem hd))

/-! ### Parts of a document -/

theorem RemoteAction.isJson_dropped {a : RemoteAction} (h : (a.toValue .kept).IsJson) :
    (a.toValue .dropped).IsJson := by
  rw [toValue_eq] at h ⊢
  exact Nulls.isJson_dropped h rfl (Nulls.isJson_of_kept h)

namespace Component

/-- The sides of a component come last among its declared fields. -/
theorem isJson_dropped_of_sides {c : Component} (h : (c.toValue .kept).IsJson)
    (hsides : ∀ side ∈ c.sides, (sideToValue .dropped side.2).IsJson) :
    (c.toValue .dropped).IsJson := by
  rw [toValue_eq] at h ⊢
  refine Nulls.isJson_dropped h rfl ?_
  have hfields := Nulls.isJson_of_kept h
  rw [declared, List.forall_mem_append] at hfields ⊢
  exact ⟨hfields.1, List.forall_mem_map.mpr hsides⟩

theorem isJson_side {c : Component} (h : (c.toValue .kept).IsJson) :
    ∀ side ∈ c.sides, (sideToValue .kept side.2).IsJson := fun side hside => by
  rw [toValue_eq] at h
  exact Nulls.isJson_of_kept h _ (side_mem_declared .kept hside)

theorem isJson_listToValues {nulls : Nulls} {cs : List Component} :
    (Value.list (listToValues nulls cs)).IsJson ↔ ∀ c ∈ cs, (c.toValue nulls).IsJson := by
  rw [listToValues_eq_map, Value.isJson_list, List.forall_mem_map]

mutual

/-- **A component without its nulls is JSON** if it is JSON with them. -/
theorem isJson_dropped : (c : Component) → (c.toValue .kept).IsJson → (c.toValue .dropped).IsJson
  | ⟨_, _, _, _, _, _, top, left, right, bottom, _⟩, h => by
    have hsides := isJson_side h
    simp only [sides, List.forall_mem_cons] at hsides
    obtain ⟨htop, hleft, hright, hbottom, -⟩ := hsides
    refine isJson_dropped_of_sides h ?_
    simp only [sides, List.forall_mem_cons]
    exact ⟨isJson_dropped_side top htop, isJson_dropped_side left hleft,
      isJson_dropped_side right hright, isJson_dropped_side bottom hbottom, nofun⟩

/-- What stands at a side is JSON without its nulls if it is JSON with them. -/
theorem isJson_dropped_side : (side : Option (Position Component)) →
    (sideToValue .kept side).IsJson → (sideToValue .dropped side).IsJson
  | none, _ => .null
  | some ⟨_, components, _⟩, h => by
    rw [sideToValue_some] at h ⊢
    refine Nulls.isJson_dropped h rfl ?_
    have hfields := Nulls.isJson_of_kept h
    simp only [Position.declared, List.forall_mem_cons] at hfields ⊢
    obtain ⟨hclass, hitems, -⟩ := hfields
    rw [← listToValues_eq_map, isJson_listToValues] at hitems ⊢
    exact ⟨hclass, isJson_dropped_list components hitems, nofun⟩

/-- Components are JSON without their nulls if they are JSON with them. -/
theorem isJson_dropped_list : (cs : List Component) → (∀ c ∈ cs, (c.toValue .kept).IsJson) →
    ∀ c ∈ cs, (c.toValue .dropped).IsJson
  | [], _ => nofun
  | c :: cs, h => by
    obtain ⟨hc, hcs⟩ := List.forall_mem_cons.mp h
    exact List.forall_mem_cons.mpr ⟨isJson_dropped c hc, isJson_dropped_list cs hcs⟩

end

end Component

theorem Step.isJson_dropped {s : Step} (h : (s.toValue .kept).IsJson) :
    (s.toValue .dropped).IsJson := by
  rw [toValue_eq] at h ⊢
  refine Nulls.isJson_dropped h rfl ?_
  have hfields := Nulls.isJson_of_kept h
  simp only [declared, List.forall_mem_cons] at hfields ⊢
  obtain ⟨hname, htitle, hdescription, hclass, hitems, hevents, -⟩ := hfields
  rw [← Component.listToValues_eq_map, Component.isJson_listToValues] at hitems ⊢
  exact ⟨hname, htitle, hdescription, hclass,
    Component.isJson_dropped_list s.components hitems, hevents, nofun⟩

namespace Wizard

theorem isJson_dropped {w : Wizard} (h : (w.toValue .kept).IsJson) : w.document.IsJson := by
  rw [document, toValue_eq]
  rw [toValue_eq] at h
  refine Nulls.isJson_dropped h rfl ?_
  have hfields := Nulls.isJson_of_kept h
  simp only [declared, List.forall_mem_cons] at hfields ⊢
  obtain ⟨hname, hdescription, hinitial, hactive, hsteps, hactions, -⟩ := hfields
  rw [Value.isJson_list, List.forall_mem_map] at hsteps hactions
  refine ⟨hname, hdescription, hinitial, hactive, ?_, ?_, nofun⟩
  · exact .list (List.forall_mem_map.mpr fun s hs => Step.isJson_dropped (hsteps s hs))
  · exact .list (List.forall_mem_map.mpr fun a ha =>
      RemoteAction.isJson_dropped (hactions a ha))

/-- **The document of a wizard that was read from JSON is JSON.** -/
theorem isJson_document {v : Value} {w : Wizard} (hjson : v.IsJson)
    (hread : Wizard.read v = .ok w) : w.document.IsJson :=
  isJson_dropped ((roundTrips (read_eq_ok.mp hread).1).isJson hjson)

end Wizard

/-- A settled wizard is read again from its document. -/
theorem Wizard.read_document_of_isSettled {v : Value} {w : Wizard} (hread : Wizard.read v = .ok w)
    (hsettled : w.isSettled = true) : Wizard.read w.document = .ok w := by
  obtain ⟨hfields, hrule⟩ := read_eq_ok.mp hread
  exact read_eq_ok.mpr ⟨(roundTrips hfields).read_write hsettled, hrule⟩

/-! ### Keys as text -/

namespace Value

theorem withTextKeysItems_eq_self {items : List Value} (h : ∀ v ∈ items, v.withTextKeys = v) :
    withTextKeysItems items = items := by
  induction items with
  | nil => rfl
  | cons v vs ih =>
    obtain ⟨hv, hvs⟩ := List.forall_mem_cons.mp h
    rw [withTextKeysItems, hv, ih hvs]

theorem withTextKeysEntries_eq_self {es : Entries Value} (hkeys : ∀ k ∈ es.keys, ∃ s, k = .str s)
    (h : ∀ e ∈ es, e.2.withTextKeys = e.2) : withTextKeysEntries es = es := by
  induction es with
  | nil => rfl
  | cons e es ih =>
    obtain ⟨k, v⟩ := e
    obtain ⟨⟨s, hs⟩, hrest⟩ := List.forall_mem_cons.mp hkeys
    obtain ⟨hv, hes⟩ := List.forall_mem_cons.mp h
    obtain rfl : k = .str s := hs
    have hv' : v.withTextKeys = v := hv
    rw [withTextKeysEntries, hv', ih hrest hes, Key.text]

/-- **The keys of a JSON value are texts already.** -/
theorem IsJson.withTextKeys_eq_self {v : Value} (h : v.IsJson) : v.withTextKeys = v := by
  induction h with
  | list _ ih => rw [withTextKeys, withTextKeysItems_eq_self ih]
  | @obj es hkeys hnodup _ ih =>
    rw [withTextKeys, withTextKeysEntries_eq_self hkeys ih, Entries.ofList_eq_self hkeys hnodup]
  | _ => rfl

end Value

/-- The document that is stored of a wizard that was read from JSON is its document. -/
theorem Wizard.jsonDocument_eq_document {v : Value} {w : Wizard} (hjson : v.IsJson)
    (hread : Wizard.read v = .ok w) : w.jsonDocument = w.document :=
  (isJson_document hjson hread).withTextKeys_eq_self

end WizardLogic
