import Mathlib
import WizardLogic.Engine.Action
import WizardLogic.Proofs.Stateful
import WizardLogic.Template.Look

/-!
# JSON values inside a rendering

A JSON value that is handed to a template becomes cells of the store of the rendering, one for each
list and each object, with the cells of the parts made before those of the whole. This file follows a
value through the store: which cells stand for it (`Represents`), that handing it over makes such cells
(`Render.ofValue_spec`), and that looking at them, however the store has grown meanwhile, shows the value
as it was (`look_eq`).

The result is that the JSON text of what was handed over is that of the value (`jsonText_eq`). Only
integers that are too long to have a text stand in the way.
-/

namespace WizardLogic.Template

open Stateful

/-! ### Images of JSON values -/

/-- The image of a key. -/
def Image.ofKey : Key → Image
  | .null => .none
  | .bool b => .bool b
  | .int n => .int n
  | .float d => .float d
  | .str s => .str s

mutual

/-- What a JSON value looks like in a template. -/
def Image.ofValue : Value → Image
  | .null => .none
  | .bool b => .bool b
  | .int n => .int n
  | .float d => .float d
  | .str s => .str s
  | .list items => .list (Image.ofValues items)
  | .obj es => .dict (Image.ofEntries es)

/-- What several JSON values look like. -/
def Image.ofValues : List Value → List Image
  | [] => []
  | v :: vs => Image.ofValue v :: Image.ofValues vs

/-- What the entries of an object look like. -/
def Image.ofEntries : List (Key × Value) → List (Image × Image)
  | [] => []
  | (k, v) :: es => (Image.ofKey k, Image.ofValue v) :: Image.ofEntries es

end

theorem Image.toKey?_ofKey (k : Key) : (Image.ofKey k).toKey? = some k := by
  cases k <;> rfl

theorem Image.hasText_int (n : ℤ) : (Image.int n).hasText = isWritableInt n := by
  simp only [hasText, isWritableInt, decide_eq_decide]
  unfold intTextLimit
  exact Iff.rfl

theorem Image.hasText_ofKey (k : Key) : (Image.ofKey k).hasText = k.isWritable := by
  cases k with
  | int n => exact hasText_int n
  | _ => rfl

mutual

/-- **A value is what its image is written as.** -/
theorem Image.toValue?_ofValue : (v : Value) → (Image.ofValue v).toValue? = some v
  | .null => rfl
  | .bool _ => rfl
  | .int _ => rfl
  | .float _ => rfl
  | .str _ => rfl
  | .list items => by rw [ofValue, toValue?, toValues?_ofValues items, Option.map_some]
  | .obj es => by rw [ofValue, toValue?, toEntries?_ofEntries es, Option.map_some]

theorem Image.toValues?_ofValues : (items : List Value) →
    Image.toValues? (Image.ofValues items) = some items
  | [] => rfl
  | v :: vs => by rw [ofValues, toValues?, toValue?_ofValue v, toValues?_ofValues vs]

theorem Image.toEntries?_ofEntries : (es : List (Key × Value)) →
    Image.toEntries? (Image.ofEntries es) = some es
  | [] => rfl
  | (k, v) :: es => by
    rw [ofEntries, toEntries?, toKey?_ofKey, toValue?_ofValue v, toEntries?_ofEntries es]

end

mutual

/-- **An image has a text if the value can be written out.** -/
theorem Image.hasText_ofValue : (v : Value) → (Image.ofValue v).hasText = v.isWritable
  | .null => rfl
  | .bool _ => rfl
  | .int n => by rw [ofValue, hasText_int, Value.isWritable]
  | .float _ => rfl
  | .str _ => rfl
  | .list items => by rw [ofValue, hasText, haveText_ofValues items, Value.isWritable]
  | .obj es => by rw [ofValue, hasText, entriesHaveText_ofEntries es, Value.isWritable]

theorem Image.haveText_ofValues : (items : List Value) →
    Image.haveText (Image.ofValues items) = Value.areWritable items
  | [] => rfl
  | v :: vs => by
    rw [ofValues, haveText, hasText_ofValue v, haveText_ofValues vs, Value.areWritable]

theorem Image.entriesHaveText_ofEntries : (es : List (Key × Value)) →
    Image.entriesHaveText (Image.ofEntries es) = Value.areEntriesWritable es
  | [] => rfl
  | (k, v) :: es => by
    rw [ofEntries, entriesHaveText, hasText_ofKey, hasText_ofValue v, entriesHaveText_ofEntries es,
      Value.areEntriesWritable]

end

/-! ### Cells that stand for a value -/

/-- The key of an object's entry in a template. -/
def keyVal : Key → Val
  | .null => .none
  | .bool b => .bool b
  | .int n => .int n
  | .float d => .float d
  | .str s => .str s

mutual

/-- **Whether a template value stands for a JSON value**: its lists and objects are cells below a
bound, those of the parts below those of the whole. -/
def Represents (cells : Array Cell) : Value → ℕ → Val → Prop
  | .null, _, w => w = .none
  | .bool b, _, w => w = .bool b
  | .int n, _, w => w = .int n
  | .float d, _, w => w = .float d
  | .str s, _, w => w = .str s
  | .list items, bound, w => ∃ id < bound, w = .cell .list id ∧
      ∃ ws : List Val, cells[id]? = some (.list ws.toArray) ∧ RepresentAll cells items id ws
  | .obj es, bound, w => ∃ id < bound, w = .cell .dict id ∧
      ∃ pairs, cells[id]? = some (.dict pairs) ∧ RepresentEntries cells es id pairs

/-- Whether template values stand for several JSON values, in order. -/
def RepresentAll (cells : Array Cell) : List Value → ℕ → List Val → Prop
  | [], _, ws => ws = []
  | v :: vs, bound, ws => ∃ w rest, ws = w :: rest ∧ Represents cells v bound w ∧
      RepresentAll cells vs bound rest

/-- Whether pairs of template values stand for the entries of an object, in order. -/
def RepresentEntries (cells : Array Cell) :
    List (Key × Value) → ℕ → List (Val × Val) → Prop
  | [], _, pairs => pairs = []
  | (k, v) :: es, bound, pairs => ∃ w rest, pairs = (keyVal k, w) :: rest ∧
      Represents cells v bound w ∧ RepresentEntries cells es bound rest

end

/-- What stands for a value is defined. -/
theorem Represents.ne_undefined {cells : Array Cell} {v : Value} {bound : ℕ} {w : Val}
    (h : Represents cells v bound w) : w ≠ .undefined := by
  rintro rfl
  cases v with
  | list items =>
    obtain ⟨_, _, hw, _⟩ := h
    cases hw
  | obj es =>
    obtain ⟨_, _, hw, _⟩ := h
    cases hw
  | _ => cases h

/-- Whether one array of cells is the beginning of another. -/
def Extends (cells cells' : Array Cell) : Prop :=
  cells.size ≤ cells'.size ∧ ∀ (id : ℕ) (c : Cell), cells[id]? = some c → cells'[id]? = some c

theorem Extends.refl (cells : Array Cell) : Extends cells cells := ⟨le_rfl, fun _ _ h => h⟩

theorem Extends.trans {a b c : Array Cell} (h : Extends a b) (h' : Extends b c) : Extends a c :=
  ⟨h.1.trans h'.1, fun id d hd => h'.2 id d (h.2 id d hd)⟩

theorem Extends.push (cells : Array Cell) (c : Cell) : Extends cells (cells.push c) := by
  refine ⟨by simp, fun id d hd => ?_⟩
  obtain ⟨hlt, -⟩ := Array.getElem?_eq_some_iff.mp hd
  rw [Array.getElem?_push_lt hlt, ← hd, Array.getElem?_eq_getElem hlt]

mutual

/-- **Cells go on standing for a value** when the store grows, and below any greater bound. -/
theorem Represents.mono {cells cells' : Array Cell} (hcells : Extends cells cells') :
    (v : Value) → {bound bound' : ℕ} → {w : Val} → bound ≤ bound' →
      Represents cells v bound w → Represents cells' v bound' w
  | .null, _, _, _, _, h => h
  | .bool _, _, _, _, _, h => h
  | .int _, _, _, _, _, h => h
  | .float _, _, _, _, _, h => h
  | .str _, _, _, _, _, h => h
  | .list items, _, _, _, hle, h => by
    obtain ⟨id, hid, hw, ws, hcell, hall⟩ := h
    exact ⟨id, hid.trans_le hle, hw, ws, hcells.2 id _ hcell,
      RepresentAll.mono hcells items le_rfl hall⟩
  | .obj es, _, _, _, hle, h => by
    obtain ⟨id, hid, hw, pairs, hcell, hall⟩ := h
    exact ⟨id, hid.trans_le hle, hw, pairs, hcells.2 id _ hcell,
      RepresentEntries.mono hcells es le_rfl hall⟩

theorem RepresentAll.mono {cells cells' : Array Cell} (hcells : Extends cells cells') :
    (items : List Value) → {bound bound' : ℕ} → {ws : List Val} → bound ≤ bound' →
      RepresentAll cells items bound ws → RepresentAll cells' items bound' ws
  | [], _, _, _, _, h => h
  | v :: vs, _, _, _, hle, h => by
    obtain ⟨w, rest, hws, hv, hrest⟩ := h
    exact ⟨w, rest, hws, Represents.mono hcells v hle hv, RepresentAll.mono hcells vs hle hrest⟩

theorem RepresentEntries.mono {cells cells' : Array Cell} (hcells : Extends cells cells') :
    (es : List (Key × Value)) → {bound bound' : ℕ} → {pairs : List (Val × Val)} →
      bound ≤ bound' → RepresentEntries cells es bound pairs →
      RepresentEntries cells' es bound' pairs
  | [], _, _, _, _, h => h
  | (k, v) :: es, _, _, _, hle, h => by
    obtain ⟨w, rest, hpairs, hv, hrest⟩ := h
    exact ⟨w, rest, hpairs, Represents.mono hcells v hle hv,
      RepresentEntries.mono hcells es hle hrest⟩

end

/-! ### Handing values over -/

/-- What making template values leaves as it was: the scopes, the escaping, and the cells that there
are. -/
structure Grows (s s' : Store) : Prop where
  scopes : s'.scopes = s.scopes
  escaping : s'.escaping = s.escaping
  cells : Extends s.cells s'.cells

theorem Grows.refl (s : Store) : Grows s s := ⟨rfl, rfl, .refl _⟩

theorem Grows.trans {a b c : Store} (h : Grows a b) (h' : Grows b c) : Grows a c :=
  ⟨h'.scopes.trans h.scopes, h'.escaping.trans h.escaping, h.cells.trans h'.cells⟩

theorem Grows.push (s : Store) (c : Cell) : Grows s { s with cells := s.cells.push c } :=
  ⟨rfl, rfl, .push _ _⟩

namespace Render

theorem newList_run (ws : List Val) (s : Store) : newList ws s =
    .ok (.cell .list s.cells.size, { s with cells := s.cells.push (.list ws.toArray) }) := rfl

theorem newDict_run (pairs : List (Val × Val)) (s : Store) : newDict pairs s =
    .ok (.cell .dict s.cells.size, { s with cells := s.cells.push (.dict pairs) }) := rfl

theorem ofEntries_cons (k : Key) (v : Value) (es : List (Key × Value)) :
    ofEntries ((k, v) :: es) = ofValue v >>= fun w => ofEntries es >>= fun pairs =>
      pure ((keyVal k, w) :: pairs) := by
  cases k <;> rfl

mutual

/-- **Handing a value over makes cells that stand for it.** -/
theorem ofValue_spec : (v : Value) → (s : Store) → ∃ w s', ofValue v s = .ok (w, s') ∧
    Grows s s' ∧ Represents s'.cells v s'.cells.size w
  | .null, s => ⟨_, _, rfl, .refl s, rfl⟩
  | .bool _, s => ⟨_, _, rfl, .refl s, rfl⟩
  | .int _, s => ⟨_, _, rfl, .refl s, rfl⟩
  | .float _, s => ⟨_, _, rfl, .refl s, rfl⟩
  | .str _, s => ⟨_, _, rfl, .refl s, rfl⟩
  | .list items, s => by
    obtain ⟨ws, s', hrun, hgrows, hall⟩ := ofValues_spec items s
    refine ⟨_, _, by rw [ofValue, bind_of_ok hrun, newList_run], hgrows.trans (.push s' _), ?_⟩
    refine ⟨s'.cells.size, by simp, rfl, ws, by simp, ?_⟩
    exact RepresentAll.mono (.push _ _) items le_rfl hall
  | .obj es, s => by
    obtain ⟨pairs, s', hrun, hgrows, hall⟩ := ofEntries_spec es s
    refine ⟨_, _, by rw [ofValue, bind_of_ok hrun, newDict_run], hgrows.trans (.push s' _), ?_⟩
    refine ⟨s'.cells.size, by simp, rfl, pairs, by simp, ?_⟩
    exact RepresentEntries.mono (.push _ _) es le_rfl hall

theorem ofValues_spec : (items : List Value) → (s : Store) → ∃ ws s', ofValues items s = .ok (ws, s') ∧
    Grows s s' ∧ RepresentAll s'.cells items s'.cells.size ws
  | [], s => ⟨_, _, rfl, .refl s, rfl⟩
  | v :: vs, s => by
    obtain ⟨w, s₁, hv, hgrows₁, hrep⟩ := ofValue_spec v s
    obtain ⟨ws, s₂, hvs, hgrows₂, hall⟩ := ofValues_spec vs s₁
    refine ⟨w :: ws, s₂, ?_, hgrows₁.trans hgrows₂, w, ws, rfl, ?_, hall⟩
    · rw [ofValues, bind_of_ok hv, bind_of_ok hvs, pure_run]
    · exact Represents.mono hgrows₂.cells v hgrows₂.cells.1 hrep

theorem ofEntries_spec : (es : List (Key × Value)) → (s : Store) →
    ∃ pairs s', ofEntries es s = .ok (pairs, s') ∧ Grows s s' ∧
      RepresentEntries s'.cells es s'.cells.size pairs
  | [], s => ⟨_, _, rfl, .refl s, rfl⟩
  | (k, v) :: es, s => by
    obtain ⟨w, s₁, hv, hgrows₁, hrep⟩ := ofValue_spec v s
    obtain ⟨pairs, s₂, hes, hgrows₂, hall⟩ := ofEntries_spec es s₁
    refine ⟨(keyVal k, w) :: pairs, s₂, ?_, hgrows₁.trans hgrows₂, w, pairs, rfl, ?_, hall⟩
    · rw [ofEntries_cons, bind_of_ok hv, bind_of_ok hes, pure_run]
    · exact Represents.mono hgrows₂.cells v hgrows₂.cells.1 hrep

end

end Render

/-! ### Looking at values -/

section Look

variable {s : Store}

/-- What is found behind references that are followed from within some cells. -/
def insideOf (s : Store) (fuel : ℕ) (path : List ℕ) : Followed :=
  ⟨fun kind id => imageOf s fuel path (.cell kind id),
    fun kind id => imageOf s fuel path (.view kind id)⟩

theorem imageOf_list {fuel id : ℕ} {path : List ℕ} {ws : List Val}
    (hcell : s.cells[id]? = some (.list ws.toArray)) (hpath : path.contains id = false) :
    imageOf s (fuel + 1) path (.cell .list id) =
      .list (imagesWith (insideOf s fuel (id :: path)) ws) := by
  have hget : s.cells.getD id default = .list ws.toArray := by
    rw [Array.getD_eq_getD_getElem?, hcell, Option.getD_some]
  rw [imageOf, imageWith]
  simp only [hget, hpath, Bool.false_eq_true, reduceIte]
  rfl

theorem imageOf_dict {fuel id : ℕ} {path : List ℕ} {pairs : List (Val × Val)}
    (hcell : s.cells[id]? = some (.dict pairs)) (hpath : path.contains id = false) :
    imageOf s (fuel + 1) path (.cell .dict id) =
      .dict (entriesWith (insideOf s fuel (id :: path)) pairs) := by
  have hget : s.cells.getD id default = .dict pairs := by
    rw [Array.getD_eq_getD_getElem?, hcell, Option.getD_some]
  rw [imageOf, imageWith]
  simp only [hget, hpath, Bool.false_eq_true, reduceIte]
  rfl

/-- A value in a cell looks as it does when the cell is looked at. -/
theorem imageWith_insideOf {v : Value} {bound : ℕ} {w : Val} (h : Represents s.cells v bound w)
    (fuel : ℕ) (path : List ℕ) : imageWith (insideOf s fuel path) w = imageOf s fuel path w := by
  cases v with
  | list items =>
    obtain ⟨id, -, rfl, -⟩ := h
    rfl
  | obj es =>
    obtain ⟨id, -, rfl, -⟩ := h
    rfl
  | _ =>
    subst h
    cases fuel <;> rfl

/-- A bound above all cells of a value is not among cells that are not below it. -/
theorem contains_eq_false {path : List ℕ} {id bound : ℕ} (hid : id < bound)
    (hpath : ∀ i ∈ path, bound ≤ i) : path.contains id = false := by
  rw [List.contains_eq_mem, decide_eq_false_iff_not]
  intro hmem
  have := hpath id hmem
  omega

mutual

/-- **Looking at the cells of a value shows the value**, with fuel for all cells below the bound and
none of them being looked at already. -/
theorem imageOf_eq : (v : Value) → {bound : ℕ} → {w : Val} → Represents s.cells v bound w →
    (fuel : ℕ) → bound ≤ fuel → (path : List ℕ) → (∀ id ∈ path, bound ≤ id) →
      imageOf s fuel path w = Image.ofValue v
  | .null, _, _, h, fuel, _, _, _ => by subst h; cases fuel <;> rfl
  | .bool _, _, _, h, fuel, _, _, _ => by subst h; cases fuel <;> rfl
  | .int _, _, _, h, fuel, _, _, _ => by subst h; cases fuel <;> rfl
  | .float _, _, _, h, fuel, _, _, _ => by subst h; cases fuel <;> rfl
  | .str _, _, _, h, fuel, _, _, _ => by subst h; cases fuel <;> rfl
  | .list items, bound, _, h, fuel, hfuel, path, hpath => by
    obtain ⟨id, hid, rfl, ws, hcell, hall⟩ := h
    obtain ⟨fuel, rfl⟩ : ∃ f, fuel = f + 1 := ⟨fuel - 1, by omega⟩
    rw [imageOf_list hcell (contains_eq_false hid hpath), Image.ofValue]
    have hinner : ∀ i ∈ id :: path, id ≤ i := by
      intro i hi
      rcases List.mem_cons.mp hi with rfl | hi
      · exact le_rfl
      · exact hid.le.trans (hpath i hi)
    rw [imagesWith_eq items hall fuel (by omega) (id :: path) hinner]
  | .obj es, bound, _, h, fuel, hfuel, path, hpath => by
    obtain ⟨id, hid, rfl, pairs, hcell, hall⟩ := h
    obtain ⟨fuel, rfl⟩ : ∃ f, fuel = f + 1 := ⟨fuel - 1, by omega⟩
    rw [imageOf_dict hcell (contains_eq_false hid hpath), Image.ofValue]
    have hinner : ∀ i ∈ id :: path, id ≤ i := by
      intro i hi
      rcases List.mem_cons.mp hi with rfl | hi
      · exact le_rfl
      · exact hid.le.trans (hpath i hi)
    rw [entriesWith_eq es hall fuel (by omega) (id :: path) hinner]

theorem imagesWith_eq : (items : List Value) → {bound : ℕ} → {ws : List Val} →
    RepresentAll s.cells items bound ws → (fuel : ℕ) → bound ≤ fuel → (path : List ℕ) →
      (∀ id ∈ path, bound ≤ id) → imagesWith (insideOf s fuel path) ws = Image.ofValues items
  | [], _, _, h, _, _, _, _ => by subst h; rfl
  | v :: vs, _, _, h, fuel, hfuel, path, hpath => by
    obtain ⟨w, rest, rfl, hv, hrest⟩ := h
    rw [imagesWith, Image.ofValues, imageWith_insideOf hv, imageOf_eq v hv fuel hfuel path hpath,
      imagesWith_eq vs hrest fuel hfuel path hpath]

theorem entriesWith_eq : (es : List (Key × Value)) → {bound : ℕ} → {pairs : List (Val × Val)} →
    RepresentEntries s.cells es bound pairs → (fuel : ℕ) → bound ≤ fuel → (path : List ℕ) →
      (∀ id ∈ path, bound ≤ id) → entriesWith (insideOf s fuel path) pairs = Image.ofEntries es
  | [], _, _, h, _, _, _, _ => by subst h; rfl
  | (k, v) :: es, _, _, h, fuel, hfuel, path, hpath => by
    obtain ⟨w, rest, rfl, hv, hrest⟩ := h
    have hkey : imageWith (insideOf s fuel path) (keyVal k) = Image.ofKey k := by cases k <;> rfl
    have htail := entriesWith_eq es hrest fuel hfuel path hpath
    rw [Image.ofEntries, ← htail, entriesWith, List.map_cons]
    simp only [hkey, imageWith_insideOf hv, imageOf_eq v hv fuel hfuel path hpath]
    rfl

end

/-- **A value that was handed over looks as it was**, and looking changes nothing. -/
theorem look_eq {v : Value} {bound : ℕ} {w : Val} (h : Represents s.cells v bound w)
    (hbound : bound ≤ s.cells.size) : look w s = .ok (Image.ofValue v, s) := by
  rw [look, imageOf_eq v h (s.cells.size + 1) (by omega) [] (by simp)]

/-- **The JSON text of what was handed over is that of the value.** -/
theorem jsonText_eq {v : Value} {bound : ℕ} {w : Val} (h : Represents s.cells v bound w)
    (hbound : bound ≤ s.cells.size) (hv : v.isWritable = true) (st : Json.Style) :
    jsonText st w s = .ok (Json.print st v, s) := by
  rw [jsonText, bind_of_ok (look_eq h hbound), Image.hasText_ofValue, hv,
    Image.toValue?_ofValue]
  rfl

end Look

end WizardLogic.Template
