import WizardLogic.Template.TextMethod

/-!
# JSON in templates

The JSON text of values: indented, for reading (`prettyJson`), or with sorted keys and safe inside
markup (`markupJson`).
-/

namespace WizardLogic.Template

open Render

/-- The indented JSON text of a value; an undefined value counts as null. -/
def prettyJson (v : Val) : Render String :=
  match v with
  | .undefined => jsonText .indented .none
  | v => jsonText .indented v

mutual

/-- The JSON value of an image that JSON has a form for, with the keys of its objects sorted. -/
def sortedJson? : Image → Option Value
  | .none => some .null
  | .bool b => some (.bool b)
  | .int n => some (.int n)
  | .float d => some (.float d)
  | .str s => some (.str s)
  | .markup s => some (.str s)
  | .list xs => (sortedJsons? xs).map .list
  | .tuple _ xs => (sortedJsons? xs).map .list
  | .dict es =>
    let comparable := es.all fun a => es.all fun b => (Image.ordered? .lt a.1 b.1).isSome
    if es.length > 1 && !comparable then none
    else
      match sortedEntries? es with
      | some pairs =>
        let sorted := pairs.mergeSort fun a b => Image.ordered? .lt b.1 a.1 != some true
        some (.obj (sorted.map Prod.snd))
      | none => none
  | _ => none

/-- The JSON values of several images. -/
def sortedJsons? : List Image → Option (List Value)
  | [] => some []
  | x :: xs =>
    match sortedJson? x, sortedJsons? xs with
    | some v, some vs => some (v :: vs)
    | _, _ => none

/-- The JSON entries of an object, each with its key as it was. -/
def sortedEntries? : List (Image × Image) → Option (List (Image × Key × Value))
  | [] => some []
  | (k, v) :: es =>
    match k.toKey?, sortedJson? v, sortedEntries? es with
    | some key, some w, some rest => some ((k, key, w) :: rest)
    | _, _, _ => none

end

/-- The step of an indentation that an argument denotes: a text, or a number of blanks. -/
def indentStep (v : Val) : Except Failure (Option (List Char)) := do
  match v with
  | .none => return none
  | v =>
    match v.text? with
    | some s => return some s.toList
    | none => return some (List.replicate (← sizeOf v).toNat ' ')

/-- JSON text that is safe inside markup. -/
def markupJson (indent v : Val) : Render Val := do
  let step ← if v.text?.isSome then pure none else ofOutcome (indentStep indent)
  let image ← look v
  if !image.hasText then invalid
  else match sortedJson? image with
    | none => invalid
    | some w =>
      let style : Json.Style := match step with
        | none => .asciiLine
        | some step => ⟨true, [','], [':', ' '], some step⟩
      let safe (c : Char) : List Char :=
        if c = '<' then "\\u003c".toList
        else if c = '>' then "\\u003e".toList
        else if c = '&' then "\\u0026".toList
        else if c = '\'' then "\\u0027".toList
        else [c]
      return .markup (String.ofList ((Json.write style 0 w).flatMap safe))

end WizardLogic.Template
