import WizardLogic.Template.Markup

/-!
# What is written

A printed value is shown in JSON spelling (`printed`): nothing for none and undefined values,
`true` and `false` for the booleans, JSON for lists and objects, and its own text for all else. It is
escaped where its surroundings say so (`printText`).

A tag may also write the value of a call or of a filter as it is. If that is no text, nothing is
wrong before the text is put together, which is when the rendering, or the capture around the tag,
has come to its end (`Output`).
-/

namespace WizardLogic.Template

open Render

/-- What statements have written: none if something is no text. -/
abbrev Output := Option String

namespace Output

/-- Nothing at all. -/
def empty : Output := some ""

/-- One output behind another. -/
def append (a b : Output) : Output :=
  match a, b with
  | some s, some t => some (s ++ t)
  | _, _ => none

/-- A value as it is. -/
def ofVal (v : Val) : Output := v.text?

end Output

/-- Whether what is written in a body is escaped. -/
def escapesHere (env : Env) : Render Bool :=
  if env.escape.depends then escapes else pure env.escape.on

/-- A value in the spelling in which it is printed. -/
def printed (v : Val) : Render Val :=
  match v with
  | .none | .undefined => pure (.str "")
  | .bool b => pure (.str (String.ofList (Json.boolChars b)))
  | .cell .dict _ | .cell .list _ => do return .str (← jsonText .line v)
  | v => pure v

/-- The text of a printed value. -/
def printText (env : Env) (v : Val) : Render String := do
  let w ← printed v
  if ← escapesHere env then escapedText w else textOf w

/-- The text of an output as a value: markup, or plain text. -/
def captured (isMarkup : Bool) (out : Output) : Render Val := do
  let s ← require out
  return if isMarkup then .markup s else .str s

end WizardLogic.Template
