import WizardLogic.Template.Look
import WizardLogic.Text.Reference
import WizardLogic.Text.Search

/-!
# Markup

Text that is safe to print inside markup. Escaping replaces the five characters that have a meaning
there. Joining markup with other text escapes the other text.
-/

namespace WizardLogic.Template

open Render

/-- The characters of a text with the characters that have a meaning in markup replaced. -/
def escapeChars (cs : List Char) : List Char :=
  cs.flatMap fun c =>
    if c = '&' then "&amp;".toList
    else if c = '<' then "&lt;".toList
    else if c = '>' then "&gt;".toList
    else if c = '\'' then "&#39;".toList
    else if c = '"' then "&#34;".toList
    else [c]

/-- A text with the characters that have a meaning in markup replaced. -/
def escapeText (s : String) : String := String.ofList (escapeChars s.toList)

/-- The markup of an image: its text, escaped unless it is markup already. -/
def Image.escaped (v : Image) : Except Failure String := do
  let s ← v.textOf
  return if v.isMarkup then s else escapeText s

/-- The text of the markup of a value. -/
def escapedText (v : Val) : Render String := do
  let s ← textOf v
  return if v.isMarkup then s else escapeText s

/-- The markup of a value: its text, escaped unless it is markup already. -/
def escapeVal (v : Val) : Render Val := do return .markup (← escapedText v)

/-- Texts joined by markup: each is escaped unless it is markup already. -/
def joinMarkup (glue : String) (vs : List Val) : Render Val := do
  return .markup (glue.intercalate (← vs.mapM escapedText))

/-- What remains of a text without comments and tags. `fuel` bounds the number of cuts. -/
def dropTags : Nat → List Char → List Char
  | 0, cs => cs
  | fuel + 1, cs =>
    match Text.find? ['<', '!', '-', '-'] cs with
    | some i =>
      match Text.find? ['-', '-', '>'] (cs.drop i) with
      | some j => dropTags fuel (cs.take i ++ cs.drop (i + j + 3))
      | none => dropPlainTags fuel cs
    | none => dropPlainTags fuel cs
where
  /-- What remains of a text without tags. -/
  dropPlainTags : Nat → List Char → List Char
    | 0, cs => cs
    | fuel + 1, cs =>
      match Text.find? ['<'] cs with
      | some i =>
        match Text.find? ['>'] (cs.drop i) with
        | some j => dropPlainTags fuel (cs.take i ++ cs.drop (i + j + 1))
        | none => cs
      | none => cs

/-- The text that markup stands for: its character references replaced. -/
def unescapedText (s : String) : Except Failure String :=
  match Text.unescape? s.toList with
  | some cs => .ok (String.ofList cs)
  | none => invalid

/-- The text of markup: no comments, no tags, white space reduced to single blanks, and character
references replaced. -/
def plainText (s : String) : Except Failure String :=
  let cs := dropTags (s.length + 1) s.toList
  unescapedText (String.ofList ([' '].intercalate (Text.words cs)))

end WizardLogic.Template
