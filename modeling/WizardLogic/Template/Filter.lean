import WizardLogic.Template.Filter.Collection
import WizardLogic.Template.Filter.Json
import WizardLogic.Template.Filter.Number
import WizardLogic.Template.Filter.Text
import WizardLogic.Template.Outline

/-!
# Filters

A filter makes a value of a value, in most cases with further arguments. `callFilter` applies a
filter by its name. Those that go through a collection element by element yield an iterator that has
not yet begun.
-/

namespace WizardLogic.Template

open Render

/-- The parameters of the filters that yield an iterator, where they are checked at once; the flag
tells whether the first has to be given. -/
def lazyParams? (name : String) : Option (List String × Bool) :=
  match name with
  | "items" => some ([], false)
  | "slice" => some (["slices", "fill_with"], true)
  | "batch" => some (["linecount", "fill_with"], true)
  | "unique" => some (["case_sensitive", "attribute"], false)
  | _ => none

/-- A filter that yields an iterator, if it is one that does. -/
def lazyFilter? (name : String) (v : Val) (a : CallArgs) : Option (Render Val) :=
  let waiting : Render Val := newIterator (.waiting name v a)
  if ["map", "select", "reject", "selectattr", "rejectattr"].contains name then some waiting
  else match lazyParams? name with
    | some (params, needsFirst) => some do
      let b ← ofOutcome (a.bind params)
      if needsFirst && (b.getD 0 none).isNone then invalid else waiting
    | none => none

/-- A filter of numbers, texts or markup; none if there is no such filter. -/
def scalarFilter? (p : Powers) (name : String) (v : Val) (a : CallArgs) : Option (Render Val) :=
  let bound (params : List String) : Render (List (Option Val)) := ofOutcome (a.bind params)
  let alone (r : Render Val) : Render Val := do
    let _ ← bound []
    r
  match name with
  | "abs" => some <| alone do
    match v, v.number? with
    | .complex z, _ => return .float z.abs
    | _, some n => return .ofNumber n.abs
    | _, none => invalid
  | "capitalize" => some <| alone (onText v Text.capitalize)
  | "lower" => some <| alone (onText v Text.lower)
  | "upper" => some <| alone (onText v Text.upper)
  | "title" => some <| alone do return .ofChars (titleWords (← textOf v).toList)
  | "center" => some do
    let b ← bound ["width"]
    let width ← ofOutcome (sizeOf (argument b 0 (.int 80)))
    onText v (centered width.toNat ' ')
  | "e" | "escape" => some <| alone (escapeVal v)
  | "forceescape" => some <| alone do return .markup (escapeText (← textOf v))
  | "filesizeformat" => some do
    let b ← bound ["binary"]
    match ← ofOutcome (toDouble? v) with
    | some d => return .ofChars (← ofOutcome (sizeText d (← isTrue (argument b 0 (.bool false)))))
    | none => invalid
  | "float" => some do
    let b ← bound ["default"]
    match ← ofOutcome (toDouble? v) with
    | some d => return .float d
    | none => return argument b 0 (.float (Double.zero false))
  | "int" => some do
    let b ← bound ["default", "base"]
    ofOutcome (toInt v (argument b 0 (.int 0)) (argument b 1 (.int 10)))
  | "format" => some do
    if !a.positional.isEmpty && !a.named.isEmpty then invalid
    else
      let arg ← if a.named.isEmpty then pure (.tuple a.positional)
        else newDict (a.named.map fun (k, w) => (.str k, w))
      percentVal (← softText v) arg
  | "indent" => some do
    let b ← bound ["width", "first", "blank"]
    indentText v (argument b 0 (.int 4)) (← isTrue (argument b 1 (.bool false)))
      (← isTrue (argument b 2 (.bool false)))
  | "pprint" => some <| alone do
    let image ← look v
    if image.hasText then return .ofChars image.outline else invalid
  | "prettyjson" => some <| alone do return .str (← prettyJson v)
  | "replace" => some do
    let b ← bound ["old", "new", "count"]
    match b.getD 0 none, b.getD 1 none with
    | some old, some new =>
      let limit ← match argument b 2 .none with
        | .none => pure none
        | n => ofOutcome (limitOf n)
      replaceFilter v old new limit
    | _, _ => invalid
  | "round" => some do
    let b ← bound ["precision", "method"]
    match (argument b 1 (.str "common")).text? with
    | some m => ofOutcome (roundBy v (argument b 0 (.int 0)) m)
    | none => invalid
  | "safe" => some <| alone do return .markup (← textOf v)
  | "string" => some <| alone (softText v)
  | "striptags" => some <| alone do return .str (← ofOutcome (plainText (← textOf v)))
  | "tojson" => some do
    let b ← bound ["indent"]
    markupJson (argument b 0 .none) v
  | "trim" => some do
    let b ← bound ["chars"]
    let w ← softText v
    let out ← ofOutcome (stripWith true true (w.text?.getD "").toList (b.getD 0 none))
    onText w fun _ => out
  | "truncate" => some do
    let b ← bound ["length", "killwords", "end", "leeway"]
    let leeway := match argument b 3 .none with
      | .none => .int 5
      | n => n
    truncateFilter p v (argument b 0 (.int 255)) (argument b 1 (.bool false))
      (argument b 2 (.str "...")) leeway
  | "urlencode" => some <| alone (urlEncode p v)
  | "urlize" => some do
    let b ← bound ["trim_url_limit", "nofollow", "target", "rel", "extra_schemes"]
    urlize p v (argument b 0 .none) (argument b 1 (.bool false)) (argument b 2 .none)
      (argument b 3 .none) (argument b 4 .none)
  | "wordcount" => some <| alone do return .int (wordCount (← textOf v).toList)
  | "wordwrap" => some do
    let b ← bound ["width", "break_long_words", "wrapstring", "break_on_hyphens"]
    wordWrap v (argument b 0 (.int 79)) (← isTrue (argument b 1 (.bool true)))
      (← isTrue (argument b 3 (.bool true))) (argument b 2 .none)
  | "xmlattr" => some do
    let b ← bound ["autospace"]
    tagAttributes v (← isTrue (argument b 0 (.bool true)))
  | _ => none

/-- A filter of collections and of values of any kind. An unknown filter is invalid. -/
def collectionFilter (p : Powers) (name : String) (v : Val) (a : CallArgs) : Render Val := do
  let bound (params : List String) : Render (List (Option Val)) := ofOutcome (a.bind params)
  match name with
  | "attr" => do
    let b ← bound ["name"]
    match (argument b 0 .none).text? with
    | some n => return safeAttribute n ((← attribute? p v n).getD .undefined)
    | none => invalid
  | "count" | "length" => do
    let _ ← bound []
    return .int (← lengthOf p v)
  | "d" | "default" => do
    let b ← bound ["default_value", "boolean"]
    let d := argument b 0 (.str "")
    if v.isUndefined then return d
    else if ← isTrue (argument b 1 (.bool false)) then return if ← isTrue v then v else d
    else return v
  | "dictsort" => do
    let b ← bound ["case_sensitive", "by", "reverse"]
    dictSort v (← isTrue (argument b 0 (.bool false))) (argument b 1 (.str "key"))
      (argument b 2 (.bool false))
  | "first" => do
    let _ ← bound []
    return (← firstElement p v).getD .undefined
  | "last" => do
    let _ ← bound []
    lastElement v
  | "random" => do
    let _ ← bound []
    someItem p v
  | "groupby" => do
    let b ← bound ["attribute", "default", "case_sensitive"]
    match b.getD 0 none with
    | some path =>
      groupBy p v path (argument b 1 .none) (← isTrue (argument b 2 (.bool false)))
    | none => invalid
  | "join" => do
    let b ← bound ["d", "attribute"]
    let parts ← ofOutcome (pathParts (argument b 1 .none))
    let xs ← (← elements p v).mapM fun x => followPath p none x parts
    joinWith (argument b 0 (.str "")) xs
  | "list" => do
    let _ ← bound []
    newList (← elements p v)
  | "max" | "min" => do
    let b ← bound ["case_sensitive", "attribute"]
    extreme p (if name = "max" then .gt else .lt) v (argument b 1 .none)
      (← isTrue (argument b 0 (.bool false)))
  | "reverse" => do
    let _ ← bound []
    reversed p v
  | "sort" => do
    let b ← bound ["reverse", "case_sensitive", "attribute"]
    let key ← measures p (argument b 2 .none) (← isTrue (argument b 1 (.bool false)))
    let xs ← elements p v
    newList (← sortElements xs key (← ofOutcome (reverseOf (argument b 0 (.bool false)))))
  | "sum" => do
    let b ← bound ["attribute", "start"]
    sumFilter p v (argument b 0 .none) (argument b 1 (.int 0))
  | _ => invalid

/-- **A filter applied to a value.** -/
def callFilter (p : Powers) (name : String) (v : Val) (a : CallArgs) : Render Val :=
  match lazyFilter? name v a, scalarFilter? p name v a with
  | some r, _ => r
  | none, some r => r
  | none, none => collectionFilter p name v a

end WizardLogic.Template
