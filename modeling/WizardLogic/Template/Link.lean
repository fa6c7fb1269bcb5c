import WizardLogic.Regex.Matcher
import WizardLogic.Regex.Parser
import WizardLogic.Template.Markup

/-!
# Links

Addresses in a text turned into links (`linkText`). The text is escaped and gone through word by
word. Punctuation around a word does not belong to its address, except for closing brackets that
have their opening ones in it.

A word is an address of the web if it looks like one with or without its scheme, and an address of
mail if it has an at sign. Further schemes may be given.
-/

namespace WizardLogic.Template

/-- What an address of the web looks like. -/
def webAddress : String :=
  "(?ix)^((https?://|www\\.)(([\\w%-]+\\.)+)?([a-z]\x7b2,63\x7d|xn--[\\w%]\x7b2,59\x7d)" ++
    "|([\\w%-]\x7b2,63\x7d\\.)+(com|net|int|edu|gov|org|info|mil)" ++
    "|(https?://)((([\\d]\x7b1,3\x7d)(\\.[\\d]\x7b1,3\x7d)\x7b3\x7d)" ++
    "|(\\[([\\da-f]\x7b0,4\x7d:)\x7b2\x7d([\\da-f]\x7b0,4\x7d:?)\x7b1,6\x7d])))" ++
    "(?::[\\d]\x7b1,5\x7d)?(?:[/?#]\\S*)?$"

/-- What an address of mail looks like. -/
def mailAddress : String := "^\\S+@\\w[\\w.-]*\\.\\w+$"

/-- What a scheme looks like. -/
def schemeForm : String := "\\A[\\w.+-]\x7b2,\x7d:(/)\x7b0,2\x7d\\Z"

/-- Whether a text looks like something. -/
def looksLike (pattern : String) (cs : List Char) : Bool :=
  match Regex.parse pattern with
  | .ok node => node.search (String.ofList cs)
  | .error _ => false

/-- How links are written. -/
structure Linking where
  /-- The greatest length of the text of a link to the web, or none. -/
  limit : Val
  /-- The further attributes of a link. -/
  attributes : List Char
  /-- The further schemes. -/
  schemes : List (List Char)

/-- An attribute of a link, with its value escaped. -/
def linkAttribute (name : String) (value : List Char) : List Char :=
  ' ' :: name.toList ++ '=' :: '"' :: escapeChars value ++ ['"']

/-- What a link says about the page that it leads to: the given words, the one that keeps it from
being followed if so wanted, and the one that keeps the page from its opener; each once, in
order. -/
def linkRelations (given : List (List Char)) (nofollow : Bool) : List Char :=
  let words := given ++ (if nofollow then ["nofollow".toList] else []) ++ ["noopener".toList]
  [' '].intercalate (words.eraseDups.mergeSort fun a b => String.ofList a ≤ String.ofList b)

/-- The brackets that open in front of a word, and the word. -/
def takeOpening : List Char → List Char × List Char
  | '&' :: 'l' :: 't' :: ';' :: cs =>
    let (head, rest) := takeOpening cs
    ("&lt;".toList ++ head, rest)
  | c :: cs =>
    if c = '(' || c = '<' then
      let (head, rest) := takeOpening cs
      (c :: head, rest)
    else ([], c :: cs)
  | [] => ([], [])

/-- The punctuation that ends a word, given backwards, and the word. -/
def takeClosing : List Char → List Char × List Char
  | ';' :: 't' :: 'g' :: '&' :: cs =>
    let (tail, rest) := takeClosing cs
    (";tg&".toList ++ tail, rest)
  | c :: cs =>
    if ")>.,\n".toList.contains c then
      let (tail, rest) := takeClosing cs
      (c :: tail, rest)
    else ([], c :: cs)
  | [] => ([], [])

/-- Moves so many closing brackets from what follows a word into it, with what stands before. -/
def moveClosing (close : List Char) : Nat → List Char × List Char → List Char × List Char
  | 0, p => p
  | n + 1, (word, tail) =>
    match Text.find? close tail with
    | some i =>
      let i := i + close.length
      moveClosing close n (word ++ tail.take i, tail.drop i)
    | none => (word, tail)

/-- Moves closing brackets into a word until they match its opening ones. -/
def balance (p : List Char × List Char) (brackets : List Char × List Char) :
    List Char × List Char :=
  let opened := Text.count brackets.1 p.1
  if opened ≤ Text.count brackets.2 p.1 then p
  else moveClosing brackets.2 (min opened (Text.count brackets.2 p.2)) p

/-- A link to an address, with attributes and a text. -/
def link (address attributes text : List Char) : List Char :=
  "<a href=\"".toList ++ address ++ '"' :: attributes ++ '>' :: text ++ "</a>".toList

/-- The text of a link, cut if it is too long. Only numbers are limits, and only whole ones can be
cut at; a limit that is undefined is never passed. -/
def trimAddress (limit : Val) (cs : List Char) : Except Failure (List Char) :=
  match limit with
  | .none | .undefined => .ok cs
  | limit =>
    match limit.number?, limit.int? with
    | some n, whole =>
      match n.compare? (.int cs.length), whole with
      | some .lt, some k =>
        let kept := if k < 0 then cs.length - k.natAbs else k.toNat
        .ok (cs.take kept ++ "...".toList)
      | some .lt, none => invalid
      | _, _ => .ok cs
    | none, _ => invalid

/-- A word without punctuation around it, as a link if it is an address. -/
def linkAddress (l : Linking) (word : List Char) : Except Failure (List Char) := do
  let isWebScheme := "https://".toList.isPrefixOf word || "http://".toList.isPrefixOf word
  let mailto := "mailto:".toList
  let mightBeMail := word.contains '@' && !"www.".toList.isPrefixOf word &&
    word.head? != some '@' && !word.contains ':'
  if looksLike webAddress word then
    return link (if isWebScheme then word else "https://".toList ++ word) l.attributes
      (← trimAddress l.limit word)
  else if mailto.isPrefixOf word && looksLike mailAddress (word.drop mailto.length) then
    return link word [] (word.drop mailto.length)
  else if mightBeMail && looksLike mailAddress word then return link (mailto ++ word) [] word
  else
    return l.schemes.foldl (fun word scheme =>
      if word != scheme && scheme.isPrefixOf word then link word l.attributes word else word) word

/-- A word with the punctuation around it. -/
def linkWord (l : Linking) (word : List Char) : Except Failure (List Char) := do
  let (head, word) := takeOpening word
  let (tail, word) := takeClosing word.reverse
  let brackets := [(['('], [')']), (['<'], ['>']), ("&lt;".toList, "&gt;".toList)]
  let (word, tail) := brackets.foldl balance (word.reverse, tail.reverse)
  return head ++ (← linkAddress l word) ++ tail

/-- **Markup with its addresses turned into links;** `fuel` bounds the number of words. -/
def linkMarkup (l : Linking) : Nat → List Char → Except Failure (List Char)
  | 0, cs => .ok cs
  | _ + 1, [] => .ok []
  | fuel + 1, cs => do
    let word := cs.takeWhile fun c => !Text.isBlank c
    let gap := (cs.drop word.length).takeWhile Text.isBlank
    let here ← linkWord l word
    return here ++ gap ++ (← linkMarkup l fuel (cs.drop (word.length + gap.length)))

end WizardLogic.Template
