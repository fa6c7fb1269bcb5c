import WizardLogic.Yaml.Cursor
import WizardLogic.Yaml.Token

/-!
# Names, tags and directives in YAML text

Anchors and aliases are words of ASCII letters, digits, hyphens and underscores. A tag is a handle
with a suffix, a suffix in angle brackets, or a lone exclamation mark. A directive stands on a line
of its own before a document.
-/

namespace WizardLogic.Yaml.Scan

/-- Whether a character can stand in a word. -/
def isWordChar (c : Char) : Bool := c.isAlphanum || c = '-' || c = '_'

/-- Reads a word. -/
def word : Scan String := do
  let cs ← takeWhile isWordChar
  if cs.isEmpty then malformed else return String.ofList cs

/-- The name of an anchor or an alias, from its indicator on. -/
def nodeName : Scan String := do
  skip 1
  let name ← word
  match ← peek with
  | none => return name
  | some c =>
    if endsWord (some c) || ['?', ':', ',', ']', '\x7d', '%', '@', Char.ofNat 96].contains c then
      return name
    else malformed

/-! ### Tags -/

/-- Whether a character other than a percent sign can stand in the suffix of a tag. -/
def isTagChar (c : Char) : Bool := c.isAlphanum || "-;/?:@&=+$,_.!~*'()[]".toList.contains c

/-- The value of a hexadecimal digit of an escape. -/
def escapeDigit? (c : Char) : Option Nat :=
  if '0' ≤ c && c ≤ '9' then some (c.toNat - 48)
  else if 'a' ≤ c && c ≤ 'f' then some (c.toNat - 87)
  else if 'A' ≤ c && c ≤ 'F' then some (c.toNat - 55)
  else none

/-- The bytes of the escapes that are ahead. -/
def tagEscapes : Nat → Scan (List UInt8)
  | 0 => return []
  | n + 1 => do
    if (← peek) = some '%' then
      skip 1
      match (← take 2).mapM escapeDigit? with
      | some [a, b] => do
        let more ← tagEscapes n
        return UInt8.ofNat (16 * a + b) :: more
      | _ => malformed
    else return []

/-- The suffix of a tag, after what was read of it. -/
def tagSuffixFrom : Nat → List Char → Scan (List Char)
  | 0, found => return found
  | n + 1, found => do
    let found := found ++ (← takeWhile isTagChar)
    if (← peek) = some '%' then
      let bytes ← tagEscapes (← get).rest.length
      match String.fromUTF8? ⟨bytes.toArray⟩ with
      | some s => tagSuffixFrom n (found ++ s.toList)
      | none => malformed
    else return found

/-- The suffix of a tag, which is not empty. -/
def tagSuffix : Scan String := do
  let cs ← tagSuffixFrom ((← get).rest.length + 1) []
  if cs.isEmpty then malformed else return String.ofList cs

/-- The handle of a tag: exclamation marks around a word, which may be missing together with the
second mark only if a space follows. -/
def tagHandle : Scan String := do
  if (← peek) != some '!' then malformed
  else if (← peekAt 1) = some ' ' then
    skip 1
    return "!"
  else
    skip 1
    let name ← takeWhile isWordChar
    if (← peek) = some '!' then
      skip 1
      return String.ofList ('!' :: name ++ ['!'])
    else malformed

/-- Whether another exclamation mark stands in a tag behind its first. -/
def hasHandle (cs : List Char) : Bool :=
  (cs.takeWhile fun c => !endsItem (some c)).contains '!'

/-- A tag, from its indicator on. -/
def tagName : Scan TagName := do
  let name ←
    match ← peekAt 1 with
    | some '<' => do
      skip 2
      let suffix ← tagSuffix
      if (← peek) = some '>' then
        skip 1
        pure ⟨none, suffix⟩
      else malformed
    | c =>
      if endsWord c then do
        skip 1
        pure ⟨none, "!"⟩
      else if hasHandle ((← get).rest.drop 1) then do
        let handle ← tagHandle
        pure ⟨some handle, ← tagSuffix⟩
      else do
        skip 1
        pure ⟨some "!", ← tagSuffix⟩
  if endsItem (← peek) then return name else malformed

/-! ### Directives -/

/-- A number of a version. -/
def versionNumber : Scan Nat := do
  let cs ← takeWhile Char.isDigit
  if cs.isEmpty then malformed else return cs.foldl (fun n c => n * 10 + (c.toNat - 48)) 0

/-- A directive, from its indicator on. -/
def directive : Scan Token := do
  skip 1
  let name ← word
  if !endsItem (← peek) then malformed
  else
    let token ←
      match name with
      | "YAML" => do
        skipSpaces
        let major ← versionNumber
        if (← peek) != some '.' then malformed
        else
          skip 1
          let _ ← versionNumber
          if endsItem (← peek) then pure (Token.versionDirective major) else malformed
      | "TAG" => do
        skipSpaces
        let handle ← tagHandle
        if (← peek) != some ' ' then malformed
        else
          skipSpaces
          let meaning ← tagSuffix
          if endsItem (← peek) then pure (Token.tagDirective handle meaning) else malformed
      | _ => do
        skipToLineEnd
        pure Token.otherDirective
    skipIgnoredLine
    return token

end WizardLogic.Yaml.Scan
