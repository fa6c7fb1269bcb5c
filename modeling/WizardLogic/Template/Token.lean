import WizardLogic.Number.Reading
import WizardLogic.Text.Identifier

/-!
# Tokens of templates

A template is literal text with three kinds of brackets in it: expressions to print, tags and
comments. Between them the text is kept, line ends made uniform; a minus sign inside a bracket
removes the white space outside of it. A raw section is literal text throughout. Inside brackets
the usual tokens of expressions are read; while a parenthesis, bracket or brace is open the closing
bracket of the expression is not looked for.

`Token.ofText?` yields the tokens of a whole template, or none if some character cannot start a
token, a parenthesis does not match, or a comment or raw section is not closed. One that is opened
at the very end of the template is empty.
-/

namespace WizardLogic.Template

/-- Operators and punctuation. -/
inductive Symbol
  | add | sub | mul | div | floorDiv | mod | pow | tilde
  | lparen | rparen | lbracket | rbracket | lbrace | rbrace
  | eq | ne | lt | le | gt | ge | assign
  | dot | colon | comma | semicolon | pipe
deriving DecidableEq, Repr

/-- Tokens. The end of the template is the end of the list. -/
inductive Token
  | data (s : String)
  | printBegin
  | printEnd
  | tagBegin
  | tagEnd
  | name (s : String)
  | str (s : String)
  | int (n : Int)
  | float (d : Double)
  | sym (s : Symbol)
deriving DecidableEq

namespace Token

/-- Line ends of all kinds made line feeds. -/
def unifyLines : List Char → List Char
  | '\r' :: '\n' :: cs => '\n' :: unifyLines cs
  | '\r' :: cs => '\n' :: unifyLines cs
  | c :: cs => c :: unifyLines cs
  | [] => []

/-- The text up to the first opening bracket, and what starts there. -/
def splitData : List Char → List Char × List Char
  | [] => ([], [])
  | '{' :: c :: cs =>
    if c = '{' || c = '%' || c = '#' then ([], '{' :: c :: cs)
    else
      let (before, rest) := splitData (c :: cs)
      ('{' :: before, rest)
  | c :: cs =>
    let (before, rest) := splitData cs
    (c :: before, rest)

/-- A sign right after an opening bracket: whether it is a minus, and what follows. -/
def takeTrim : List Char → Bool × List Char
  | '-' :: cs => (true, cs)
  | '+' :: cs => (false, cs)
  | cs => (false, cs)

/-- What follows white space. -/
def skipBlanks (cs : List Char) : List Char := cs.dropWhile Text.isBlank

/-- The closing bracket of a tag or comment, with its sign: what follows it. -/
def closeTag? (mark : Char) : List Char → Option (List Char)
  | '+' :: m :: '}' :: cs => if m = mark then some cs else none
  | '-' :: m :: '}' :: cs => if m = mark then some (skipBlanks cs) else none
  | m :: '}' :: cs => if m = mark then some cs else none
  | _ => none

/-- The closing bracket of a printed expression, with its sign: what follows it. -/
def closePrint? : List Char → Option (List Char)
  | '-' :: '}' :: '}' :: cs => some (skipBlanks cs)
  | '}' :: '}' :: cs => some cs
  | _ => none

/-- A word at the front: what follows it. -/
def dropWord? : List Char → List Char → Option (List Char)
  | [], rest => some rest
  | w :: ws, c :: cs => if w = c then dropWord? ws cs else none
  | _ :: _, [] => none

/-- The rest of an opening raw tag after its sign: what follows the tag. -/
def openRaw? (cs : List Char) : Option (List Char) := do
  let cs ← dropWord? "raw".toList (skipBlanks cs)
  match skipBlanks cs with
  | '-' :: '%' :: '}' :: cs => some (skipBlanks cs)
  | '%' :: '}' :: cs => some cs
  | _ => none

/-- The rest of a closing raw tag after its opening bracket: whether the text before it is trimmed,
and what follows the tag. -/
def closeRaw? (cs : List Char) : Option (Bool × List Char) := do
  let (trim, cs) := takeTrim cs
  let cs ← dropWord? "endraw".toList (skipBlanks cs)
  let cs ← closeTag? '%' (skipBlanks cs)
  return (trim, cs)

/-- The text of a raw section, whether its end is trimmed, and what follows its closing tag. -/
def takeRaw : List Char → Option (List Char × Bool × List Char)
  | [] => none
  | c :: cs =>
    let here :=
      match c, cs with
      | '{', '%' :: rest => closeRaw? rest
      | _, _ => none
    match here with
    | some (trim, rest) => some ([], trim, rest)
    | none => (takeRaw cs).map fun (raw, trim, rest) => (c :: raw, trim, rest)

/-- What follows a comment. -/
def skipComment : List Char → Option (List Char)
  | [] => none
  | c :: cs =>
    match closeTag? '#' (c :: cs) with
    | some rest => some rest
    | none => skipComment cs

/-! ### Inside brackets -/

/-- A run of digits in which single underscores may stand between digits; `afterDigit` tells
whether a digit came just before. -/
def digitRun (digit : Char → Bool) (afterDigit : Bool) : List Char → List Char × List Char
  | [] => ([], [])
  | c :: cs =>
    if digit c then
      let (ds, after) := digitRun digit true cs
      (c :: ds, after)
    else if c = '_' && afterDigit && cs.head?.any digit then digitRun digit false cs
    else ([], c :: cs)

/-- A run of digits in which single underscores may stand between digits. -/
def takeDigits (digit : Char → Bool) (cs : List Char) : List Char × List Char :=
  digitRun digit false cs

/-- An exponent at the front: its value, and what follows it. -/
def takeExponent? : List Char → Option (Int × List Char)
  | e :: cs =>
    if e = 'e' || e = 'E' then
      let (neg, body) := Number.takeSign cs
      let (ds, rest) := takeDigits Number.isDigit body
      if ds.isEmpty then none
      else
        let n : Int := Number.digitsValue ds
        some (if neg then -n else n, rest)
    else none
  | [] => none

/-- A number with a fraction or an exponent. -/
def takeFloat? (cs : List Char) : Option (Token × List Char) :=
  let (whole, rest) := takeDigits Number.isDigit cs
  if whole.isEmpty then none
  else
    let (fraction, afterFraction) :=
      match rest with
      | '.' :: r => takeDigits Number.isDigit r
      | _ => ([], rest)
    let afterFraction := if fraction.isEmpty then rest else afterFraction
    let value (e : Int) : Token :=
      .float (Double.ofDecimal false (Number.digitsValue (whole ++ fraction))
        (e - (fraction.length : Int)))
    match takeExponent? afterFraction with
    | some (e, after) => some (value e, after)
    | none => if fraction.isEmpty then none else some (value 0, afterFraction)

/-- The digits of a number in a base that a letter announces; an underscore may also follow the
letter. -/
def takeBased? (base : Nat) (cs : List Char) : Option (Int × List Char) :=
  let digit (c : Char) : Bool :=
    let n := c.toLower.toNat
    (48 ≤ n && n < 48 + min base 10) || (97 ≤ n && n < 87 + base)
  let value (c : Char) : Nat :=
    let n := c.toLower.toNat
    if n < 58 then n - 48 else n - 87
  let body :=
    match cs with
    | '_' :: r => r
    | r => r
  let (ds, rest) := takeDigits digit body
  if ds.isEmpty then none
  else some (((ds.foldl (fun n c => n * base + value c) 0 : Nat) : Int), rest)

/-- An integer: decimal without leading zeros, or in base two, eight or sixteen. -/
def takeInt? (cs : List Char) : Option (Int × List Char) :=
  match cs with
  | '0' :: b :: r =>
    let base := if b.toLower = 'b' then 2 else if b.toLower = 'o' then 8
      else if b.toLower = 'x' then 16 else 0
    match (if base = 0 then none else takeBased? base r) with
    | some found => some found
    | none => some (0, (takeDigits (· = '0') cs).2)
  | '0' :: [] => some (0, [])
  | c :: _ =>
    if Number.isDigit c then
      let (ds, rest) := takeDigits Text.isDecimal cs
      some (Number.digitsValue (ds.map Number.asciiForm), rest)
    else none
  | [] => none

/-- The characters of a string literal up to its closing quote, and what follows it. -/
def takeQuoted (quote : Char) : List Char → Option (List Char × List Char)
  | [] => none
  | '\\' :: c :: cs => (takeQuoted quote cs).map fun (s, rest) => ('\\' :: c :: s, rest)
  | c :: cs =>
    if c = quote then some ([], cs)
    else if c = '\\' then none
    else (takeQuoted quote cs).map fun (s, rest) => (c :: s, rest)

/-- The value of a hexadecimal digit. -/
def hexValue? (c : Char) : Option Nat :=
  let n := c.toLower.toNat
  if 48 ≤ n ∧ n ≤ 57 then some (n - 48) else if 97 ≤ n ∧ n ≤ 102 then some (n - 87) else none

/-- The number that so many hexadecimal digits denote, and what follows them. -/
def takeHex? : Nat → Nat → List Char → Option (Nat × List Char)
  | 0, acc, cs => some (acc, cs)
  | k + 1, acc, c :: cs => (hexValue? c).bind fun d => takeHex? k (acc * 16 + d) cs
  | _ + 1, _, [] => none

/-- Up to two further octal digits. -/
def takeOctal : Nat → Nat → List Char → Nat × List Char
  | 0, acc, cs => (acc, cs)
  | k + 1, acc, c :: cs =>
    if '0' ≤ c && c ≤ '7' then takeOctal k (acc * 8 + (c.toNat - 48)) cs else (acc, c :: cs)
  | _ + 1, acc, [] => (acc, [])

/-- The character of a one-letter escape. -/
def shortEscape? : Char → Option Char
  | '\\' => some '\\'
  | '\'' => some '\''
  | '"' => some '"'
  | 'a' => some (Char.ofNat 7)
  | 'b' => some (Char.ofNat 8)
  | 'f' => some (Char.ofNat 12)
  | 'n' => some '\n'
  | 'r' => some '\r'
  | 't' => some '\t'
  | 'v' => some (Char.ofNat 11)
  | _ => none

/-- A character beyond ASCII written as an escape, others as they are. -/
def asciiEscape (c : Char) : List Char :=
  let n := c.toNat
  let digit (d : Nat) : Char := Char.ofNat (if d < 10 then 48 + d else 87 + d)
  let hex (width : Nat) : List Char :=
    (List.range width).reverse.map fun i => digit (n / Nat.pow 16 i % 16)
  if n < 128 then [c]
  else if n < 0x100 then '\\' :: 'x' :: hex 2
  else if n < 0x10000 then '\\' :: 'u' :: hex 4
  else '\\' :: 'U' :: hex 8

/-- The text that the ASCII characters of a literal denote; `fuel` bounds the number of escapes and
characters. Escapes that mean nothing stand for themselves; a numeric escape without enough digits
is an error. -/
def decodeEscapes : Nat → List Char → Option (List Char)
  | 0, _ => some []
  | _ + 1, [] => some []
  | fuel + 1, '\\' :: c :: cs =>
    let numeric (width : Nat) : Option (List Char) := do
      let (n, rest) ← takeHex? width 0 cs
      if n < 0x110000 then return Char.ofNat n :: (← decodeEscapes fuel rest) else none
    if c = 'x' then numeric 2
    else if c = 'u' then numeric 4
    else if c = 'U' then numeric 8
    else if c = 'N' then none
    else if c = '\n' then decodeEscapes fuel cs
    else if '0' ≤ c && c ≤ '7' then
      let (n, rest) := takeOctal 2 (c.toNat - 48) cs
      (decodeEscapes fuel rest).map (Char.ofNat n :: ·)
    else
      match shortEscape? c with
      | some e => (decodeEscapes fuel cs).map (e :: ·)
      | none => (decodeEscapes fuel cs).map fun r => '\\' :: c :: r
  | fuel + 1, c :: cs => if c = '\\' then none else (decodeEscapes fuel cs).map (c :: ·)

/-- The text that a string literal denotes. Characters beyond ASCII count as their escapes, so that
a backslash right before one is an escaped backslash. -/
def decodeString? (cs : List Char) : Option String :=
  let ascii := cs.flatMap asciiEscape
  (decodeEscapes (ascii.length + 1) ascii).map String.ofList

/-- An operator or punctuation mark, the longest that fits. -/
def takeSymbol? : List Char → Option (Symbol × List Char)
  | '/' :: '/' :: cs => some (.floorDiv, cs)
  | '*' :: '*' :: cs => some (.pow, cs)
  | '=' :: '=' :: cs => some (.eq, cs)
  | '!' :: '=' :: cs => some (.ne, cs)
  | '>' :: '=' :: cs => some (.ge, cs)
  | '<' :: '=' :: cs => some (.le, cs)
  | '+' :: cs => some (.add, cs)
  | '-' :: cs => some (.sub, cs)
  | '/' :: cs => some (.div, cs)
  | '*' :: cs => some (.mul, cs)
  | '%' :: cs => some (.mod, cs)
  | '~' :: cs => some (.tilde, cs)
  | '[' :: cs => some (.lbracket, cs)
  | ']' :: cs => some (.rbracket, cs)
  | '(' :: cs => some (.lparen, cs)
  | ')' :: cs => some (.rparen, cs)
  | '{' :: cs => some (.lbrace, cs)
  | '}' :: cs => some (.rbrace, cs)
  | '>' :: cs => some (.gt, cs)
  | '<' :: cs => some (.lt, cs)
  | '=' :: cs => some (.assign, cs)
  | '.' :: cs => some (.dot, cs)
  | ':' :: cs => some (.colon, cs)
  | '|' :: cs => some (.pipe, cs)
  | ',' :: cs => some (.comma, cs)
  | ';' :: cs => some (.semicolon, cs)
  | _ => none

/-- The mark that closes what a mark opens. -/
def closer? : Symbol → Option Symbol
  | .lparen => some .rparen
  | .lbracket => some .rbracket
  | .lbrace => some .rbrace
  | _ => none

/-- The open marks after one more mark; none if a closing mark does not match. -/
def balance? (open_ : List Symbol) (s : Symbol) : Option (List Symbol) :=
  match closer? s with
  | some c => some (c :: open_)
  | none =>
    if s = .rparen || s = .rbracket || s = .rbrace then
      match open_ with
      | c :: rest => if c = s then some rest else none
      | [] => none
    else some open_

/-- Whether a character may be part of a name-like word. -/
def isWordPart (c : Char) : Bool := Text.isWordChar c || Text.isIdentifierChar c

/-- A token other than punctuation: a number, a name or a string. A fraction is not read right after
a point. -/
def takeOperand? (afterDot : Bool) (cs : List Char) : Option (Option Token × List Char) :=
  match (if afterDot then none else takeFloat? cs) with
  | some (t, rest) => some (some t, rest)
  | none =>
    match takeInt? cs with
    | some (n, rest) =>
      let written := n.natAbs < Nat.pow 10 Number.maxIntDigits
      some (if written then some (.int n) else none, rest)
    | none =>
      match cs with
      | [] => none
      | c :: r =>
        if isWordPart c then
          let word := c :: r.takeWhile isWordPart
          some (if Text.isIdentifier word then some (.name (String.ofList word)) else none,
            r.dropWhile isWordPart)
        else if c = '\'' || c = '"' then
          (takeQuoted c r).map fun (s, rest) => ((decodeString? s).map .str, rest)
        else none

/-- Where the reading stands: in literal text, or in a bracket with these marks still to close. -/
inductive Place
  | outside
  | inPrint (open_ : List Symbol) (afterDot : Bool)
  | inTag (open_ : List Symbol) (afterDot : Bool)

/-- The tokens of the characters from a place on. Each step uses up a character, so the length of
the text is fuel enough. -/
def readFrom : Nat → Place → List Char → Option (List Token)
  | 0, _, _ => some []
  | fuel + 1, .outside, cs =>
    let (before, rest) := splitData cs
    let withData (trim : Bool) (ts : List Token) : List Token :=
      let before := if trim then Text.stripRight before else before
      if before.isEmpty then ts else .data (String.ofList before) :: ts
    match rest with
    | '{' :: '%' :: r =>
      let (trim, r) := takeTrim r
      match openRaw? r with
      | some [] => some (withData trim [])
      | some r => do
        let (raw, trimEnd, after) ← takeRaw r
        let raw := if trimEnd then Text.stripRight raw else raw
        let ts ← readFrom fuel .outside after
        let ts := if raw.isEmpty then ts else .data (String.ofList raw) :: ts
        return withData trim ts
      | none => do
        let ts ← readFrom fuel (.inTag [] false) r
        return withData trim (.tagBegin :: ts)
    | '{' :: '#' :: r => do
      let (trim, r) := takeTrim r
      if r.isEmpty then return withData trim []
      else
        let after ← skipComment r
        return withData trim (← readFrom fuel .outside after)
    | '{' :: '{' :: r => do
      let (trim, r) := takeTrim r
      let ts ← readFrom fuel (.inPrint [] false) r
      return withData trim (.printBegin :: ts)
    | _ => some (withData false [])
  | fuel + 1, place, cs =>
    let (isPrint, open_, afterDot) :=
      match place with
      | .inPrint o d => (true, o, d)
      | .inTag o d => (false, o, d)
      | .outside => (true, [], false)
    let stay (o : List Symbol) (d : Bool) : Place := if isPrint then .inPrint o d else .inTag o d
    let closed :=
      if open_.isEmpty then (if isPrint then closePrint? cs else closeTag? '%' cs) else none
    match closed with
    | some rest => do
      let ts ← readFrom fuel .outside rest
      return (if isPrint then .printEnd else .tagEnd) :: ts
    | none =>
      match cs with
      | [] => some []
      | c :: _ =>
        if Text.isBlank c then readFrom fuel (stay open_ false) (skipBlanks cs)
        else match takeOperand? afterDot cs with
          | some (some t, rest) => (readFrom fuel (stay open_ false) rest).map (t :: ·)
          | some (none, _) => none
          | none => do
            let (s, rest) ← takeSymbol? cs
            let open_ ← balance? open_ s
            let ts ← readFrom fuel (stay open_ (s = .dot)) rest
            return .sym s :: ts

/-- The tokens of a template. -/
def ofText? (s : String) : Option (List Token) :=
  let cs := unifyLines s.toList
  readFrom (cs.length + 2) .outside cs

end Token

end WizardLogic.Template
