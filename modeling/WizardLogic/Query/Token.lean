import WizardLogic.Json.Reader
import WizardLogic.Number.Reading

/-!
# Tokens of query expressions

The characters of a query are cut into tokens. Unquoted names are made of ASCII letters, digits and
underscores; quoted names and literals between backquotes hold JSON, where a literal that is not
JSON is read once more as the inside of a JSON string; raw strings stand between single quotes.
-/

namespace WizardLogic.Query

/-- A token. The end of the expression is the end of the list of tokens. -/
inductive Token
  | name (s : String)
  | quotedName (s : String)
  | literal (v : Value)
  | number (n : Int)
  | dot | star | lbracket | rbracket | lbrace | rbrace | lparen | rparen
  | comma | colon | current | flatten | filter | pipe | or | and | ampersand | not
  | eq | ne | lt | le | gt | ge

/-- Why a query has no meaning. -/
inductive ParseFailure
  /-- It is not an expression of the language. -/
  | malformed
  /-- It holds an integer with too many digits. -/
  | hugeNumber
deriving DecidableEq, Repr

/-- Whether a character may start an unquoted name. -/
def isNameStart (c : Char) : Bool := c.isAlpha || c = '_'

/-- Whether a character may continue an unquoted name. -/
def isNameChar (c : Char) : Bool := c.isAlphanum || c = '_'

/-- White space between tokens. -/
def isSpace (c : Char) : Bool := c = ' ' || c = '\t' || c = '\n' || c = '\r'

/-- The characters up to a closing delimiter, with escapes left in, and what follows it. -/
def takeDelimited (delimiter : Char) : List Char → Option (List Char × List Char)
  | [] => none
  | '\\' :: [] => none
  | '\\' :: c :: rest =>
    (takeDelimited delimiter rest).map fun (cs, rest) => ('\\' :: c :: cs, rest)
  | c :: rest =>
    if c = delimiter then some ([], rest)
    else (takeDelimited delimiter rest).map fun (cs, rest) => (c :: cs, rest)

/-- The characters with every escaped delimiter replaced by the delimiter. -/
def unescape (delimiter : Char) : List Char → List Char
  | '\\' :: c :: rest =>
    if c = delimiter then c :: unescape delimiter rest else '\\' :: unescape delimiter (c :: rest)
  | c :: rest => c :: unescape delimiter rest
  | [] => []

/-- The value of the characters between backquotes: JSON, or else the inside of a JSON string,
white space at the start dropped. -/
def literalValue? (cs : List Char) : Option Value :=
  match Json.readChars? cs with
  | some v => some v
  | none => Json.readChars? ('"' :: (Text.stripLeft cs ++ ['"']))

/-- The text of the characters of a quoted name. -/
def quotedText? (cs : List Char) : Option String :=
  match Json.readChars? ('"' :: (cs ++ ['"'])) with
  | some (.str s) => some s
  | _ => none

/-- The number of decimal digits, if it is not too long. -/
def number? (neg : Bool) (digits : List Char) : Except ParseFailure Token :=
  if digits.length > Number.maxIntDigits then .error .hugeNumber
  else
    let n : Int := Number.digitsValue digits
    .ok (.number (if neg then -n else n))

/-- The first token of the characters, and what follows it; white space has been skipped. -/
def nextToken : List Char → Except ParseFailure (Token × List Char)
  | [] => .error .malformed
  | '.' :: r => .ok (.dot, r)
  | '*' :: r => .ok (.star, r)
  | ']' :: r => .ok (.rbracket, r)
  | ',' :: r => .ok (.comma, r)
  | ':' :: r => .ok (.colon, r)
  | '@' :: r => .ok (.current, r)
  | '(' :: r => .ok (.lparen, r)
  | ')' :: r => .ok (.rparen, r)
  | '{' :: r => .ok (.lbrace, r)
  | '}' :: r => .ok (.rbrace, r)
  | '[' :: ']' :: r => .ok (.flatten, r)
  | '[' :: '?' :: r => .ok (.filter, r)
  | '[' :: r => .ok (.lbracket, r)
  | '|' :: '|' :: r => .ok (.or, r)
  | '|' :: r => .ok (.pipe, r)
  | '&' :: '&' :: r => .ok (.and, r)
  | '&' :: r => .ok (.ampersand, r)
  | '<' :: '=' :: r => .ok (.le, r)
  | '<' :: r => .ok (.lt, r)
  | '>' :: '=' :: r => .ok (.ge, r)
  | '>' :: r => .ok (.gt, r)
  | '!' :: '=' :: r => .ok (.ne, r)
  | '!' :: r => .ok (.not, r)
  | '=' :: '=' :: r => .ok (.eq, r)
  | '\'' :: r =>
    match takeDelimited '\'' r with
    | some (cs, r) => .ok (.literal (.str (String.ofList (unescape '\'' cs))), r)
    | none => .error .malformed
  | '"' :: r =>
    match takeDelimited '"' r with
    | some (cs, r) => match quotedText? cs with
      | some s => .ok (.quotedName s, r)
      | none => .error .malformed
    | none => .error .malformed
  | '-' :: r =>
    let digits := r.takeWhile Number.isDigit
    if digits.isEmpty then .error .malformed
    else (number? true digits).map (·, r.dropWhile Number.isDigit)
  | c :: r =>
    if c.toNat = 96 then
      match takeDelimited c r with
      | some (cs, r) => match literalValue? (unescape c cs) with
        | some v => .ok (.literal v, r)
        | none => .error .malformed
      | none => .error .malformed
    else if isNameStart c then
      .ok (.name (String.ofList (c :: r.takeWhile isNameChar)), r.dropWhile isNameChar)
    else if Number.isDigit c then
      (number? false (c :: r.takeWhile Number.isDigit)).map (·, r.dropWhile Number.isDigit)
    else .error .malformed

/-- All tokens of the characters; every token uses up a character, so the length of the text is
fuel enough. -/
def tokensFrom : Nat → List Char → Except ParseFailure (List Token)
  | 0, _ => .ok []
  | fuel + 1, cs =>
    match cs.dropWhile isSpace with
    | [] => .ok []
    | cs => do
      let (t, rest) ← nextToken cs
      let ts ← tokensFrom fuel rest
      return t :: ts

/-- The tokens of a text. -/
def tokens (cs : List Char) : Except ParseFailure (List Token) := tokensFrom (cs.length + 1) cs

end WizardLogic.Query
