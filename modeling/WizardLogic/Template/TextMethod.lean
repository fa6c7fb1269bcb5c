import WizardLogic.Template.Access
import WizardLogic.Template.Markup
import WizardLogic.Template.Spec
import WizardLogic.Text.Case
import WizardLogic.Text.Identifier

/-!
# Functions of texts

The functions that a template may call on a text and that need nothing but their arguments. What a
function of markup makes of its text is markup again, and what it puts into it is escaped first.
-/

namespace WizardLogic.Template

open Render

/-! ### Arguments -/

/-- The characters of an argument that has to be text. -/
def charsOf (v : Val) : Except Failure (List Char) :=
  match v.text? with
  | some s => .ok s.toList
  | none => invalid

/-- An argument that has to be an integer. -/
def intOf (v : Val) : Except Failure Int :=
  match v.int? with
  | some n => .ok n
  | none => invalid

/-- An argument that has to be an integer with so many bits at most, the sign included. -/
def boundedInt (bits : Nat) (v : Val) : Except Failure Int := do
  let n ← intOf v
  let limit : Int := Nat.pow 2 (bits - 1)
  if -limit ≤ n ∧ n < limit then return n else .error (.fault .overflow)

/-- An argument that is a length or a number of times. -/
def sizeOf (v : Val) : Except Failure Int := boundedInt 64 v

/-- A limit on a number of cuts: negative ones mean none. -/
def limitOf (v : Val) : Except Failure (Option Nat) := do
  let n ← sizeOf v
  return if n < 0 then none else some n.toNat

/-- An argument by its place among the parameters, or a default. -/
def argument (bound : List (Option Val)) (i : Nat) (default : Val) : Val :=
  (bound.getD i none).getD default

/-! ### Parts -/

/-- A text without the white space, or the characters of an argument, at the chosen ends. -/
def stripWith (left right : Bool) (cs : List Char) (set : Option Val) :
    Except Failure (List Char) := do
  match set with
  | none | some .none =>
    let cs := if left then Text.stripLeft cs else cs
    return if right then Text.stripRight cs else cs
  | some v =>
    let set ← charsOf v
    let cs := if left then Text.dropSetLeft set cs else cs
    return if right then Text.dropSetRight set cs else cs

/-- The part of a text that positions given as optional arguments choose, and where it begins. There
is none if it would begin behind its end. -/
def portion? (cs : List Char) (start stop : Option Val) :
    Except Failure (Option (Nat × List Char)) := do
  let bound (v : Option Val) : Except Failure (Option Int) :=
    match v with
    | some v => sliceBound v
    | none => .ok none
  let first ← bound start
  let (a, b) := sliceBounds cs.length first (← bound stop) 1
  if b < a || first.any fun i => (cs.length : Int) < i then return none
  else return some (a.toNat, (cs.drop a.toNat).take (b - a).toNat)

/-- Whether a part of a text has one of the given texts at an end; those behind the first that fits
are not looked at. -/
def hasEnd (atStart : Bool) (part : Option (Nat × List Char)) (v : Val) : Except Failure Bool :=
  let fits (e : List Char) : Bool :=
    part.any fun (_, cs) => if atStart then e.isPrefixOf cs else e.isSuffixOf cs
  let rec anyFits : List Val → Except Failure Bool
    | [] => .ok false
    | x :: xs => do if fits (← charsOf x) then return true else anyFits xs
  match v with
  | .tuple xs => anyFits xs
  | .group k xs => anyFits [k, xs]
  | v => do return fits (← charsOf v)

/-- The position at which an argument occurs in a text. -/
def locate (last strict : Bool) (cs : List Char) (args : List Val) : Except Failure Val := do
  let needle ← charsOf (args.getD 0 .none)
  let found := (← portion? cs args[1]? args[2]?).bind fun (offset, part) =>
    (if last then Text.findLast? needle part else Text.find? needle part).map (offset + ·)
  match found with
  | some i => return .int i
  | none => if strict then .error .invalid else return .int (-1)

/-- The fill character of a padding function; for markup it is escaped first, and must still be one
character. -/
def fillOf (isMarkup : Bool) (v : Option Val) : Except Failure Char :=
  match v with
  | none => .ok ' '
  | some v => do
    let cs ← if isMarkup then
        match v with
        | .markup s => pure s.toList
        | .undefined => pure []
        | .int n => pure (Json.intChars n)
        | v => do pure (escapeChars (← charsOf v))
      else charsOf v
    match cs with
    | [c] => return c
    | _ => .error .invalid

/-! ### Forms -/

/-- Blanks put for the tabs of a text; `column` is the position in the line. -/
def expandTabs (size column : Nat) : List Char → List Char
  | [] => []
  | c :: cs =>
    if c = '\t' then
      let n := if size = 0 then 0 else size - column % size
      List.replicate n ' ' ++ expandTabs size (column + n) cs
    else c :: expandTabs size (if c = '\n' || c = '\r' then 0 else column + 1) cs

/-- A number filled with zeros after its sign. -/
def zeroFill (width : Nat) (cs : List Char) : List Char :=
  match cs with
  | '+' :: rest => '+' :: padLeft (width - 1) '0' rest
  | '-' :: rest => '-' :: padLeft (width - 1) '0' rest
  | cs => padLeft width '0' cs

/-- A text in the middle of a width; the odd fill character stands left of it if the width is
odd. -/
def centered (width : Nat) (fill : Char) (cs : List Char) : List Char :=
  let n := width - cs.length
  let left := n / 2 + (if n % 2 = 1 && width % 2 = 1 then 1 else 0)
  List.replicate left fill ++ cs ++ List.replicate (n - left) fill

/-- Whether a text has a letter with case, and all such letters pass. -/
def casedAll (ok : Char → Bool) (cs : List Char) : Bool :=
  cs.any Text.isCased && cs.all fun c => !Text.isCased c || ok c

/-- Whether upper case letters only start words and lower case letters only continue them. -/
def isTitleFrom (inWord seen : Bool) : List Char → Bool
  | [] => seen
  | c :: cs =>
    if Text.isUppercase c || Text.isTitlecase c then !inWord && isTitleFrom true true cs
    else if Text.isLowercase c then inWord && isTitleFrom true true cs
    else isTitleFrom false seen cs

/-! ### Answers and positions -/

/-- A question about a text that takes no arguments. -/
def textAnswer? (cs : List Char) (name : String) : Option Bool :=
  let allOf (ok : Char → Bool) : Bool := !cs.isEmpty && cs.all ok
  match name with
  | "isalnum" => some (allOf Text.isAlphanumeric)
  | "isalpha" => some (allOf Text.isLetter)
  | "isascii" => some (cs.all fun c => c.toNat < 128)
  | "isdecimal" => some (allOf Text.isDecimal)
  | "isdigit" => some (allOf Text.isDigitLike)
  | "isnumeric" => some (allOf Text.isNumeral)
  | "isidentifier" => some (Text.isIdentifier cs)
  | "islower" => some (casedAll Text.isLowercase cs)
  | "isupper" => some (casedAll Text.isUppercase cs)
  | "isprintable" => some (cs.all Text.isPrintable)
  | "isspace" => some (allOf Text.isBlank)
  | "istitle" => some (isTitleFrom false false cs)
  | _ => none

/-- A text in another form, without arguments. -/
def textForm? (cs : List Char) (name : String) : Option (List Char) :=
  match name with
  | "capitalize" => some (Text.capitalize cs)
  | "casefold" => some (Text.fold cs)
  | "lower" => some (Text.lower cs)
  | "upper" => some (Text.upper cs)
  | "title" => some (Text.title cs)
  | "swapcase" => some (Text.swapCaseFrom [] cs)
  | _ => none

/-! ### Cutting -/

/-- The pieces of a text between separators, or between runs of white space, cut from an end. -/
def pieces (fromEnd : Bool) (cs : List Char) (sep : Val) (limit : Option Nat) :
    Except Failure (List (List Char)) := do
  match sep with
  | .none =>
    if fromEnd then
      return ((Text.wordsUpTo (cs.length + 1) limit cs.reverse).map List.reverse).reverse
    else return Text.wordsUpTo (cs.length + 1) limit cs
  | sep =>
    let sep ← charsOf sep
    if sep.isEmpty then .error .invalid
    else return if fromEnd then Text.splitLast sep limit cs else Text.split sep limit cs

/-- What stands before a separator, the separator, and what follows it; the whole text stands at an
end if there is none. -/
def partitioned (last : Bool) (cs sep : List Char) : List (List Char) :=
  match (if last then Text.findLast? sep cs else Text.find? sep cs) with
  | some i => [cs.take i, sep, cs.drop (i + sep.length)]
  | none => if last then [[], [], cs] else [cs, [], []]

/-! ### Replacing characters -/

/-- The entries that a table of replacements is made of. -/
def replacementTable (args : List Val) : Except Failure (List (Val × Val)) := do
  let number (c : Char) : Val := .int (c.toNat : Nat)
  match args with
  | [a, b] | [a, b, _] =>
    let xs ← charsOf a
    let ys ← charsOf b
    let zs ← match args with
      | [_, _, c] => charsOf c
      | _ => pure []
    if xs.length != ys.length then .error .invalid
    else
      let put := (xs.zip ys).map fun (x, y) => (number x, number y)
      return Val.insertAll (put ++ zs.map fun z => (number z, Val.none)) []
  | _ => .error .invalid

/-- What stands for a character in a table of replacements. -/
def replacement (entry : Option Val) (c : Char) : Except Failure (List Char) :=
  match entry with
  | none => .ok [c]
  | some .none => .ok []
  | some v =>
    match v.text?, v.int? with
    | some s, _ => .ok s.toList
    | none, some n =>
      if 0 ≤ n ∧ n < 0x110000 then .ok [Char.ofNat n.toNat] else invalid
    | none, none => invalid

/-! ### The table -/

/-- A list of texts of the kind of another one. -/
def sameKind (isMarkup : Bool) (cs : List Char) : Val :=
  if isMarkup then .markup (String.ofList cs) else .ofChars cs

/-- A call of a text's function whose result is no list. -/
def callText (isMarkup : Bool) (cs : List Char) (name : String) (a : CallArgs) :
    Except Failure Val := do
  let args := a.positional
  let first := args.getD 0 .none
  let same (cs : List Char) : Val := sameKind isMarkup cs
  let arity (low high : Nat) : Except Failure Unit :=
    if a.named.isEmpty && low ≤ args.length && args.length ≤ high then .ok () else .error .invalid
  match textAnswer? cs name, textForm? cs name with
  | some answer, _ => do arity 0 0; return .bool answer
  | none, some cs => do arity 0 0; return same cs
  | none, none =>
  match name with
  | "strip" => do arity 0 1; return same (← stripWith true true cs args[0]?)
  | "lstrip" => do arity 0 1; return same (← stripWith true false cs args[0]?)
  | "rstrip" => do arity 0 1; return same (← stripWith false true cs args[0]?)
  | "startswith" => do
    arity 1 3
    return .bool (← hasEnd true (← portion? cs args[1]? args[2]?) first)
  | "endswith" => do
    arity 1 3
    return .bool (← hasEnd false (← portion? cs args[1]? args[2]?) first)
  | "removeprefix" => do
    arity 1 1
    let p ← charsOf first
    return same (if p.isPrefixOf cs then cs.drop p.length else cs)
  | "removesuffix" => do
    arity 1 1
    let p ← charsOf first
    return same (if p.isSuffixOf cs then cs.take (cs.length - p.length) else cs)
  | "find" => do arity 1 3; locate false false cs args
  | "index" => do arity 1 3; locate false true cs args
  | "rfind" => do arity 1 3; locate true false cs args
  | "rindex" => do arity 1 3; locate true true cs args
  | "count" => do
    arity 1 3
    let needle ← charsOf first
    let part ← portion? cs args[1]? args[2]?
    return .int ((part.map fun (_, cs) => Text.count needle cs).getD 0 : Nat)
  | "partition" | "rpartition" => do
    arity 1 1
    let sep ← charsOf first
    if sep.isEmpty then .error .invalid
    else return .tuple ((partitioned (name = "rpartition") cs sep).map same)
  | "center" => do
    arity 1 2
    return same (centered (← sizeOf first).toNat (← fillOf isMarkup args[1]?) cs)
  | "ljust" => do
    arity 1 2
    return same (padRight (← sizeOf first).toNat (← fillOf isMarkup args[1]?) cs)
  | "rjust" => do
    arity 1 2
    return same (padLeft (← sizeOf first).toNat (← fillOf isMarkup args[1]?) cs)
  | "zfill" => do
    arity 1 1
    return same (zeroFill (← sizeOf first).toNat cs)
  | "expandtabs" => do
    let bound ← a.bind ["tabsize"]
    let size ← boundedInt 32 (argument bound 0 (.int 8))
    return same (expandTabs size.toNat 0 cs)
  | _ => .error .invalid

/-- The pieces that a text's function cuts it into, if it is one that does. -/
def cutText? (cs : List Char) (name : String) (a : CallArgs) :
    Option (Except Failure (List (List Char))) :=
  let cut (fromEnd : Bool) : Except Failure (List (List Char)) := do
    let bound ← a.bind ["sep", "maxsplit"]
    let limit ← limitOf (argument bound 1 (.int (-1)))
    pieces fromEnd cs (argument bound 0 .none) limit
  match name with
  | "split" => some (cut false)
  | "rsplit" => some (cut true)
  | "splitlines" => some do
    let bound ← a.bind ["keepends"]
    let keep ← boundedInt 32 (argument bound 0 (.bool false))
    return Text.lines (keep != 0) cs
  | _ => none

/-! ### Bytes -/

/-- The encodings there are. -/
inductive Encoding
  | utf8 | ascii | latin
deriving DecidableEq

/-- The encoding of a name; case and separators do not count. -/
def Encoding.ofName? (s : String) : Option Encoding :=
  let key := String.ofList ((s.toList.map Char.toLower).filter fun c => c.isAlphanum)
  if ["utf8", "u8", "utf", "cp65001"].contains key then some .utf8
  else if ["ascii", "usascii", "646", "us"].contains key then some .ascii
  else if ["latin1", "latin", "iso88591", "l1", "8859", "cp819"].contains key then some .latin
  else none

/-- The bytes of a character in an encoding, if it has some. -/
def Encoding.bytes? (e : Encoding) (c : Char) : Option (List UInt8) :=
  let below (n : Nat) : Option (List UInt8) :=
    if c.toNat < n then some [UInt8.ofNat c.toNat] else none
  match e with
  | .utf8 => some (String.ofList [c]).toUTF8.toList
  | .ascii => below 128
  | .latin => below 256

/-- What stands for a character that an encoding does not have. -/
def unencodable (mode : String) (c : Char) : Except Failure (List UInt8) :=
  let ascii (cs : List Char) : Except Failure (List UInt8) :=
    .ok (cs.map fun c => UInt8.ofNat c.toNat)
  match mode with
  | "strict" => invalid
  | "ignore" => .ok []
  | "replace" => ascii ['?']
  | "xmlcharrefreplace" => ascii ('&' :: '#' :: Nat.toDigits 10 c.toNat ++ [';'])
  | "backslashreplace" => ascii (Text.codeEscape c)
  | _ => .error (.fault .noEncoding)

/-- The encoding that an argument names. -/
def encodingOf (v : Val) : Except Failure Encoding := do
  match Encoding.ofName? (String.ofList (← charsOf v)) with
  | some e => return e
  | none => .error (.fault .noEncoding)

/-- A text as bytes. -/
def encoded (cs : List Char) (a : CallArgs) : Except Failure Val := do
  let bound ← a.bind ["encoding", "errors"]
  let e ← encodingOf (argument bound 0 (.str "utf-8"))
  let mode := String.ofList (← charsOf (argument bound 1 (.str "strict")))
  let parts ← cs.mapM fun c =>
    match e.bytes? c with
    | some bs => .ok bs
    | none => unencodable mode c
  return .bytes parts.flatten

/-- Bytes as a text. -/
def decoded (bs : List UInt8) (a : CallArgs) : Except Failure Val := do
  let bound ← a.bind ["encoding", "errors"]
  match ← encodingOf (argument bound 0 (.str "utf-8")) with
  | .utf8 =>
    match String.fromUTF8? ⟨bs.toArray⟩ with
    | some s => return .str s
    | none => .error .invalid
  | .ascii =>
    if bs.all (· < 128) then return .ofChars (bs.map fun b => Char.ofNat b.toNat)
    else .error .invalid
  | .latin => return .ofChars (bs.map fun b => Char.ofNat b.toNat)

end WizardLogic.Template
