import WizardLogic.Template.Ast
import WizardLogic.Template.Token

/-!
# The grammar of templates

Expressions are read by descending through the levels of precedence: the conditional, `or`, `and`,
`not`, comparisons, sums, joined texts, products, powers, signs, and primaries with what may follow
them. Statements are read tag by tag; a tag with a body ends at one of its closing words.

Every function takes the tokens that are left and uses one unit of fuel for each call below it.
Between two tokens the descent is at most as deep as there are levels, so `parse?` starts with a
multiple of the number of tokens.
-/

namespace WizardLogic.Template

open Token (data printBegin printEnd tagBegin tagEnd)

/-- The binary operators of one level of precedence. -/
def sumOp? : Token → Option BinaryOp
  | .sym .add => some .add
  | .sym .sub => some .sub
  | _ => none

/-- The binary operators that bind like a product. -/
def productOp? : Token → Option BinaryOp
  | .sym .mul => some .mul
  | .sym .div => some .div
  | .sym .floorDiv => some .floorDiv
  | .sym .mod => some .mod
  | _ => none

/-- A comparison operator at the front, and what follows it. -/
def takeCompare? : List Token → Option (CompareOp × List Token)
  | .sym .eq :: ts => some (.eq, ts)
  | .sym .ne :: ts => some (.ne, ts)
  | .sym .lt :: ts => some (.lt, ts)
  | .sym .le :: ts => some (.le, ts)
  | .sym .gt :: ts => some (.gt, ts)
  | .sym .ge :: ts => some (.ge, ts)
  | .name "in" :: ts => some (.isIn, ts)
  | .name "not" :: .name "in" :: ts => some (.notIn, ts)
  | _ => none

/-- The constant that a reserved name stands for. -/
def constant? (name : String) : Option Const :=
  if name = "true" ∨ name = "True" then some (.bool true)
  else if name = "false" ∨ name = "False" then some (.bool false)
  else if name = "none" ∨ name = "None" then some .none
  else none

/-- Adjacent string literals make one string. -/
def takeStrings : List Token → String × List Token
  | .str s :: ts =>
    let (more, rest) := takeStrings ts
    (s ++ more, rest)
  | ts => ("", ts)

/-- Further parts of a dotted name. -/
def takeDotted (acc : String) : List Token → String × List Token
  | .sym .dot :: .name s :: ts => takeDotted (acc ++ "." ++ s) ts
  | ts => (acc, ts)

/-- Whether a tuple without parentheses ends here: at a closing bracket or at one of the words. -/
def endsTuple (words : List String) : List Token → Bool
  | .printEnd :: _ | .tagEnd :: _ | .sym .rparen :: _ => true
  | .name s :: _ => words.contains s
  | _ => false

/-- Whether the argument of a test may start here without parentheses. -/
def startsTestArgument : List Token → Bool
  | .name s :: _ => s != "else" && s != "or" && s != "and"
  | .str _ :: _ | .int _ :: _ | .float _ :: _ => true
  | .sym .lparen :: _ | .sym .lbracket :: _ | .sym .lbrace :: _ => true
  | _ => false

/-- Whether an argument may follow: after a spread of entries none does, after a spread of elements
or a named argument no positional one. -/
def allowsArg (before : List (ArgKind × Expr)) : ArgKind → Bool
  | .positional => before.all fun a => a.1 = .positional
  | .named _ => before.all fun a => a.1 != .spreadNamed
  | .spread => before.all fun a => a.1 != .spread && a.1 != .spreadNamed
  | .spreadNamed => before.all fun a => a.1 != .spreadNamed

/-- The constant none, which stands for an absent bound. -/
def noBound : Expr := .const .none

mutual

/-- An expression, with its conditional if it is allowed one. -/
def parseExpr : Nat → Bool → List Token → Option (Expr × List Token)
  | 0, _, _ => none
  | fuel + 1, conditional, ts => do
    let (e, ts) ← parseOr fuel ts
    if conditional then parseCond fuel e ts else return (e, ts)

/-- The conditionals after an expression. -/
def parseCond : Nat → Expr → List Token → Option (Expr × List Token)
  | 0, _, _ => none
  | fuel + 1, yes, ts =>
    match ts with
    | .name "if" :: ts => do
      let (condition, ts) ← parseOr fuel ts
      match ts with
      | .name "else" :: ts =>
        let (no, ts) ← parseExpr fuel true ts
        parseCond fuel (.cond condition yes (some no)) ts
      | ts => parseCond fuel (.cond condition yes none) ts
    | ts => some (yes, ts)

/-- Alternatives. -/
def parseOr : Nat → List Token → Option (Expr × List Token)
  | 0, _ => none
  | fuel + 1, ts => do
    let (e, ts) ← parseAnd fuel ts
    parseOrRest fuel e ts

/-- Further alternatives. -/
def parseOrRest : Nat → Expr → List Token → Option (Expr × List Token)
  | 0, _, _ => none
  | fuel + 1, left, ts =>
    match ts with
    | .name "or" :: ts => do
      let (right, ts) ← parseAnd fuel ts
      parseOrRest fuel (.or left right) ts
    | ts => some (left, ts)

/-- Conjunctions. -/
def parseAnd : Nat → List Token → Option (Expr × List Token)
  | 0, _ => none
  | fuel + 1, ts => do
    let (e, ts) ← parseNot fuel ts
    parseAndRest fuel e ts

/-- Further conjuncts. -/
def parseAndRest : Nat → Expr → List Token → Option (Expr × List Token)
  | 0, _, _ => none
  | fuel + 1, left, ts =>
    match ts with
    | .name "and" :: ts => do
      let (right, ts) ← parseNot fuel ts
      parseAndRest fuel (.and left right) ts
    | ts => some (left, ts)

/-- Negations. -/
def parseNot : Nat → List Token → Option (Expr × List Token)
  | 0, _ => none
  | fuel + 1, ts =>
    match ts with
    | .name "not" :: ts => do
      let (e, ts) ← parseNot fuel ts
      return (.not e, ts)
    | ts => parseCompare fuel ts

/-- Chains of comparisons. -/
def parseCompare : Nat → List Token → Option (Expr × List Token)
  | 0, _ => none
  | fuel + 1, ts => do
    let (e, ts) ← parseSum fuel ts
    let (rest, ts) ← parseCompareRest fuel ts
    return (if rest.isEmpty then e else .compare e rest, ts)

/-- Further comparisons of a chain. -/
def parseCompareRest : Nat → List Token → Option (List (CompareOp × Expr) × List Token)
  | 0, _ => none
  | fuel + 1, ts =>
    match takeCompare? ts with
    | some (op, ts) => do
      let (e, ts) ← parseSum fuel ts
      let (rest, ts) ← parseCompareRest fuel ts
      return ((op, e) :: rest, ts)
    | none => some ([], ts)

/-- Sums and differences. -/
def parseSum : Nat → List Token → Option (Expr × List Token)
  | 0, _ => none
  | fuel + 1, ts => do
    let (e, ts) ← parseConcat fuel ts
    parseSumRest fuel e ts

/-- Further terms. -/
def parseSumRest : Nat → Expr → List Token → Option (Expr × List Token)
  | 0, _, _ => none
  | fuel + 1, left, ts =>
    match ts with
    | [] => some (left, [])
    | t :: rest =>
      match sumOp? t with
      | some op => do
        let (right, rest) ← parseConcat fuel rest
        parseSumRest fuel (.binary op left right) rest
      | none => some (left, ts)

/-- Joined texts. -/
def parseConcat : Nat → List Token → Option (Expr × List Token)
  | 0, _ => none
  | fuel + 1, ts => do
    let (e, ts) ← parseProduct fuel ts
    let (rest, ts) ← parseConcatRest fuel ts
    return (if rest.isEmpty then e else .concat (e :: rest), ts)

/-- Further parts of a joined text. -/
def parseConcatRest : Nat → List Token → Option (List Expr × List Token)
  | 0, _ => none
  | fuel + 1, ts =>
    match ts with
    | .sym .tilde :: ts => do
      let (e, ts) ← parseProduct fuel ts
      let (rest, ts) ← parseConcatRest fuel ts
      return (e :: rest, ts)
    | ts => some ([], ts)

/-- Products and quotients. -/
def parseProduct : Nat → List Token → Option (Expr × List Token)
  | 0, _ => none
  | fuel + 1, ts => do
    let (e, ts) ← parsePower fuel ts
    parseProductRest fuel e ts

/-- Further factors. -/
def parseProductRest : Nat → Expr → List Token → Option (Expr × List Token)
  | 0, _, _ => none
  | fuel + 1, left, ts =>
    match ts with
    | [] => some (left, [])
    | t :: rest =>
      match productOp? t with
      | some op => do
        let (right, rest) ← parsePower fuel rest
        parseProductRest fuel (.binary op left right) rest
      | none => some (left, ts)

/-- Powers, grouped from the left. -/
def parsePower : Nat → List Token → Option (Expr × List Token)
  | 0, _ => none
  | fuel + 1, ts => do
    let (e, ts) ← parseUnary fuel true ts
    parsePowerRest fuel e ts

/-- Further exponents. -/
def parsePowerRest : Nat → Expr → List Token → Option (Expr × List Token)
  | 0, _, _ => none
  | fuel + 1, left, ts =>
    match ts with
    | .sym .pow :: ts => do
      let (right, ts) ← parseUnary fuel true ts
      parsePowerRest fuel (.binary .pow left right) ts
    | ts => some (left, ts)

/-- Signs, primaries and what follows them; filters and tests apply to the signed expression. -/
def parseUnary : Nat → Bool → List Token → Option (Expr × List Token)
  | 0, _, _ => none
  | fuel + 1, filters, ts => do
    let (e, ts) ← match ts with
      | .sym .sub :: ts => do
        let (e, ts) ← parseUnary fuel false ts
        pure (.neg e, ts)
      | .sym .add :: ts => do
        let (e, ts) ← parseUnary fuel false ts
        pure (.pos e, ts)
      | ts => parsePrimary fuel ts
    let (e, ts) ← parsePostfix fuel e ts
    if filters then parseFilters fuel e ts else return (e, ts)

/-- Constants, names, parentheses and collections. -/
def parsePrimary : Nat → List Token → Option (Expr × List Token)
  | 0, _ => none
  | fuel + 1, ts =>
    match ts with
    | .name n :: ts =>
      match constant? n with
      | some c => some (.const c, ts)
      | none => some (.name n, ts)
    | .str s :: ts =>
      let (more, ts) := takeStrings ts
      some (.const (.str (s ++ more)), ts)
    | .int n :: ts => some (.const (.int n), ts)
    | .float d :: ts => some (.const (.float d), ts)
    | .sym .lparen :: ts => do
      let (e, ts) ← parseTuple fuel true true [] ts
      match ts with
      | .sym .rparen :: ts => return (e, ts)
      | _ => none
    | .sym .lbracket :: ts => do
      let (items, ts) ← parseItems fuel true ts
      return (.list items, ts)
    | .sym .lbrace :: ts => do
      let (entries, ts) ← parseEntries fuel true ts
      return (.dict entries, ts)
    | _ => none

/-- Expressions with commas between them. One expression without a comma is not a tuple; nothing at
all is one only between parentheses. -/
def parseTuple : Nat → Bool → Bool → List String → List Token → Option (Expr × List Token)
  | 0, _, _, _, _ => none
  | fuel + 1, conditional, inParens, words, ts =>
    if endsTuple words ts then (if inParens then some (.tuple [], ts) else none)
    else do
      let (e, ts) ← parseExpr fuel conditional ts
      match ts with
      | .sym .comma :: ts =>
        let (rest, ts) ← parseTupleRest fuel conditional words ts
        return (.tuple (e :: rest), ts)
      | ts => return (e, ts)

/-- The further expressions of a tuple, after a comma. -/
def parseTupleRest : Nat → Bool → List String → List Token → Option (List Expr × List Token)
  | 0, _, _, _ => none
  | fuel + 1, conditional, words, ts =>
    if endsTuple words ts then some ([], ts)
    else do
      let (e, ts) ← parseExpr fuel conditional ts
      match ts with
      | .sym .comma :: ts =>
        let (rest, ts) ← parseTupleRest fuel conditional words ts
        return (e :: rest, ts)
      | ts => return ([e], ts)

/-- The items of a list up to and with the closing bracket; a last comma is allowed. -/
def parseItems : Nat → Bool → List Token → Option (List Expr × List Token)
  | 0, _, _ => none
  | fuel + 1, first, ts =>
    match ts with
    | .sym .rbracket :: ts => some ([], ts)
    | ts => do
      let ts ← if first then some ts else match ts with
        | .sym .comma :: ts => some ts
        | _ => none
      match ts with
      | .sym .rbracket :: ts => if first then none else return ([], ts)
      | ts =>
        let (e, ts) ← parseExpr fuel true ts
        let (rest, ts) ← parseItems fuel false ts
        return (e :: rest, ts)

/-- The entries of an object up to and with the closing brace; a last comma is allowed. -/
def parseEntries : Nat → Bool → List Token → Option (List (Expr × Expr) × List Token)
  | 0, _, _ => none
  | fuel + 1, first, ts =>
    match ts with
    | .sym .rbrace :: ts => some ([], ts)
    | ts => do
      let ts ← if first then some ts else match ts with
        | .sym .comma :: ts => some ts
        | _ => none
      match ts with
      | .sym .rbrace :: ts => if first then none else return ([], ts)
      | ts =>
        let (k, ts) ← parseExpr fuel true ts
        match ts with
        | .sym .colon :: ts =>
          let (v, ts) ← parseExpr fuel true ts
          let (rest, ts) ← parseEntries fuel false ts
          return ((k, v) :: rest, ts)
        | _ => none

/-- Members, items and calls after an expression. -/
def parsePostfix : Nat → Expr → List Token → Option (Expr × List Token)
  | 0, _, _ => none
  | fuel + 1, e, ts =>
    match ts with
    | .sym .dot :: .name n :: ts => parsePostfix fuel (.attr e n) ts
    | .sym .dot :: .int n :: ts => parsePostfix fuel (.item e (.const (.int n))) ts
    | .sym .dot :: _ => none
    | .sym .lbracket :: ts => do
      let (e, ts) ← parseSubscript fuel e ts
      parsePostfix fuel e ts
    | .sym .lparen :: ts => do
      let (args, ts) ← parseArgs fuel [] ts
      parsePostfix fuel (.call e args) ts
    | ts => some (e, ts)

/-- Filters, tests and calls after an expression. -/
def parseFilters : Nat → Expr → List Token → Option (Expr × List Token)
  | 0, _, _ => none
  | fuel + 1, e, ts =>
    match ts with
    | .sym .pipe :: ts => do
      let ((name, args), ts) ← parseFilterCall fuel ts
      parseFilters fuel (.filter e name args) ts
    | .name "is" :: ts => do
      let (e, ts) ← parseTest fuel e ts
      parseFilters fuel e ts
    | .sym .lparen :: ts => do
      let (args, ts) ← parseArgs fuel [] ts
      parseFilters fuel (.call e args) ts
    | ts => some (e, ts)

/-- The name of a filter and its arguments. -/
def parseFilterCall : Nat → List Token → Option (FilterCall × List Token)
  | 0, _ => none
  | fuel + 1, ts =>
    match ts with
    | .name n :: ts => do
      let (name, ts) := takeDotted n ts
      match ts with
      | .sym .dot :: _ => none
      | .sym .lparen :: ts =>
        let (args, ts) ← parseArgs fuel [] ts
        return ((name, args), ts)
      | ts => return ((name, []), ts)
    | _ => none

/-- The name of a test, its argument and the negation in front of it. -/
def parseTest : Nat → Expr → List Token → Option (Expr × List Token)
  | 0, _, _ => none
  | fuel + 1, e, ts => do
    let (negated, ts) := match ts with
      | .name "not" :: ts => (true, ts)
      | ts => (false, ts)
    let finish (name : String) (args : List (ArgKind × Expr)) : Expr :=
      if negated then .not (.test e name args) else .test e name args
    match ts with
    | .name n :: ts =>
      let (name, ts) := takeDotted n ts
      match ts with
      | .sym .dot :: _ => none
      | .sym .lparen :: ts =>
        let (args, ts) ← parseArgs fuel [] ts
        return (finish name args, ts)
      | .name "is" :: _ => none
      | ts =>
        if startsTestArgument ts then do
          let (arg, ts) ← parsePrimary fuel ts
          let (arg, ts) ← parsePostfix fuel arg ts
          return (finish name [(.positional, arg)], ts)
        else return (finish name [], ts)
    | _ => none

/-- What stands in brackets after an expression, up to and with the closing bracket: one key or
slice, or several that make a tuple. -/
def parseSubscript : Nat → Expr → List Token → Option (Expr × List Token)
  | 0, _, _ => none
  | fuel + 1, e, ts =>
    match ts with
    | .sym .rbracket :: ts => some (.item e (.tuple []), ts)
    | ts => do
      let (keys, ts) ← parseKeys fuel ts
      match keys with
      | [.bounds a b c] => return (.slice e a b c, ts)
      | [key] => return (.item e key, ts)
      | keys => return (.item e (.tuple keys), ts)

/-- The keys in brackets, up to and with the closing bracket. -/
def parseKeys : Nat → List Token → Option (List Expr × List Token)
  | 0, _ => none
  | fuel + 1, ts => do
    let (key, ts) ← parseKey fuel ts
    match ts with
    | .sym .rbracket :: ts => return ([key], ts)
    | .sym .comma :: ts =>
      let (rest, ts) ← parseKeys fuel ts
      return (key :: rest, ts)
    | _ => none

/-- A key, or the bounds of a slice. -/
def parseKey : Nat → List Token → Option (Expr × List Token)
  | 0, _ => none
  | fuel + 1, ts =>
    match ts with
    | .sym .colon :: ts => parseBounds fuel noBound ts
    | ts => do
      let (key, ts) ← parseExpr fuel true ts
      match ts with
      | .sym .colon :: ts => parseBounds fuel key ts
      | ts => return (key, ts)

/-- The bounds of a slice after the first colon. -/
def parseBounds : Nat → Expr → List Token → Option (Expr × List Token)
  | 0, _, _ => none
  | fuel + 1, start, ts => do
    let (stop, ts) ← match ts with
      | .sym .colon :: _ | .sym .rbracket :: _ | .sym .comma :: _ => some (noBound, ts)
      | ts => parseExpr fuel true ts
    match ts with
    | .sym .colon :: ts =>
      match ts with
      | .sym .rbracket :: _ | .sym .comma :: _ => return (.bounds start stop noBound, ts)
      | ts =>
        let (step, ts) ← parseExpr fuel true ts
        return (.bounds start stop step, ts)
    | ts => return (.bounds start stop noBound, ts)

/-- The arguments of a call after those read so far, up to and with the closing parenthesis. -/
def parseArgs : Nat → List (ArgKind × Expr) → List Token →
    Option (List (ArgKind × Expr) × List Token)
  | 0, _, _ => none
  | fuel + 1, before, ts =>
    match ts with
    | .sym .rparen :: ts => some (before, ts)
    | ts => do
      let ts ← if before.isEmpty then some ts else match ts with
        | .sym .comma :: ts => some ts
        | _ => none
      match ts with
      | .sym .rparen :: ts => if before.isEmpty then none else return (before, ts)
      | ts =>
        let (kind, ts) := match ts with
          | .sym .mul :: ts => (ArgKind.spread, ts)
          | .sym .pow :: ts => (ArgKind.spreadNamed, ts)
          | .name n :: .sym .assign :: ts => (ArgKind.named n, ts)
          | ts => (ArgKind.positional, ts)
        if !allowsArg before kind then none
        else
          let (e, ts) ← parseExpr fuel true ts
          parseArgs fuel (before ++ [(kind, e)]) ts

end

/-! ### Statements -/

/-- Whether a name may be assigned to. -/
def isAssignable (name : String) : Bool := (constant? name).isNone

/-- What is assigned to, without commas outside of parentheses. -/
def parseTargetAtom : Nat → List Token → Option (Target × List Token)
  | 0, _ => none
  | fuel + 1, ts =>
    match ts with
    | .name n :: ts => if isAssignable n then some (.name n, ts) else none
    | .sym .lparen :: ts => do
      let rec items : Nat → List Token → Option (List Target × Bool × List Token)
        | 0, _ => none
        | k + 1, ts =>
          match ts with
          | .sym .rparen :: ts => some ([], true, ts)
          | ts => do
            let (t, ts) ← parseTargetAtom fuel ts
            match ts with
            | .sym .rparen :: ts => return ([t], false, ts)
            | .sym .comma :: ts =>
              let (rest, _, ts) ← items k ts
              return (t :: rest, true, ts)
            | _ => none
      let (targets, isTuple, ts) ← items (ts.length + 1) ts
      match targets, isTuple with
      | [t], false => return (t, ts)
      | targets, _ => return (.tuple targets, ts)
    | _ => none

/-- The further targets of a tuple without parentheses, after a comma. -/
def parseTargetRest : Nat → List String → List Token → Option (List Target × List Token)
  | 0, _, _ => none
  | fuel + 1, words, ts =>
    if endsTuple words ts then some ([], ts)
    else do
      let (t, ts) ← parseTargetAtom (ts.length + 1) ts
      match ts with
      | .sym .comma :: ts =>
        let (rest, ts) ← parseTargetRest fuel words ts
        return (t :: rest, ts)
      | ts => return ([t], ts)

/-- What is assigned to, ending at one of the words if it is a tuple. -/
def parseTarget (words : List String) (ts : List Token) : Option (Target × List Token) :=
  if endsTuple words ts then none
  else do
    let (t, ts) ← parseTargetAtom (ts.length + 1) ts
    match ts with
    | .sym .comma :: ts =>
      let (rest, ts) ← parseTargetRest (ts.length + 1) words ts
      return (.tuple (t :: rest), ts)
    | ts => return (t, ts)

/-- What one value is assigned to by a set tag: also a member of a namespace object. -/
def parseSetAtom (ts : List Token) : Option (Target × List Token) :=
  match ts with
  | .name s :: .sym .dot :: rest =>
    match rest with
    | .name n :: ts => if isAssignable s then some (.member s n, ts) else none
    | _ => none
  | ts => parseTargetAtom (ts.length + 1) ts

/-- The further targets of a set tag, after a comma. -/
def parseSetRest : Nat → List Token → Option (List Target × List Token)
  | 0, _ => none
  | fuel + 1, ts =>
    if endsTuple [] ts then some ([], ts)
    else do
      let (t, ts) ← parseSetAtom ts
      match ts with
      | .sym .comma :: ts =>
        let (rest, ts) ← parseSetRest fuel ts
        return (t :: rest, ts)
      | ts => return ([t], ts)

/-- What values are assigned to by a set tag. -/
def parseSetTarget (ts : List Token) : Option (Target × List Token) :=
  if endsTuple [] ts then none
  else do
    let (t, ts) ← parseSetAtom ts
    match ts with
    | .sym .comma :: ts =>
      let (rest, ts) ← parseSetRest (ts.length + 1) ts
      return (.tuple (t :: rest), ts)
    | ts => return (t, ts)

/-- The fuel for reading an expression from these tokens. -/
def exprFuel (ts : List Token) : Nat := 24 * ts.length + 24

/-- An expression with its conditional. -/
def parseFull (ts : List Token) : Option (Expr × List Token) := parseExpr (exprFuel ts) true ts

/-- The parameters of a definition after its opening parenthesis; once one has a default, all that
follow need one. -/
def parseParams : Nat → Bool → Bool → List Token →
    Option (List (String × Option Expr) × List Token)
  | 0, _, _, _ => none
  | fuel + 1, first, defaults, ts =>
    match ts with
    | .sym .rparen :: ts => some ([], ts)
    | ts => do
      let ts ← if first then some ts else match ts with
        | .sym .comma :: ts => some ts
        | _ => none
      match ts with
      | .name n :: .sym .assign :: ts =>
        if !isAssignable n then none
        else
          let (e, ts) ← parseFull ts
          let (rest, ts) ← parseParams fuel false true ts
          return ((n, some e) :: rest, ts)
      | .name n :: ts =>
        if defaults || !isAssignable n then none
        else
          let (rest, ts) ← parseParams fuel false false ts
          return ((n, none) :: rest, ts)
      | _ => none

/-- The bindings of a scope up to the end of its tag. -/
def parseBindings : Nat → Bool → List Token → Option (List (Target × Expr) × List Token)
  | 0, _, _ => none
  | fuel + 1, first, ts =>
    match ts with
    | .tagEnd :: _ => some ([], ts)
    | ts => do
      let ts ← if first then some ts else match ts with
        | .sym .comma :: ts => some ts
        | _ => none
      let (t, ts) ← parseTarget [] ts
      match ts with
      | .sym .assign :: ts =>
        let (e, ts) ← parseFull ts
        let (rest, ts) ← parseBindings fuel false ts
        return ((t, e) :: rest, ts)
      | _ => none

/-- The filters of a captured text: the first after its bar, or at once. -/
def parseFilterChain : Nat → Bool → List Token → Option (List FilterCall × List Token)
  | 0, _, _ => none
  | fuel + 1, atOnce, ts =>
    match atOnce, ts with
    | true, ts => do
      let (f, ts) ← parseFilterCall (exprFuel ts) ts
      let (rest, ts) ← parseFilterChain fuel false ts
      return (f :: rest, ts)
    | false, .sym .pipe :: ts => do
      let (f, ts) ← parseFilterCall (exprFuel ts) ts
      let (rest, ts) ← parseFilterChain fuel false ts
      return (f :: rest, ts)
    | false, ts => some ([], ts)

/-- Expressions with commas between them up to the end of the tag. -/
def parsePrintList : Nat → Bool → List Token → Option (List Expr × List Token)
  | 0, _, _ => none
  | fuel + 1, first, ts =>
    match ts with
    | .tagEnd :: _ => some ([], ts)
    | ts => do
      let ts ← if first then some ts else match ts with
        | .sym .comma :: ts => some ts
        | _ => none
      let (e, ts) ← parseFull ts
      let (rest, ts) ← parsePrintList fuel false ts
      return (e :: rest, ts)

/-- What may follow the name of another template: how its names are shared. -/
def skipSharing : List Token → List Token
  | .name "with" :: .name "context" :: ts => ts
  | .name "without" :: .name "context" :: ts => ts
  | ts => ts

/-- The end of the names taken from another template, if how they are shared is told. -/
def endsSharing? : List Token → Option (List Token)
  | .name "with" :: .name "context" :: ts => some ts
  | .name "without" :: .name "context" :: ts => some ts
  | _ => none

/-- A name taken from another template, under which name, and what follows it. -/
def takeImported? : List Token → Option (String × List Token)
  | .name n :: .name "as" :: .name m :: ts =>
    if n.startsWith "_" || !isAssignable n || !isAssignable m then none else some (m, ts)
  | .name n :: ts => if n.startsWith "_" || !isAssignable n then none else some (n, ts)
  | _ => none

/-- The names taken from another template. -/
def takeImports : Nat → List Token → Option (List String × List Token)
  | 0, _ => none
  | fuel + 1, ts =>
    match endsSharing? ts with
    | some ts => some ([], ts)
    | none => do
      let (n, ts) ← takeImported? ts
      match endsSharing? ts, ts with
      | some ts, _ => return ([n], ts)
      | none, .sym .comma :: ts =>
        let (rest, ts) ← takeImports fuel ts
        return (n :: rest, ts)
      | none, ts => return ([n], ts)

/-- Whether a body holds nothing but white space. -/
def isBlankBody : List Stmt → Bool
  | [] => true
  | .text s :: rest => s.toList.all Text.isBlank && isBlankBody rest
  | _ :: _ => false

/-- The end of a tag. -/
def closeTag : List Token → Option (List Token)
  | .tagEnd :: ts => some ts
  | _ => none

/-- The end of a tag that opens a body; a colon may stand before it. -/
def openBody : List Token → Option (List Token)
  | .sym .colon :: .tagEnd :: ts => some ts
  | .tagEnd :: ts => some ts
  | _ => none

mutual

/-- Statements up to a tag that starts with one of the words, or to the end of the template if
there are none; the word is left in front. -/
def parseBody : Nat → List String → List Token → Option (List Stmt × List Token)
  | 0, _, _ => none
  | fuel + 1, words, ts =>
    match ts with
    | [] => if words.isEmpty then some ([], []) else none
    | .data s :: ts => do
      let (rest, ts) ← parseBody fuel words ts
      return (.text s :: rest, ts)
    | .printBegin :: ts => do
      let (e, ts) ← parseTuple (exprFuel ts) true false [] ts
      match ts with
      | .printEnd :: ts =>
        let (rest, ts) ← parseBody fuel words ts
        return (.print e :: rest, ts)
      | _ => none
    | .tagBegin :: .name w :: ts =>
      if words.contains w then some ([], .name w :: ts)
      else do
        let (here, ts) ← parseTag fuel w ts
        let ts ← closeTag ts
        let (rest, ts) ← parseBody fuel words ts
        return (here ++ rest, ts)
    | _ => none

/-- A body after its opening tag, with its closing word. -/
def parseEnclosed : Nat → String → List Token → Option (List Stmt × List Token)
  | 0, _, _ => none
  | fuel + 1, word, ts => do
    let ts ← openBody ts
    let (body, ts) ← parseBody fuel [word] ts
    return (body, ts.drop 1)

/-- The branches of a condition from its first test on. -/
def parseBranches : Nat → List Token →
    Option (List (Expr × List Stmt) × List Stmt × List Token)
  | 0, _ => none
  | fuel + 1, ts => do
    let (condition, ts) ← parseTuple (exprFuel ts) false false [] ts
    let ts ← openBody ts
    let (body, ts) ← parseBody fuel ["elif", "else", "endif"] ts
    match ts with
    | .name "elif" :: ts =>
      let (branches, otherwise, ts) ← parseBranches fuel ts
      return ((condition, body) :: branches, otherwise, ts)
    | .name "else" :: ts =>
      let (otherwise, ts) ← parseEnclosed fuel "endif" ts
      return ([(condition, body)], otherwise, ts)
    | ts => return ([(condition, body)], [], ts.drop 1)

/-- A tag after its first word, up to but without the end of its last tag. -/
def parseTag : Nat → String → List Token → Option (List Stmt × List Token)
  | 0, _, _ => none
  | fuel + 1, word, ts =>
    match word with
    | "if" => do
      let (branches, otherwise, ts) ← parseBranches fuel ts
      return ([.branch branches otherwise], ts)
    | "for" => do
      let (target, ts) ← parseTarget ["in"] ts
      match ts with
      | .name "in" :: ts =>
        let (iter, ts) ← parseTuple (exprFuel ts) false false ["recursive"] ts
        let (test, ts) ← match ts with
          | .name "if" :: ts => do
            let (e, ts) ← parseFull ts
            pure (some e, ts)
          | ts => some (none, ts)
        let (recursive, ts) := match ts with
          | .name "recursive" :: ts => (true, ts)
          | ts => (false, ts)
        let ts ← openBody ts
        let (body, ts) ← parseBody fuel ["endfor", "else"] ts
        match ts with
        | .name "else" :: ts =>
          let (otherwise, ts) ← parseEnclosed fuel "endfor" ts
          return ([.loop target iter test recursive body otherwise], ts)
        | ts => return ([.loop target iter test recursive body []], ts.drop 1)
      | _ => none
    | "set" => do
      let (target, ts) ← parseSetTarget ts
      match ts with
      | .sym .assign :: ts =>
        let (e, ts) ← parseTuple (exprFuel ts) true false [] ts
        return ([.assign target e], ts)
      | ts =>
        let (filters, ts) ← parseFilterChain (ts.length + 1) false ts
        let (body, ts) ← parseEnclosed fuel "endset" ts
        return ([.assignBlock target filters body], ts)
    | "with" => do
      let (bindings, ts) ← parseBindings (ts.length + 1) true ts
      let (body, ts) ← parseEnclosed fuel "endwith" ts
      return ([.scope bindings body], ts)
    | "macro" =>
      match ts with
      | .name n :: .sym .lparen :: ts => do
        if !isAssignable n then none
        else
          let (params, ts) ← parseParams (ts.length + 1) true false ts
          let (body, ts) ← parseEnclosed fuel "endmacro" ts
          return ([.define n params body], ts)
      | _ => none
    | "call" => do
      let (params, ts) ← match ts with
        | .sym .lparen :: ts => parseParams (ts.length + 1) true false ts
        | ts => some ([], ts)
      let (e, ts) ← parseFull ts
      match e with
      | .call f args =>
        let (body, ts) ← parseEnclosed fuel "endcall" ts
        return ([.callWith params f args body], ts)
      | _ => none
    | "filter" => do
      let (filters, ts) ← parseFilterChain (ts.length + 1) true ts
      let (body, ts) ← parseEnclosed fuel "endfilter" ts
      return ([.filterBlock filters body], ts)
    | "print" => do
      let (es, ts) ← parsePrintList (ts.length + 1) true ts
      return (es.map .print, ts)
    | "block" =>
      match ts with
      | .name n :: ts => do
        let (inherits, ts) := match ts with
          | .name "scoped" :: ts => (true, ts)
          | ts => (false, ts)
        let (required, ts) := match ts with
          | .name "required" :: ts => (true, ts)
          | ts => (false, ts)
        let (body, ts) ← parseEnclosed fuel "endblock" ts
        let ts := match ts with
          | .name m :: rest => if m = n then rest else ts
          | ts => ts
        if required && !isBlankBody body then none
        else return ([.block n inherits required body], ts)
      | _ => none
    | "autoescape" => do
      let (e, ts) ← parseFull ts
      let (body, ts) ← parseEnclosed fuel "endautoescape" ts
      return ([.escaping e none body], ts)
    | "include" => do
      let (e, ts) ← parseFull ts
      let (mayMiss, ts) := match ts with
        | .name "ignore" :: .name "missing" :: ts => (true, ts)
        | ts => (false, ts)
      return ([.embed e mayMiss], skipSharing ts)
    | "extends" => do
      let (e, ts) ← parseFull ts
      return ([.extend e], ts)
    | "import" => do
      let (e, ts) ← parseFull ts
      match ts with
      | .name "as" :: .name n :: ts =>
        if isAssignable n then return ([.borrow e [n]], skipSharing ts) else none
      | _ => none
    | "from" => do
      let (e, ts) ← parseFull ts
      match ts with
      | .name "import" :: ts =>
        let (names, ts) ← takeImports (ts.length + 1) ts
        return ([.borrow e names], ts)
      | _ => none
    | _ => none

end

/-- The statements of a template, before the names in it are checked. -/
def parse? (s : String) : Option (List Stmt) := do
  let ts ← Token.ofText? s
  match ← parseBody (2 * ts.length + 8) [] ts with
  | (body, []) => return body
  | _ => none

end WizardLogic.Template
