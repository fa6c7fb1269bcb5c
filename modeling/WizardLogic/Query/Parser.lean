import WizardLogic.Query.Expr
import WizardLogic.Query.Token

/-!
# The grammar of queries

Expressions are read by operator precedence. Every token has a **binding power**: an expression is
extended to the right as long as the next token binds more tightly than the context it stands in.
Tokens that bind less than `projectionStop` end the right side of a projection.

Two liberties belong to the language: the commas between the arguments of a call and between the
entries of an object may be left out, and a call may end in a comma.

The functions take the tokens that are left. Each call uses one unit of fuel; no more than a few
calls pass between one token and the next, so `parse?` starts with a multiple of their number.
-/

namespace WizardLogic.Query

/-- How tightly a token binds to the expression on its left. The end of the text binds least. -/
def bindingPower : Option Token → Nat
  | some .pipe => 1
  | some .or => 2
  | some .and => 3
  | some .eq | some .ne | some .lt | some .le | some .gt | some .ge => 5
  | some .flatten => 9
  | some .star => 20
  | some .filter => 21
  | some .dot => 40
  | some .not => 45
  | some .lbrace => 50
  | some .lbracket => 55
  | some .lparen => 60
  | _ => 0

/-- Tokens with a smaller binding power end the right side of a projection. -/
def projectionStop : Nat := 10

/-- The comparison that a token stands for. -/
def comparator? : Token → Option Comparator
  | .eq => some .eq
  | .ne => some .ne
  | .lt => some .lt
  | .le => some .le
  | .gt => some .gt
  | .ge => some .ge
  | _ => none

/-- A slice after its opening bracket, from the part numbered `index` on: its three parts and the
tokens after the closing bracket. -/
def parseSlice (index : Nat) (parts : Option Int × Option Int × Option Int) :
    List Token → Option (Expr × List Token)
  | .rbracket :: ts => some (.slice parts.1 parts.2.1 parts.2.2, ts)
  | .colon :: ts => if index < 2 then parseSlice (index + 1) parts ts else none
  | .number n :: ts =>
    let parts :=
      match index with
      | 0 => (some n, parts.2.1, parts.2.2)
      | 1 => (parts.1, some n, parts.2.2)
      | _ => (parts.1, parts.2.1, some n)
    parseSlice index parts ts
  | _ => none

/-- An index or a slice after its opening bracket. -/
def parseIndex : List Token → Option (Expr × List Token)
  | .colon :: ts => parseSlice 0 (none, none, none) (.colon :: ts)
  | .number n :: .colon :: ts => parseSlice 0 (none, none, none) (.number n :: .colon :: ts)
  | .number n :: .rbracket :: ts => some (.index n, ts)
  | _ => none

mutual

/-- An expression in a context of the given binding power. -/
def parseExpr : Nat → Nat → List Token → Option (Expr × List Token)
  | 0, _, _ => none
  | fuel + 1, power, ts => do
    let (left, ts) ← parseStart fuel ts
    parseRest fuel power left ts

/-- The part of an expression that needs nothing on its left. -/
def parseStart : Nat → List Token → Option (Expr × List Token)
  | 0, _ => none
  | fuel + 1, ts =>
    match ts with
    | .literal v :: ts => some (.literal v, ts)
    | .name s :: ts => some (.field s, ts)
    | .quotedName _ :: .lparen :: _ => none
    | .quotedName s :: ts => some (.field s, ts)
    | .current :: ts => some (.current, ts)
    | .star :: ts => do
      let (right, ts) ← parseProjected fuel 20 ts
      return (.valueProjection .current right, ts)
    | .filter :: ts => parseFilter fuel .current ts
    | .lbrace :: ts => do
      let (es, ts) ← parseEntries fuel ts
      return (.multiObject es, ts)
    | .lparen :: ts => do
      let (e, ts) ← parseExpr fuel 0 ts
      match ts with
      | .rparen :: ts => return (e, ts)
      | _ => none
    | .flatten :: ts => do
      let (right, ts) ← parseProjected fuel 9 ts
      return (.projection (.flatten .current) right, ts)
    | .not :: ts => do
      let (e, ts) ← parseExpr fuel 45 ts
      return (.not e, ts)
    | .ampersand :: ts => do
      let (e, ts) ← parseExpr fuel 0 ts
      return (.reference e, ts)
    | .lbracket :: .star :: .rbracket :: ts => do
      let (right, ts) ← parseProjected fuel 20 ts
      return (.projection .current right, ts)
    | .lbracket :: ts =>
      match ts with
      | .number _ :: _ | .colon :: _ => do
        let (e, ts) ← parseIndex ts
        projectSlice fuel .current e ts
      | _ => do
        let (items, ts) ← parseItems fuel ts
        return (.multiList items, ts)
    | _ => none

/-- The expression extended to the right by what binds more tightly than the context. -/
def parseRest : Nat → Nat → Expr → List Token → Option (Expr × List Token)
  | 0, _, _, _ => none
  | fuel + 1, power, left, ts =>
    if bindingPower ts.head? ≤ power then some (left, ts)
    else do
      let (left, ts) ← parseStep fuel left ts
      parseRest fuel power left ts

/-- One extension of an expression to the right. -/
def parseStep : Nat → Expr → List Token → Option (Expr × List Token)
  | 0, _, _ => none
  | fuel + 1, left, ts =>
    match ts with
    | .dot :: .star :: ts => do
      let (right, ts) ← parseProjected fuel 40 ts
      return (.valueProjection left right, ts)
    | .dot :: ts => do
      let (right, ts) ← parseMember fuel 40 ts
      return (.andThen left right, ts)
    | .pipe :: ts => do
      let (right, ts) ← parseExpr fuel 1 ts
      return (.andThen left right, ts)
    | .or :: ts => do
      let (right, ts) ← parseExpr fuel 2 ts
      return (.or left right, ts)
    | .and :: ts => do
      let (right, ts) ← parseExpr fuel 3 ts
      return (.and left right, ts)
    | .lparen :: ts =>
      match left with
      | .field name => do
        let (args, ts) ← parseArgs fuel ts
        return (.call name args, ts)
      | _ => none
    | .filter :: ts => parseFilter fuel left ts
    | .flatten :: ts => do
      let (right, ts) ← parseProjected fuel 9 ts
      return (.projection (.flatten left) right, ts)
    | .lbracket :: .star :: .rbracket :: ts => do
      let (right, ts) ← parseProjected fuel 20 ts
      return (.projection left right, ts)
    | .lbracket :: ts => do
      let (e, ts) ← parseIndex ts
      match left with
      | .indexed _ _ => return (.indexed left e, ts)
      | _ => projectSlice fuel left e ts
    | t :: ts => do
      let op ← comparator? t
      let (right, ts) ← parseExpr fuel 5 ts
      return (.comparison op left right, ts)
    | [] => none

/-- An index applied to an expression; a slice starts a projection. -/
def projectSlice : Nat → Expr → Expr → List Token → Option (Expr × List Token)
  | 0, _, _, _ => none
  | fuel + 1, left, e, ts =>
    match e with
    | .slice _ _ _ => do
      let (right, ts) ← parseProjected fuel 20 ts
      return (.projection (.indexed left e) right, ts)
    | _ => some (.indexed left e, ts)

/-- A filter after its opening bracket: the condition and the right side. -/
def parseFilter : Nat → Expr → List Token → Option (Expr × List Token)
  | 0, _, _ => none
  | fuel + 1, left, ts => do
    let (condition, ts) ← parseExpr fuel 0 ts
    match ts with
    | .rbracket :: .flatten :: ts =>
      return (.filterProjection left .current condition, .flatten :: ts)
    | .rbracket :: ts =>
      let (right, ts) ← parseProjected fuel 21 ts
      return (.filterProjection left right condition, ts)
    | _ => none

/-- The right side of a projection. -/
def parseProjected : Nat → Nat → List Token → Option (Expr × List Token)
  | 0, _, _ => none
  | fuel + 1, power, ts =>
    if bindingPower ts.head? < projectionStop then some (.current, ts)
    else match ts with
      | .lbracket :: _ | .filter :: _ => parseExpr fuel power ts
      | .dot :: ts => parseMember fuel power ts
      | _ => none

/-- What may follow a dot. -/
def parseMember : Nat → Nat → List Token → Option (Expr × List Token)
  | 0, _, _ => none
  | fuel + 1, power, ts =>
    match ts with
    | .name _ :: _ | .quotedName _ :: _ | .star :: _ => parseExpr fuel power ts
    | .lbracket :: ts => do
      let (items, ts) ← parseItems fuel ts
      return (.multiList items, ts)
    | .lbrace :: ts => do
      let (es, ts) ← parseEntries fuel ts
      return (.multiObject es, ts)
    | _ => none

/-- The expressions of a list up to and with its closing bracket. -/
def parseItems : Nat → List Token → Option (List Expr × List Token)
  | 0, _ => none
  | fuel + 1, ts => do
    let (e, ts) ← parseExpr fuel 0 ts
    match ts with
    | .rbracket :: ts => return ([e], ts)
    | .comma :: ts =>
      let (es, ts) ← parseItems fuel ts
      return (e :: es, ts)
    | _ => none

/-- The entries of an object up to and with its closing brace. -/
def parseEntries : Nat → List Token → Option (List (String × Expr) × List Token)
  | 0, _ => none
  | fuel + 1, ts => do
    let (k, ts) ← match ts with
      | .name k :: .colon :: ts => some (k, ts)
      | .quotedName k :: .colon :: ts => some (k, ts)
      | _ => none
    let (e, ts) ← parseExpr fuel 0 ts
    match ts with
    | .rbrace :: ts => return ([(k, e)], ts)
    | .comma :: ts =>
      let (es, ts) ← parseEntries fuel ts
      return ((k, e) :: es, ts)
    | _ =>
      let (es, ts) ← parseEntries fuel ts
      return ((k, e) :: es, ts)

/-- The arguments of a call up to and with its closing parenthesis. -/
def parseArgs : Nat → List Token → Option (List Expr × List Token)
  | 0, _ => none
  | fuel + 1, ts =>
    match ts with
    | .rparen :: ts => some ([], ts)
    | _ => do
      let (e, ts) ← parseExpr fuel 0 ts
      let ts := match ts with
        | .comma :: ts => ts
        | ts => ts
      let (es, ts) ← parseArgs fuel ts
      return (e :: es, ts)

end

/-- The expression that a text denotes. -/
def parse (s : String) : Except ParseFailure Expr := do
  let ts ← tokens s.toList
  match parseExpr (8 * ts.length + 8) 0 ts with
  | some (e, []) => .ok e
  | _ => .error .malformed

end WizardLogic.Query
