import WizardLogic.Number.Complex
import WizardLogic.Template.Percent
import WizardLogic.Template.TextMethod

/-!
# Operators

The operators of expressions. An operand that is undefined makes the result of arithmetic undefined,
numbers are added as numbers, and some operators join, repeat or fill in texts and sequences.
-/

namespace WizardLogic.Template

open Render

/-! ### Numbers -/

/-- A number as a complex one. -/
def complexOf? (v : Val) : Except Failure (Option Complex) :=
  match v with
  | .complex z => .ok (some z)
  | v =>
    match v.number? with
    | some n => do return some (.ofDouble (← liftFault n.toDouble))
    | none => .ok none

/-- An operation on two numbers, or on two complex numbers if one of them is such. -/
def onNumbers (f : Number → Number → Except Fault Number)
    (g : Option (Complex → Complex → Except Fault Complex)) (a b : Val) : Except Failure Val := do
  match a.number?, b.number? with
  | some m, some n => return .ofNumber (← liftFault (f m n))
  | _, _ =>
    match g, ← complexOf? a, ← complexOf? b with
    | some g, some z, some w => return .complex (← liftFault (g z w))
    | _, _, _ => .error .invalid

/-- A power of two numbers. A negative number to a broken exponent is complex. -/
def powVals (a b : Val) : Except Failure Val := do
  match a.number?, b.number? with
  | some m, some n =>
    match m.pow n with
    | .ok r => return .ofNumber r
    | .error .wrongKind =>
      let x ← liftFault m.toDouble
      let y ← liftFault n.toDouble
      return .complex (← liftFault ((Complex.ofDouble x).pow (.ofDouble y)))
    | .error f => .error (.ofFault f)
  | _, _ => onNumbers Number.pow (some Complex.pow) a b

/-! ### Texts and sequences -/

/-- The sum of two values as the addition operator forms it: numbers, texts, or sequences of one
kind. Markup escapes what is added to it. -/
def addVals (a b : Val) : Render Val := do
  match a, b with
  | .markup s, .undefined => return .markup s
  | .undefined, _ => return .undefined
  | _, .undefined => return .undefined
  | .str s, .str t => return .str (s ++ t)
  | .markup s, .markup t => return .markup (s ++ t)
  | .markup s, .str t => return .markup (s ++ escapeText t)
  | .str s, .markup t => return .markup (escapeText s ++ t)
  | .bytes s, .bytes t => return .bytes (s ++ t)
  | .cell .list x, .cell .list y =>
    newList ((← listItems x).toList ++ (← listItems y).toList)
  | .tuple xs, .tuple ys => return .tuple (xs ++ ys)
  | .group k xs, .tuple ys => return .tuple (k :: xs :: ys)
  | .tuple xs, .group k ys => return .tuple (xs ++ [k, ys])
  | .group k xs, .group l ys => return .tuple [k, xs, l, ys]
  | a, b =>
    ofOutcome (onNumbers Number.add (some fun z w => .ok (z.add w)) a b)

/-- A sequence so many times over. -/
def repeatSequence (v times : Val) : Render Val := do
  let repeated {α : Type} (xs : List α) : Render (List α) := do
    let n ← ofOutcome (sizeOf times)
    return if xs.isEmpty then [] else (List.replicate n.toNat xs).flatten
  match v with
  | .str s => return .ofChars (← repeated s.toList)
  | .markup s => return .markup (String.ofList (← repeated s.toList))
  | .bytes bs => return .bytes (← repeated bs)
  | .cell .list id => newList (← repeated (← listItems id).toList)
  | .tuple xs => return .tuple (← repeated xs)
  | .group k xs => return .tuple (← repeated [k, xs])
  | _ => invalid

/-- Whether a value is a sequence that can be repeated. -/
def isRepeatable : Val → Bool
  | .str _ | .markup _ | .bytes _ | .tuple _ | .group _ _ | .cell .list _ => true
  | _ => false

/-- The product of two values: numbers, or a sequence and a number of times. -/
def mulVals (a b : Val) : Render Val :=
  if isRepeatable a then repeatSequence a b
  else if isRepeatable b then repeatSequence b a
  else ofOutcome (onNumbers Number.mul (some fun z w => .ok (z.mul w)) a b)

/-- Whether a value counts as a set in a difference. -/
def isSetLike : Val → Bool
  | .set _ | .view .keys _ | .view .items _ => true
  | _ => false

/-- The difference of two values: numbers, or the elements of the first that are not in the
second. -/
def subVals (p : Powers) (a b : Val) : Render Val := do
  let view (v : Val) : Bool := isSetLike v && !(match v with | .set _ => true | _ => false)
  if view a || view b || (isSetLike a && isSetLike b) then
    let xs ← elements p a
    let ys ← elements p b
    if Val.areHashable xs && Val.areHashable ys then
      let distinct := xs.foldl (fun acc x => if Val.holdsKey x acc then acc else acc ++ [x]) []
      return .set (distinct.filter fun x => !Val.holdsKey x ys)
    else invalid
  else ofOutcome (onNumbers Number.sub (some fun z w => .ok (z.sub w)) a b)

/-- The remainder of two values: a filled percent pattern, or that of two numbers. -/
def modVals (a b : Val) : Render Val :=
  match a, b with
  | .str _, b => percentVal a b
  | .markup _, b => percentVal a b
  | .undefined, _ => pure .undefined
  | _, .undefined => pure .undefined
  | a, b => ofOutcome (onNumbers Number.mod none a b)

/-- **The value of a binary operator.** -/
def applyBinary (p : Powers) (op : BinaryOp) (a b : Val) : Render Val :=
  match op, a, b with
  | .mod, a, b => modVals a b
  | .add, a, b => addVals a b
  | .mul, .markup _, .undefined => invalid
  | .sub, .view _ _, .undefined => subVals p a b
  | _, .undefined, _ => pure .undefined
  | _, _, .undefined => pure .undefined
  | .sub, a, b => subVals p a b
  | .mul, a, b => mulVals a b
  | .div, a, b => ofOutcome (onNumbers Number.div (some Complex.div) a b)
  | .floorDiv, a, b => ofOutcome (onNumbers Number.floorDiv none a b)
  | .pow, a, b => ofOutcome (powVals a b)

/-- A number with the opposite sign, or unchanged; undefined stays undefined. -/
def applySign (negate : Bool) (v : Val) : Except Failure Val :=
  match v with
  | .undefined => .ok .undefined
  | .complex z => .ok (.complex (if negate then z.neg else z))
  | v =>
    match v.number? with
    | some n => .ok (.ofNumber (if negate then n.neg else n))
    | none => invalid

/-! ### Comparisons -/

/-- Whether an iterator yields a value; it is used up to the first place where it does. `fuel`
bounds the number of elements. -/
def yields (p : Powers) (image : Image) (id : Nat) : Nat → Render Bool
  | 0 => pure false
  | fuel + 1 => do
    match ← p.next id with
    | none => return false
    | some x => do
      if (← look x).eq image then return true else yields p image id fuel

/-- Whether bytes occur in bytes. -/
def bytesOccur (needle : List UInt8) : List UInt8 → Bool
  | [] => needle.isEmpty
  | b :: bs => needle.isPrefixOf (b :: bs) || bytesOccur needle bs

/-- Whether a value is in a collection, or a text in a text. -/
def isIn (p : Powers) (v collection : Val) : Render Bool := do
  let asKey (keys : List Val) : Render Bool :=
    if v.isHashable then pure (Val.holdsKey v keys) else invalid
  match collection with
  | .str s | .markup s =>
    match v.text? with
    | some t => return Text.occurs t.toList s.toList
    | none => invalid
  | .bytes bs =>
    match v, v.int? with
    | .bytes cs, _ => return bytesOccur cs bs
    | _, some n =>
      if 0 ≤ n ∧ n < 256 then return bs.any fun b => (b.toNat : Int) = n else invalid
    | _, none => invalid
  | .cell .dict id | .view .keys id => asKey ((← dictEntries id).map Prod.fst)
  | .set xs => asKey xs
  | .view .items id =>
    match ← sequence? v, v with
    | _, .cell _ _ => return false
    | some [k, w], _ =>
      if !k.isHashable then invalid
      else match Val.lookup? k (← dictEntries id) with
        | some x => areEqual x w
        | none => return false
    | _, _ => return false
  | collection =>
    let image ← look v
    match ← held? collection with
    | some xs => return Image.holds (← lookAll xs) image
    | none =>
      match ← iterator? collection with
      | some id => yields p image id maxElements
      | none => invalid

/-- **A comparison of two values.** -/
def compareVals (p : Powers) (op : CompareOp) (a b : Val) : Render Bool :=
  match op with
  | .eq => areEqual a b
  | .ne => do return !(← areEqual a b)
  | .isIn => isIn p a b
  | .notIn => do return !(← isIn p a b)
  | op => compareOrder op a b

/-! ### Joining -/

/-- The texts of values joined. While printed values are escaped, markup among them makes the whole
markup. -/
def joinTexts (escapes : Bool) (vs : List Val) : Render Val := do
  let isMarkup (v : Val) : Bool := match v with
    | .markup _ => true
    | _ => false
  if escapes && vs.any isMarkup then
    let soft ← vs.mapM fun v => do
      if isMarkup v then return v else return .str (← textOf v)
    joinMarkup "" soft
  else
    let parts ← vs.mapM textOf
    return .str (String.join parts)

end WizardLogic.Template
