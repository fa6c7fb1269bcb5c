import WizardLogic.Yaml.Meaning

/-!
# YAML

`Yaml.read` is the value that a text writes in YAML 1.1, of the part that plain values need: one
document, the common tags, anchors and aliases. JSON texts are YAML, with differences: a number is
spelled with a point to be a floating-point number, and a key has to be followed by its colon
within `Yaml.keyReach` characters.
-/

namespace WizardLogic.Yaml

/-- **The value that a text writes.** -/
def read (text : String) : Except Failure Value := do
  let tokens ← Token.ofText? text.toList
  let node ← Node.ofTokens? tokens
  node.value

end WizardLogic.Yaml
