import PenaltySettlement.Text.Utf8
import PenaltySettlement.Url.DomainName.Label

/-!
# Domain names

The characters of a domain name count as what they stand for, composed, and its labels are written
in ASCII. A name is refused when it has a character that no name can hold, a label that is none, or
labels that run in different directions within themselves.

## Main definitions

* `DomainName.labels?` — the labels of a name.
* `DomainName.toAscii?` — the name as it stands in an address.
-/

set_option autoImplicit false

namespace PenaltySettlement.DomainName

/-- Whether an ASCII character has no place in a name. -/
def isForbidden (c : Char) : Bool :=
  c.toNat ≤ 0x20 || c.toNat == 0x7f || "#/:<>?@[\\]^|%".toList.contains c

/-- The labels of a name. -/
def labels? (name : List Char) : Option (List Label) := do
  let mapped ← name.mapM mapped?
  let labels ← ((Text.composed mapped.flatten).splitOn '.').mapM Label.read?
  let turns := labels.any fun label =>
    label.text.any fun c => turning.contains (Text.Direction.ofChar c)
  if turns ∧ !labels.all fun label => isDirected label.text then none else some labels

/-- **A name in ASCII.** The bytes are those of the host of an address, percent coding undone. -/
def toAscii? (bytes : List UInt8) : Option String := do
  let text ← Utf8.decode? bytes
  let labels ← labels? text.toList
  let name := List.intercalate ['.'] (labels.map (·.written))
  if name.any isForbidden then none else some (String.ofList name)

end PenaltySettlement.DomainName
