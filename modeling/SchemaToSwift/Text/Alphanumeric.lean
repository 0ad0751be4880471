import SchemaToSwift.Text.AlphanumericTable

/-!
# Letters and numbers

`isAlphanumeric` is the class of the letters and numbers of every script. Unlike an identifier, it
holds no marks and no connectors.
-/

namespace SchemaToSwift.Text

/-- A letter or a number. -/
def isAlphanumeric (c : Char) : Bool :=
  if c.toNat < 128 then c.isAlphanum else inRuns AlphanumericTable.runs c.toNat

end SchemaToSwift.Text
