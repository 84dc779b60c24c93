import ServiceCharter.Text.Alphanumeric.Tables

/-!
# Letters and digits

A character is alphanumeric if it is a letter or a number of some script. Marks that belong to
letters count as letters, and numbers need not be decimal digits.
-/

namespace ServiceCharter.Text

/-- Whether `c` is a letter or a number of some script. -/
def isAlphanumeric (c : Char) : Bool := alphanumericRanges.has c

end ServiceCharter.Text
