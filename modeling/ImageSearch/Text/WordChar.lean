import ImageSearch.Text.Alphabetic
import ImageSearch.Text.Mark
import ImageSearch.Text.Numeral

set_option autoImplicit false

namespace ImageSearch.Text

def isAlphanumeric (c : Char) : Bool := isAlphabetic c || isNumeral c

/-- The alphabet of a bare word in a query. -/
def isBareWordChar (c : Char) : Bool := isAlphanumeric c || c == '_' || c == '-'

def connectorRanges : CharRanges :=
  [(0x5F, 0x5F), (0x203F, 0x2040), (0x2054, 0x2054), (0xFE33, 0xFE34), (0xFE4D, 0xFE4F),
   (0xFF3F, 0xFF3F)]

def isConnector (c : Char) : Bool := connectorRanges.has c.toNat

def isJoinControl (c : Char) : Bool := c == '\u200C' || c == '\u200D'

/-- Word characters in the sense of regular expressions over Unicode text. -/
def isWordChar (c : Char) : Bool :=
  isAlphabetic c || isMark c || isDecimalDigit c || isConnector c || isJoinControl c

end ImageSearch.Text
