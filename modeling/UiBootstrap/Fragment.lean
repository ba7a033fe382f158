import UiBootstrap.Listing
import UiBootstrap.Text.Lines
import UiBootstrap.Text.Blank

/-!
# The fragment

The body of a configuration object: one `key: value,` entry for each value listed. A key is quoted
unless it is made of ASCII letters and digits alone. Values are written as they are, between double
quotes if they are strings; a value that is empty and no string is `undefined`.
-/

namespace UiBootstrap

/-- Whether a character may stand in a key without quotes: an ASCII letter or digit. -/
def isPlainKeyChar (c : Char) : Bool := c.isAlphanum

/-- A key as it is written. -/
def keyText (key : Text) : Text :=
  if key.all isPlainKeyChar then key else '"' :: key ++ ['"']

/-- A value as it is written. -/
def Binding.literal (v : Binding) : Text :=
  if v.schema.isString then '"' :: v.value ++ ['"']
  else if v.value.isEmpty then "undefined"
  else v.value

/-- One entry of the object. -/
def Binding.line (key : Text) (v : Binding) : Text :=
  keyText key ++ ": " ++ v.literal ++ ","

/-- The entries of the object, in order. -/
def Listing.lines (listing : Listing) : List Text :=
  listing.entries.map fun (key, v) => v.line key

/-- The body of the object. -/
def Listing.fragment (listing : Listing) : Text :=
  Text.trim (Text.unlines listing.lines)

end UiBootstrap
