import UiBootstrap.Keyed

/-!
# TOML values

The values of a document once it has been read. Numbers with a fraction and dates are kept as they
are written, for nothing here computes with them.
-/

namespace UiBootstrap.Toml

/-- A value of a TOML document. -/
inductive Value where
  | string (t : Text)
  | boolean (b : Bool)
  | integer (n : Int)
  /-- A number with a fraction or an exponent, as written. -/
  | float (written : Text)
  /-- A date, a time or both, as written. -/
  | dateTime (written : Text)
  | array (items : List Value)
  | table (entries : List (Text × Value))

end UiBootstrap.Toml
