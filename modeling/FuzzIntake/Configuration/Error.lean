/-!
# Configuration errors
-/

namespace FuzzIntake

/-- Why a configuration was not accepted. -/
inductive ConfigurationError
  /-- A setting has a value it may not have. -/
  | invalid (key detail : String)
  /-- The configuration file cannot be read as text. -/
  | unreadable
  /-- The configuration file does not describe a configuration. -/
  | malformed
deriving DecidableEq, Repr

/-- The wording of an invalid setting. -/
def ConfigurationError.invalidMessage (key detail : String) : String :=
  "invalid value for " ++ key ++ ": " ++ detail

end FuzzIntake
