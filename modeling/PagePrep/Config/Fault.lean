/-!
# Faults of the configuration

Why a configuration cannot be read, used or written.
-/

set_option autoImplicit false

namespace PagePrep

/-- Why a configuration cannot be read, used or written. -/
inductive ConfigFault where
  /-- The folder that is to hold the pages is none. -/
  | rootNotFolder (root : String)
  /-- A file does not hold a configuration. -/
  | unreadable (path : String)
  /-- Something stands where a configuration is to be written. -/
  | alreadyThere (path : String)
  /-- A number is too large to be written. -/
  | outOfRange
  deriving DecidableEq, Repr

/-- The fault in words. Where a file does not hold a configuration, the reader's own account of the place
and the cause is left out: the message ends where it would begin. -/
def ConfigFault.message : ConfigFault → String
  | rootNotFolder root => "docs root " ++ root ++ " is not a directory"
  | unreadable path => "failed to parse " ++ path ++ ": TOML parse error"
  | alreadyThere path => path ++ " already exists, not overwriting"
  | outOfRange => "out-of-range value for u64 type"

end PagePrep
