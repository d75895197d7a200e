import ShoppingWeb.Lib.Utf16

/-!
# Exceptions of the services

The three kinds of exceptions the controllers tell apart, with their messages.
-/

namespace ShoppingWeb.Shared

open ShoppingWeb.Utf16

inductive ServiceException where
  /-- `IllegalArgumentException` -/
  | illegalArgument (message : JString)
  /-- `SecurityException` -/
  | security (message : JString)
  /-- Any other exception: a failed remote call, a failed query, a `null`. -/
  | runtime (message : JString)
  deriving DecidableEq, Repr

end ShoppingWeb.Shared
