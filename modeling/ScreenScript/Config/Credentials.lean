import ScreenScript.Json.Field

/-!
# Credentials

The address of the vision service and the keys that requests to it carry.
-/

namespace ScreenScript

open Json

/-- The credentials for the vision service. -/
structure Credentials where
  /-- the address of the service -/
  url : Text := []
  /-- the key of the service -/
  apiKey : Text := []
  /-- the key of the client -/
  clientKey : Text := []
  deriving DecidableEq, Repr, Inhabited

namespace Credentials

/-- The credentials whose members these are. -/
def ofMembers (members : List (Text × Json)) : Checked Credentials :=
  Credentials.mk
    <$> field members ["lambda_url".toList] [] checkText
    <*> field members ["api_key".toList] [] checkText
    <*> field members ["client_key".toList] [] checkText

/-- The credentials that a text stands for. -/
def ofText (t : Text) : Checked Credentials := checkObject ofMembers t

/-- The members of credentials. -/
def toMembers (credentials : Credentials) : List (Text × Json) :=
  [("lambda_url".toList, .str credentials.url), ("api_key".toList, .str credentials.apiKey),
    ("client_key".toList, .str credentials.clientKey)]

end Credentials

end ScreenScript
