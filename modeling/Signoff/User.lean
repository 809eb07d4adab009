import Signoff.Json
import Signoff.Text.Blank

namespace Signoff

structure User where
  subject : String
  email : String
  name : String
deriving DecidableEq, Repr

namespace User

/-- A usable identity has a subject that is not blank and an address with an at sign. -/
def Valid (user : User) : Prop :=
  ¬ Text.Blank user.subject ∧ '@' ∈ user.email.toList

instance (user : User) : Decidable user.Valid :=
  inferInstanceAs (Decidable (_ ∧ _))

def toJson (user : User) : Json :=
  .object [("sub", .text user.subject), ("email", .text user.email), ("name", .text user.name)]

def fieldNames : List String := ["sub", "email", "name"]

def ofJson? (json : Json) : Option User := do
  let json := json.named fieldNames
  let subject ← json.required? "sub" Json.text?
  let email ← json.required? "email" Json.text?
  let name ← json.required? "name" Json.text?
  return { subject, email, name }

end User

end Signoff
