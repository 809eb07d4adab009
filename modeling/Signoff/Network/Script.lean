import Signoff.Network

namespace Signoff

structure NetworkScript where
  /-- The answers to successive lookups of a name; the last is given again and again. -/
  answers : String → List (List Address)
  refuses : Endpoint → Bool
  pages : (url : String) → Reply

namespace NetworkScript

def unknownName : String :=
  "failed to lookup address information: Name or service not known"

def resolve (script : NetworkScript) (trace : Trace) (host : String) :
    Except String (List Address) :=
  let answers := script.answers host
  match answers[trace.lookups.count host]?.or answers.getLast? with
  | some addresses => .ok addresses
  | none => .error unknownName

def network (script : NetworkScript) : Network where
  resolve := script.resolve
  accepts := fun _ endpoint => !script.refuses endpoint
  secures := fun _ _ => false
  reply := fun _ url => script.pages url.text

end NetworkScript

end Signoff
