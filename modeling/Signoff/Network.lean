import Signoff.Network.Response
import Signoff.Url

namespace Signoff

/-! A network as a fetch meets it. What it answers may depend on all that has happened
before, so that names may change their addresses from one lookup to the next. -/

inductive NetworkEvent where
  | lookup (host : String)
  | connect (endpoint : Endpoint)
  | request (url : Url)
deriving DecidableEq

abbrev Trace := List NetworkEvent

namespace Trace

def lookups (trace : Trace) : List String :=
  trace.filterMap fun
    | .lookup host => some host
    | _ => none

def connects (trace : Trace) : List Endpoint :=
  trace.filterMap fun
    | .connect endpoint => some endpoint
    | _ => none

def requests (trace : Trace) : List Url :=
  trace.filterMap fun
    | .request url => some url
    | _ => none

end Trace

inductive Reply where
  | response (response : Response)
  /-- The connection is closed without an answer. -/
  | dropped
  /-- No answer ever comes. -/
  | silent

structure Network where
  resolve : Trace → (host : String) → Except String (List Address)
  accepts : Trace → Endpoint → Bool
  secures : Trace → Endpoint → Bool
  reply : Trace → Url → Reply

namespace Network

def lookUp (network : Network) (host : String) (trace : Trace) :
    Except String (List Address) × Trace :=
  (network.resolve trace host, trace ++ [.lookup host])

def connect (network : Network) : List Endpoint → Trace → Option Endpoint × Trace
  | [], trace => (none, trace)
  | endpoint :: rest, trace =>
    if network.accepts trace endpoint then (some endpoint, trace ++ [.connect endpoint])
    else network.connect rest (trace ++ [.connect endpoint])

def send (network : Network) (url : Url) (trace : Trace) : Reply × Trace :=
  (network.reply trace url, trace ++ [.request url])

end Network

end Signoff
