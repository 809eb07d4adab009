import Signoff.Fetch.Error
import Signoff.Network

namespace Signoff.Guard

/-! The guard lets a fetch connect to public addresses alone. It hands on the addresses that
it has checked, so that none is looked up a second time. -/

def isForbidden (endpoint : Endpoint) : Bool := endpoint.address.isForbidden

def approve (host : String) (endpoints : List Endpoint) :
    Except FetchError (List Endpoint) :=
  match endpoints with
  | [] => .error (.unresolved host "no addresses")
  | _ =>
    match endpoints.find? isForbidden with
    | some endpoint => .error (.forbidden host endpoint.address)
    | none => .ok endpoints

def withoutBrackets (host : String) : String :=
  String.ofList ((host.toList.dropWhile (· = '[')).reverse.dropWhile (· = ']')).reverse

def nulReason : String := "file name contained an unexpected NUL byte"

/-- The endpoints of a host, if they are all public. An address in the place of a name is
not looked up. -/
def resolve (network : Network) (host : String) (port : UInt16) (trace : Trace) :
    Except FetchError (List Endpoint) × Trace :=
  let bare := withoutBrackets host
  match Address.parse? bare with
  | some address => (approve host [⟨address, port⟩], trace)
  | none =>
    if '\x00' ∈ bare.toList then (.error (.unresolved host nulReason), trace)
    else
      match network.lookUp bare trace with
      | (.ok addresses, trace) => (approve host (addresses.map (⟨·, port⟩)), trace)
      | (.error reason, trace) => (.error (.unresolved host reason), trace)

end Signoff.Guard
