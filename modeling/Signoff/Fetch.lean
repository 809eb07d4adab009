import Signoff.Fetch.Body
import Signoff.Fetch.Guard
import Signoff.Fetch.ServerName
import Signoff.Ledger.Integrity

namespace Signoff.Fetch

/-! Fetching a document to compute its checksum. Redirects are followed one by one, and each
address on the way passes the guard anew. -/

def longestAddress : Nat := 65534

def isSendable (host : Host) : Bool :=
  !host.text.toList.any ['"', '\x60', '\x7b', '\x7d'].contains

def canRequest (url : Url) : Bool :=
  url.text.utf8ByteSize ≤ longestAddress && isSendable url.host &&
    (url.scheme != .https || canSecure url.host)

def orNetwork {α : Type} : Except String α → Except FetchError α
  | .ok value => .ok value
  | .error _ => .error .network

def openEndpoints (network : Network) (url : Url) (trace : Trace) :
    Except FetchError (List Endpoint) × Trace :=
  match url.host with
  | .address address => (.ok [⟨address, url.port⟩], trace)
  | .name text =>
    let (addresses, trace) := network.lookUp text trace
    ((orNetwork addresses).map fun addresses => addresses.map (⟨·, url.port⟩), trace)

def endpoints (network : Network) (options : FetchOptions) (url : Url) (trace : Trace) :
    Except FetchError (List Endpoint) × Trace :=
  if options.skipGuard then
    if canRequest url then openEndpoints network url trace else (.error .network, trace)
  else
    match Guard.resolve network url.host.text url.port trace with
    | (.ok endpoints, trace) =>
      (if canRequest url then .ok endpoints else .error .network, trace)
    | (.error cause, trace) => (.error cause, trace)

/-- The endpoints of the first one's family are tried before those of the other. -/
def byFamily (endpoints : List Endpoint) : List Endpoint :=
  match endpoints with
  | [] => []
  | first :: _ =>
    let isOfFirst := fun endpoint : Endpoint => endpoint.address.isV6 = first.address.isV6
    endpoints.filter isOfFirst ++ endpoints.filter (!isOfFirst ·)

def exchange (network : Network) (options : FetchOptions) (url : Url) (endpoint : Endpoint)
    (trace : Trace) : Except FetchError Response × Trace :=
  if url.scheme = .https ∧ !network.secures trace endpoint then (.error .network, trace)
  else
    match network.send url trace with
    | (.response response, trace) => (.ok response, trace)
    | (.dropped, trace) => (.error .network, trace)
    | (.silent, trace) => (.error (.timeout options.timeout), trace)

def hop (network : Network) (options : FetchOptions) (url : Url) (trace : Trace) :
    Except FetchError Response × Trace :=
  match endpoints network options url trace with
  | (.error cause, trace) => (.error cause, trace)
  | (.ok endpoints, trace) =>
    match network.connect (byFamily endpoints) trace with
    | (none, trace) => (.error .network, trace)
    | (some endpoint, trace) => exchange network options url endpoint trace

def target (url : Url) (location : String) : Except FetchError Url :=
  match url.join location with
  | .error _ => .error .badRedirect
  | .ok (.foreign scheme) => .error (.unsupportedScheme scheme)
  | .ok (.web next) => .ok next

/-- Follows at most `remaining` redirects to the first answer that is none. A redirect without
a readable location fails before the count is looked at. -/
def follow (network : Network) (options : FetchOptions) (remaining : Nat) (url : Url)
    (trace : Trace) : Except FetchError Response × Trace :=
  match hop network options url trace with
  | (.error cause, trace) => (.error cause, trace)
  | (.ok response, trace) =>
    if response.isRedirect then
      match response.header? "location", remaining with
      | none, _ => (.error .badRedirect, trace)
      | some _, 0 => (.error (.tooManyRedirects options.maxRedirects), trace)
      | some location, remaining + 1 =>
        match target url location with
        | .error cause => (.error cause, trace)
        | .ok next => follow network options remaining next trace
    else (.ok response, trace)

def digestSuccess (options : FetchOptions) (response : Response) : Except FetchError String :=
  if response.isSuccess then digestResponse options response
  else .error (.status response.status)

def compute (network : Network) (options : FetchOptions) (source : String) (trace : Trace) :
    Except FetchError String × Trace :=
  if options.algorithm = .md5 then (.error (.unsupportedAlgorithm .md5), trace)
  else
    match Url.parse source with
    | .error cause => (.error (.invalidUrl cause), trace)
    | .ok (.foreign scheme) => (.error (.unsupportedScheme scheme), trace)
    | .ok (.web url) =>
      match follow network options options.maxRedirects url trace with
      | (.error cause, trace) => (.error cause, trace)
      | (.ok response, trace) => (digestSuccess options response, trace)

/-- Live content over a network. Whatever goes wrong leaves the content unknown. -/
def computer (network : Network) : LiveComputer Trace := fun url options trace =>
  let (result, trace) := compute network options url trace
  (result.toOption, trace)

end Signoff.Fetch
