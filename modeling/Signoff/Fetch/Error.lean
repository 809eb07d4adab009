import Signoff.Address.Text
import Signoff.Fetch.Options
import Signoff.Url.Host

namespace Signoff

/-- Why a live checksum could not be computed. None of these says anything of the document. -/
inductive FetchError where
  | unsupportedAlgorithm (algorithm : Algorithm)
  | invalidUrl (cause : UrlError)
  | unsupportedScheme (scheme : String)
  | unresolved (host reason : String)
  | forbidden (host : String) (address : Address)
  | contentType (header : Option String)
  | tooLarge (limit : UInt64)
  | tooManyRedirects (limit : Nat)
  | badRedirect
  | timeout (milliseconds : UInt64)
  | status (code : Nat)
  | network
deriving DecidableEq

namespace FetchError

def message : FetchError → String
  | unsupportedAlgorithm algorithm => algorithm.name ++ " cannot be computed live"
  | invalidUrl cause => "invalid url: " ++ cause.message
  | unsupportedScheme scheme => "unsupported url scheme: " ++ scheme
  | unresolved host reason => "could not resolve " ++ host ++ ": " ++ reason
  | forbidden host address =>
    "refusing to fetch " ++ host ++ ": resolves to non-public address " ++ address.text
  | contentType header => "content type " ++ header.getD "(none)" ++ " is not allowed"
  | tooLarge limit => "document exceeds " ++ toString limit.toNat ++ " bytes"
  | tooManyRedirects limit => "more than " ++ toString limit ++ " redirects"
  | badRedirect => "redirect without a usable Location header"
  | timeout milliseconds =>
    "fetch timed out after " ++ Duration.ofMilliseconds milliseconds.toNat
  | status code => "http status " ++ toString code
  | network => "network error"

end FetchError

end Signoff
