import Signoff.Url.Host

namespace Signoff

/-! Web addresses and how they are read, alone and relative to another. User information and
fragments name no resource and are dropped. -/

inductive Scheme where
  | http
  | https
deriving DecidableEq, Repr

namespace Scheme

def name : Scheme → String
  | http => "http"
  | https => "https"

def defaultPort : Scheme → UInt16
  | http => 80
  | https => 443

end Scheme

structure Url where
  scheme : Scheme
  host : Host
  port : UInt16
  path : List String
  query : Option String
deriving DecidableEq, Repr

/-- What an address may turn out to be. Of one that is not for the web the scheme is kept. -/
inductive Reference where
  | web (url : Url)
  | foreign (scheme : String)
deriving DecidableEq, Repr

namespace Url

def authority (url : Url) : String :=
  url.host.text ++
    if url.port = url.scheme.defaultPort then "" else ":" ++ Address.decimal url.port.toNat

def text (url : Url) : String :=
  url.scheme.name ++ "://" ++ url.authority ++ "/" ++ "/".intercalate url.path ++
    match url.query with
    | none => ""
    | some query => "?" ++ query

def pathReserved : List Char := " \"<>\x60#?\x7b\x7d".toList

def queryReserved : List Char := " \"#<>'".toList

def isSlash (char : Char) : Bool := char = '/' || char = '\\'

def isDot (segment : String) : Bool :=
  segment = "." || Text.asciiLowercase segment = "%2e"

def isDoubleDot (segment : String) : Bool :=
  [".." , ".%2e", "%2e.", "%2e%2e"].contains (Text.asciiLowercase segment)

def follow (place : List String) : List String → List String
  | [] => place
  | [last] =>
    if isDoubleDot last then place.dropLast ++ [""]
    else if isDot last then place ++ [""]
    else place ++ [last]
  | segment :: rest =>
    if isDoubleDot segment then follow place.dropLast rest
    else if isDot segment then follow place rest
    else follow (place ++ [segment]) rest

def segments (path : List Char) : List String :=
  (Text.splitAt isSlash path).map (Percent.encode pathReserved)

def splitQuery (chars : List Char) : List Char × Option (List Char) :=
  let chars := chars.takeWhile (· ≠ '#')
  let path := chars.takeWhile (· ≠ '?')
  match chars.drop path.length with
  | [] => (path, none)
  | _ :: query => (path, some query)

def withTail (url : Url) (place : List String) (chars : List Char) : Url :=
  let (path, query) := splitQuery chars
  { url with
    path := follow place (segments path)
    query := query.map (Percent.encode queryReserved) }

def endsAuthority (special : Bool) (char : Char) : Bool :=
  char = '/' || char = '?' || char = '#' || (special && char = '\\')

def splitUser (authority : List Char) : Option (List Char) × List Char :=
  let host := (authority.reverse.takeWhile (· ≠ '@')).reverse
  if host.length = authority.length then (none, host)
  else (some (authority.take (authority.length - host.length - 1)), host)

def splitPort (bracketed : Bool) : List Char → List Char × Option (List Char)
  | [] => ([], none)
  | char :: rest =>
    if char = ':' && !bracketed then ([], some rest)
    else
      let bracketed := char = '[' || (bracketed && char ≠ ']')
      let (host, port) := splitPort bracketed rest
      (char :: host, port)

/-- Without digits there is no port. Digits end at a backslash or the end of the text. -/
def readPort (chars : List Char) : Except UrlError (Option UInt16) :=
  let digits := chars.takeWhile Char.isDigit
  let value := Address.ofDigits 10 (digits.map fun digit => digit.toNat - 48)
  let rest := chars.drop digits.length
  if 65535 < value ∨ (rest ≠ [] ∧ rest.head? ≠ some '\\') then .error .badPort
  else if digits.isEmpty then .ok none
  else .ok (some (UInt16.ofNat value))

def portOf : Option (List Char) → Except UrlError (Option UInt16)
  | none => .ok none
  | some port => readPort port

structure Site where
  host : Host
  port : Option UInt16
  rest : List Char

def readSite (chars : List Char) : Except UrlError Site := do
  let authority := chars.takeWhile (!endsAuthority true ·)
  let (_, site) := splitUser authority
  let (host, port) := splitPort false site
  if host.isEmpty then throw .emptyHost
  let host ← Host.parse host
  let port ← portOf port
  return { host, port, rest := chars.drop authority.length }

def dropSlash : List Char → List Char
  | [] => []
  | char :: rest => if isSlash char then rest else char :: rest

def ofSite (scheme : Scheme) (chars : List Char) : Except UrlError Url := do
  let site ← readSite chars
  let url : Url := {
    scheme
    host := site.host
    port := site.port.getD scheme.defaultPort
    path := [""]
    query := none }
  return url.withTail [] (dropSlash site.rest)

def isOpaqueForbidden (char : Char) : Bool :=
  char = '\x00' || "\t\n\r #/:<>?@[\\]^|".toList.contains char

def checkOpaqueHost : List Char → Except UrlError Unit
  | '[' :: rest => (Host.ofBracketed rest).map fun _ => ()
  | host => if host.any isOpaqueForbidden then .error .badCharacter else .ok ()

def isMeaningful : List Char → Bool
  | [] => false
  | [':'] => false
  | _ => true

def checkOpaqueSite (chars : List Char) : Except UrlError Unit := do
  let authority := chars.takeWhile (!endsAuthority false ·)
  let (user, site) := splitUser authority
  let (host, port) := splitPort false site
  let hanging := user = some [] && site.isEmpty && authority.length < chars.length
  if hanging then throw .emptyHost
  checkOpaqueHost host
  if host.isEmpty && port.isSome then throw .emptyHost
  let _ ← portOf port
  if host.isEmpty && user.any isMeaningful then throw .emptyHost

def isDriveLetter : List Char → Bool
  | [letter, mark] => letter.isAlpha && (mark = ':' || mark = '|')
  | _ => false

def checkFile : List Char → Except UrlError Unit
  | first :: second :: rest =>
    let host := rest.takeWhile (!endsAuthority true ·)
    if isSlash first && isSlash second && !host.isEmpty && !isDriveLetter host then
      (Host.parse host).map fun _ => ()
    else .ok ()
  | _ => .ok ()

def isOuterBlank (char : Char) : Bool := char.toNat ≤ 32

def isInnerBlank (char : Char) : Bool := char = '\t' || char = '\n' || char = '\r'

/-- Blanks and controls at the ends are left out, and line breaks and tabs anywhere. -/
def clean (source : String) : List Char :=
  let chars := ((source.toList.dropWhile isOuterBlank).reverse.dropWhile isOuterBlank).reverse
  chars.filter (!isInnerBlank ·)

def isSchemeChar (char : Char) : Bool :=
  char.isAlphanum || char = '+' || char = '-' || char = '.'

def splitScheme? (chars : List Char) : Option (String × List Char) :=
  let scheme := chars.takeWhile isSchemeChar
  if scheme.head?.any Char.isAlpha then
    match chars.drop scheme.length with
    | ':' :: rest => some (Text.asciiLowercase (String.ofList scheme), rest)
    | _ => none
  else none

def foreignAfter (scheme : String) (result : Except UrlError Unit) : Except UrlError Reference :=
  result.map fun () => .foreign scheme

def ofScheme (scheme : String) (rest : List Char) : Except UrlError Reference :=
  match scheme with
  | "http" => (ofSite .http (rest.dropWhile isSlash)).map .web
  | "https" => (ofSite .https (rest.dropWhile isSlash)).map .web
  | "ws" | "wss" | "ftp" =>
    foreignAfter scheme ((readSite (rest.dropWhile isSlash)).map fun _ => ())
  | "file" => foreignAfter scheme (checkFile rest)
  | _ =>
    match rest with
    | '/' :: '/' :: rest => foreignAfter scheme (checkOpaqueSite rest)
    | _ => .ok (.foreign scheme)

def parse (source : String) : Except UrlError Reference :=
  match splitScheme? (clean source) with
  | some (scheme, rest) => ofScheme scheme rest
  | none => .error .noBase

/-- Two slashes lead to another host, and so does any longer run that does not start with two
plain ones. -/
def afterSlashes (chars : List Char) : List Char :=
  match chars with
  | '/' :: '/' :: rest => rest
  | _ => chars.dropWhile isSlash

def relative (base : Url) (chars : List Char) : Except UrlError Url :=
  let slashes := (chars.takeWhile isSlash).length
  if 2 ≤ slashes then ofSite base.scheme (afterSlashes chars)
  else if slashes = 1 then .ok (base.withTail [] (chars.drop 1))
  else
    match chars with
    | [] => .ok base
    | '#' :: _ => .ok base
    | '?' :: _ => .ok { base with query := (splitQuery chars).2.map (Percent.encode queryReserved) }
    | _ => .ok (base.withTail base.path.dropLast chars)

def join (base : Url) (source : String) : Except UrlError Reference :=
  let chars := clean source
  match splitScheme? chars with
  | none => (base.relative chars).map .web
  | some (scheme, rest) =>
    if scheme = base.scheme.name ∧ (rest.takeWhile isSlash).length < 2 then
      (base.relative rest).map .web
    else ofScheme scheme rest

end Url

end Signoff
