import Signoff.Hex
import Signoff.Text.Lowercase

namespace Signoff

inductive Framing where
  | declared (length : Nat)
  | chunked
  | untilClose
deriving DecidableEq, Repr

inductive Ending where
  | finished
  | cut
  | stalled
deriving DecidableEq, Repr

structure Response where
  status : Nat
  headers : List (String × List UInt8)
  framing : Framing
  chunks : List (List UInt8)
  ending : Ending
deriving DecidableEq

structure Arrival where
  chunks : List (List UInt8)
  ending : Ending
deriving DecidableEq

namespace Response

def isRedirect (response : Response) : Bool :=
  300 ≤ response.status && response.status ≤ 399

def isSuccess (response : Response) : Bool :=
  200 ≤ response.status && response.status ≤ 299

def isHeaderBlank (byte : UInt8) : Bool := byte = 32 || byte = 9

def isReadable (byte : UInt8) : Bool := byte = 9 || (32 ≤ byte && byte ≤ 126)

def trimHeader (value : List UInt8) : List UInt8 :=
  ((value.dropWhile isHeaderBlank).reverse.dropWhile isHeaderBlank).reverse

/-- The text of a header value; only visible characters of ASCII, blanks and tabs can be
read. -/
def readHeader? (value : List UInt8) : Option String :=
  let value := trimHeader value
  if value.all isReadable then String.fromUTF8? value.toByteArray else none

/-- The first header of a name; one that cannot be read counts as absent. -/
def header? (response : Response) (name : String) : Option String :=
  (response.headers.find? fun header => Text.asciiLowercase header.1 = name).bind fun header =>
    readHeader? header.2

/-- Some answers have no body, whatever their headers say. -/
def hasBody (response : Response) : Bool :=
  response.status ≠ 204 && response.status ≠ 304

def within : (room : Nat) → List (List UInt8) → List (List UInt8)
  | _, [] => []
  | room, chunk :: rest => chunk.take room :: within (room - chunk.length) rest

def declaredLength? (response : Response) : Option Nat :=
  if response.hasBody then
    match response.framing with
    | .declared length => some length
    | _ => none
  else some 0

def arrival (response : Response) : Arrival :=
  if response.hasBody then
    match response.framing with
    | .declared length =>
      let chunks := within length response.chunks
      let missing := decide (chunks.flatten.length < length)
      { chunks
        ending :=
          if !missing then .finished
          else if response.ending = .stalled then .stalled else .cut }
    | .chunked => { chunks := response.chunks, ending := response.ending }
    | .untilClose =>
      { chunks := response.chunks
        ending := if response.ending = .stalled then .stalled else .finished }
  else { chunks := [], ending := .finished }

end Response

end Signoff
