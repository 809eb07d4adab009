import Signoff.Text.Blank
import Signoff.Text.Lowercase

namespace Signoff.ContentType

def mediaType (header : String) : String :=
  Text.asciiLowercase (Text.trim (String.ofList (header.toList.takeWhile (· ≠ ';'))))

def topLevel? (mediaType : String) : Option (List Char) :=
  let chars := mediaType.toList
  if '/' ∈ chars then some (chars.takeWhile (· ≠ '/')) else none

def wildcard? (pattern : String) : Option (List Char) :=
  match pattern.toList.reverse with
  | '*' :: '/' :: rest => some rest.reverse
  | _ => none

def accepts (pattern mediaType : String) : Bool :=
  let pattern := Text.asciiLowercase (Text.trim pattern)
  match wildcard? pattern with
  | some kind => topLevel? mediaType == some kind
  | none => mediaType == pattern

def isAny (pattern : String) : Bool := Text.trim pattern == "*/*"

/-- An empty list accepts anything, and so does one that holds the pattern for any type. -/
def allowed (patterns : List String) (header : Option String) : Bool :=
  patterns.isEmpty || patterns.any isAny ||
  match header with
  | none => false
  | some header => patterns.any (accepts · (mediaType header))

end Signoff.ContentType
