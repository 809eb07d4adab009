import Signoff.Checksum
import Signoff.Json
import Signoff.Text.Blank

namespace Signoff

structure Document where
  docId : String
  url : Option String
  checksum : Option String
  algorithm : Option String
deriving DecidableEq, Repr

namespace Document

def reference? (document : Document) : Option String :=
  Text.nonBlank? document.checksum

def algorithmName (document : Document) : String :=
  (Text.nonBlank? document.algorithm).getD Algorithm.sha256.name

def source? (document : Document) : Option String :=
  Text.nonBlank? document.url

def toJson (document : Document) : Json :=
  .object [
    ("doc_id", .text document.docId),
    ("url", .ofOption .text document.url),
    ("checksum", .ofOption .text document.checksum),
    ("checksum_algorithm", .ofOption .text document.algorithm)]

def fieldNames : List String := ["doc_id", "url", "checksum", "checksum_algorithm"]

def ofJson? (json : Json) : Option Document := do
  let json := json.named fieldNames
  let docId ← json.required? "doc_id" Json.text?
  let url ← json.optionalField? "url" Json.text?
  let checksum ← json.optionalField? "checksum" Json.text?
  let algorithm ← json.optionalField? "checksum_algorithm" Json.text?
  return { docId, url, checksum, algorithm }

end Document

namespace Algorithm

def toJson (algorithm : Algorithm) : Json := .text algorithm.name

/-- An algorithm is written as its name, or as an object whose one field is the name. -/
def ofJson? : Json → Option Algorithm
  | .text name => ofName? name
  | .object [(name, .null)] => ofName? name
  | _ => none

end Algorithm

end Signoff
