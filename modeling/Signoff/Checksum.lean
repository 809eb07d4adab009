import Signoff.Text.Lowercase

namespace Signoff

/-! Checksums as people write them: algorithm names and digests with separators in either case. -/

inductive Algorithm where
  | sha256
  | sha512
  | md5
deriving DecidableEq, Repr

namespace Algorithm

def name : Algorithm → String
  | .sha256 => "SHA-256"
  | .sha512 => "SHA-512"
  | .md5 => "MD5"

def hexLength : Algorithm → Nat
  | .sha256 => 64
  | .sha512 => 128
  | .md5 => 32

def ofName? (name : String) : Option Algorithm :=
  [sha256, sha512, md5].find? (·.name = name)

end Algorithm

namespace Checksum

def isSeparator (char : Char) : Bool :=
  char = ' ' || char = '-' || char = '_'

def withoutSeparators (text : String) : String :=
  String.ofList (text.toList.filter fun char => !isSeparator char)

def normalize (checksum : String) : String :=
  Text.lowercase (withoutSeparators checksum)

def agree (left right : String) : Bool :=
  normalize left == normalize right

inductive FormatError where
  | unsupported (name : String)
  | wrongLength (algorithm : Algorithm) (found : Nat)
  | nonHex
deriving DecidableEq, Repr

def FormatError.message : FormatError → String
  | .unsupported name => "unsupported checksum algorithm: " ++ name
  | .wrongLength algorithm found =>
    "invalid " ++ algorithm.name ++ " checksum length: expected " ++
      toString algorithm.hexLength ++ " hex characters, got " ++ toString found
  | .nonHex => "checksum contains non-hex characters"

/-- Reads an algorithm name in any spelling: separators and the case of ASCII letters
make no difference. -/
def parseAlgorithm (name : String) : Except FormatError Algorithm :=
  match Text.asciiLowercase (withoutSeparators name) with
  | "sha256" => .ok .sha256
  | "sha512" => .ok .sha512
  | "md5" => .ok .md5
  | _ => .error (.unsupported name)

def isHexDigit (char : Char) : Bool :=
  char.isDigit || ('a' ≤ char && char ≤ 'f') || ('A' ≤ char && char ≤ 'F')

/-- Checks that a checksum is a digest of the named algorithm. Its length counts bytes. -/
def validate (checksum algorithm : String) : Except FormatError Algorithm := do
  let algorithm ← parseAlgorithm algorithm
  let normalized := normalize checksum
  if normalized.utf8ByteSize ≠ algorithm.hexLength then
    throw (.wrongLength algorithm normalized.utf8ByteSize)
  if ¬ normalized.toList.all isHexDigit then
    throw .nonHex
  return algorithm

end Checksum

end Signoff
