namespace Signoff.Text

/-- The first byte of what is no character, and how many bytes show that it is none. Without their
number the bytes end within a character. -/
structure Fault where
  start : Nat
  length : Option Nat
deriving DecidableEq, Repr

namespace Fault

def message (fault : Fault) : String :=
  match fault.length with
  | some length =>
    "invalid utf-8 sequence of " ++ toString length ++ " bytes from index " ++ toString fault.start
  | none => "incomplete utf-8 byte sequence from index " ++ toString fault.start

abbrev Span := UInt8 × UInt8

def anyNext : Span := (0x80, 0xbf)

def others? (first : UInt8) : Option (List Span) :=
  if first < 0x80 then some []
  else if first < 0xc2 then none
  else if first < 0xe0 then some [anyNext]
  else if first = 0xe0 then some [(0xa0, 0xbf), anyNext]
  else if first = 0xed then some [(0x80, 0x9f), anyNext]
  else if first < 0xf0 then some [anyNext, anyNext]
  else if first = 0xf0 then some [(0x90, 0xbf), anyNext, anyNext]
  else if first < 0xf4 then some [anyNext, anyNext, anyNext]
  else if first = 0xf4 then some [(0x80, 0x8f), anyNext, anyNext]
  else none

/-- Goes on from a character that starts at `start`, `read` bytes of which have been read. -/
def scan (start read : Nat) : (expected : List Span) → List UInt8 → Option Fault
  | [], [] => none
  | _ :: _, [] => some ⟨start, none⟩
  | [], byte :: rest =>
    match others? byte with
    | none => some ⟨start + read, some 1⟩
    | some expected => scan (start + read) 1 expected rest
  | (least, greatest) :: expected, byte :: rest =>
    if least ≤ byte ∧ byte ≤ greatest then scan start (read + 1) expected rest
    else some ⟨start, some read⟩

def of? (bytes : List UInt8) : Option Fault := scan 0 0 [] bytes

end Fault

end Signoff.Text
