namespace Signoff.Url.Punycode

/-! Labels of any characters as labels of letters, digits and hyphens, by RFC 3492. Each
insertion of a character is a number, the numbers are written with digits of varying weight. -/

def base : Nat := 36
def smallest : Nat := 1
def largest : Nat := 26
def initialBias : Nat := 72
def initialCode : Nat := 128

/-- Below its threshold a digit is the last of its number. -/
def threshold (position bias : Nat) : Nat :=
  if position ≤ bias + smallest then smallest
  else if bias + largest ≤ position then largest
  else position - bias

theorem threshold_bounds (position bias : Nat) :
    1 ≤ threshold position bias ∧ threshold position bias ≤ 26 := by
  unfold threshold smallest largest
  split
  · omega
  · split <;> omega

def scaleDown (steps delta : Nat) : Nat × Nat :=
  if 455 < delta then scaleDown (steps + base) (delta / 35) else (steps, delta)
termination_by delta
decreasing_by omega

def adapt (delta count : Nat) (first : Bool) : Nat :=
  let delta := if first then delta / 700 else delta / 2
  let (steps, delta) := scaleDown 0 (delta + delta / count)
  steps + base * delta / (delta + 38)

def digitChar (digit : Nat) : Char :=
  if digit < 26 then Char.ofNat (97 + digit) else Char.ofNat (22 + digit)

def digitValue? (char : Char) : Option Nat :=
  if 'a' ≤ char ∧ char ≤ 'z' then some (char.toNat - 97)
  else if '0' ≤ char ∧ char ≤ '9' then some (char.toNat - 22)
  else none

def encodeNumber (bias position number : Nat) : List Char :=
  let limit := threshold position bias
  if number < limit then [digitChar number]
  else
    digitChar (limit + (number - limit) % (base - limit)) ::
      encodeNumber bias (position + base) ((number - limit) / (base - limit))
termination_by number
decreasing_by
  have bounds := threshold_bounds position bias
  have : (number - threshold position bias) / (base - threshold position bias) ≤
    number - threshold position bias := Nat.div_le_self _ _
  omega

structure Writer where
  code : Nat
  delta : Nat
  bias : Nat
  count : Nat
  digits : List Char

namespace Writer

/-- Passes over one character of the label on the way to the next insertion of `code`. -/
def pass (plain code : Nat) (writer : Writer) (char : Char) : Writer :=
  if char.toNat < code then { writer with delta := writer.delta + 1 }
  else if char.toNat = code then { writer with
    digits := writer.digits ++ encodeNumber writer.bias base writer.delta
    bias := adapt writer.delta (writer.count + 1) (writer.count == plain)
    delta := 0
    count := writer.count + 1 }
  else writer

def insertAll (label : List Char) (plain : Nat) (writer : Writer) (code : Nat) : Writer :=
  let delta := writer.delta + (code - writer.code) * (writer.count + 1)
  let writer := label.foldl (pass plain code) { writer with code, delta }
  { writer with code := code + 1, delta := writer.delta + 1 }

end Writer

def isPlain (char : Char) : Bool := char.toNat < 128

def extendedCodes (label : List Char) : List Nat :=
  (((label.filter (!isPlain ·)).map Char.toNat).mergeSort (· ≤ ·)).eraseDups

def encode (label : List Char) : List Char :=
  let plain := label.filter isPlain
  let writer := (extendedCodes label).foldl (Writer.insertAll label plain.length)
    ⟨initialCode, 0, initialBias, plain.length, []⟩
  if plain.isEmpty then writer.digits else plain ++ '-' :: writer.digits

structure Reader where
  label : List Char
  code : Nat
  bias : Nat
  start : Nat
  number : Nat
  weight : Nat
  position : Nat

namespace Reader

def isComplete (reader : Reader) : Bool := reader.weight = 1

def insert (reader : Reader) : Option Reader :=
  let count := reader.label.length + 1
  let code := reader.code + reader.number / count
  let index := reader.number % count
  if h : code.isValidChar then some {
    label := reader.label.take index ++ Char.ofNatAux code h :: reader.label.drop index
    code
    bias := adapt (reader.number - reader.start) count (reader.start == 0)
    start := index + 1
    number := index + 1
    weight := 1
    position := base }
  else none

def step (reader : Reader) (char : Char) : Option Reader := do
  let digit ← digitValue? char
  let reader := { reader with number := reader.number + digit * reader.weight }
  let limit := threshold reader.position reader.bias
  if digit < limit then reader.insert
  else return { reader with
    weight := reader.weight * (base - limit)
    position := reader.position + base }

end Reader

def split (label : List Char) : List Char × List Char :=
  let digits := (label.reverse.takeWhile (· ≠ '-')).reverse
  (label.take (label.length - digits.length - 1), digits)

def decode? (label : List Char) : Option (List Char) := do
  let (plain, digits) := split label
  let reader ← digits.foldlM Reader.step
    ⟨plain, initialCode, initialBias, 0, 0, 1, base⟩
  if reader.isComplete then some reader.label else none

end Signoff.Url.Punycode
