import Mathlib.Tactic.SplitIfs
import Signoff.Proofs.Cbor.Entries
import Signoff.Proofs.Cbor.Framing

namespace Signoff.Cbor

/-! Reading items of definite length. A head may have any form that has room for its number, and
what is read remembers the heads on the way to it. -/

/-- Where a head has its number: in the low bits of its first byte, or in so many bytes after. -/
inductive Form where
  | immediate
  | one
  | two
  | four
  | eight
deriving DecidableEq

namespace Form

def width : Form → Nat
  | immediate => 0
  | one => 1
  | two => 2
  | four => 4
  | eight => 8

def capacity : Form → Nat
  | immediate => 24
  | form => Bytes.capacity form.width

/-- The low bits from 28 on announce no length. -/
def ofLow? (low : Nat) : Option Form :=
  if low < 24 then some immediate
  else
    match low with
    | 24 => some one
    | 25 => some two
    | 26 => some four
    | 27 => some eight
    | _ => none

end Form

structure Head where
  major : Nat
  form : Form
  number : Nat

/-- No form that has room for the number is shorter. -/
structure Head.Shortest (head : Head) : Prop where
  number_lt : head.number < head.form.capacity
  width_le : ∀ form : Form, head.number < form.capacity → head.form.width ≤ form.width

/-- What has been read from the front of an input, and what it leaves: fewer than `limit` bytes. -/
structure Reading (α : Type) (limit : Nat) where
  value : α
  heads : List Head
  rest : List UInt8
  length_rest : rest.length < limit

def readHead? : (input : List UInt8) → Option (Reading Head input.length)
  | [] => none
  | first :: tail => do
    let low := first.toNat % 32
    let form ← Form.ofLow? low
    if form.width ≤ tail.length then
      let number := if form = .immediate then low else Bytes.ofBigEndian (tail.take form.width)
      let head : Head := ⟨first.toNat / 32, form, number⟩
      return {
        value := head
        heads := [head]
        rest := tail.drop form.width
        length_rest := Nat.lt_succ_of_le (List.drop_suffix form.width tail).length_le }
    else none

namespace Reading

variable {limit : Nat}

def string? (head : Reading Head limit) : Option (Reading (List UInt8) limit) :=
  if head.value.number ≤ head.rest.length then
    some {
      value := head.rest.take head.value.number
      heads := head.heads
      rest := head.rest.drop head.value.number
      length_rest := Nat.lt_of_le_of_lt (List.drop_suffix _ _).length_le head.length_rest }
  else none

def plain? (head : Reading Head limit) : Option (Reading Cbor limit) :=
  match head.value.major with
  | 0 => some { head with value := integer head.value.number }
  | 1 => some { head with value := integer (-1 - head.value.number) }
  | 2 => do
    let string ← head.string?
    return { string with value := bytes string.value }
  | 3 => do
    let string ← head.string?
    let characters ← String.fromUTF8? string.value.toByteArray
    return { string with value := text characters }
  | 7 =>
    if head.value.form = .immediate ∧ head.value.number = 22 then
      some { head with value := null }
    else none
  | _ => none

end Reading

mutual

/-- Reads one item. -/
def decode (input : List UInt8) : Option (Reading Cbor input.length) := do
  let head ← readHead? input
  if head.value.major = 5 then
    let entries ← decodeEntries head.value.number head.rest
    return {
      value := map entries.value
      heads := head.heads ++ entries.heads
      rest := entries.rest
      length_rest := Nat.lt_of_lt_of_le entries.length_rest head.length_rest }
  else head.plain?
termination_by (input.length, 0)
decreasing_by exact Prod.Lex.left _ _ head.length_rest

def decodeEntries (count : Nat) (input : List UInt8) :
    Option (Reading (List (Cbor × Cbor)) (input.length + 1)) :=
  match count with
  | 0 => some ⟨[], [], input, Nat.lt_succ_self _⟩
  | count + 1 => do
    let key ← decode input
    let value ← decode key.rest
    let others ← decodeEntries count value.rest
    return {
      value := (key.value, value.value) :: others.value
      heads := key.heads ++ value.heads ++ others.heads
      rest := others.rest
      length_rest := Nat.lt_succ_of_lt
        (Nat.lt_trans (Nat.lt_of_lt_of_le others.length_rest value.length_rest) key.length_rest) }
termination_by (input.length, 1)
decreasing_by
  · exact Prod.Lex.right _ Nat.zero_lt_one
  · exact Prod.Lex.left _ _ key.length_rest
  · exact Prod.Lex.left _ _ (Nat.lt_trans value.length_rest key.length_rest)

end

/-- Reading gives the value and leaves the rest, and no head on the way could be shorter. -/
def Reads {α : Type} {limit : Nat} (result : Option (Reading α limit)) (value : α)
    (rest : List UInt8) : Prop :=
  ∃ reading, result = some reading ∧ reading.value = value ∧ reading.rest = rest ∧
    ∀ head ∈ reading.heads, head.Shortest

theorem exists_form {number : Nat} (hnumber : number < Bytes.capacity 8) (major : Nat) :
    ∃ form, Form.ofLow? (headLow number) = some form ∧
      form.width = lowWidth (headLow number) ∧
      (form = .immediate → headLow number = number) ∧ Head.Shortest ⟨major, form, number⟩ := by
  have hshortest {form : Form} (hlt : number < form.capacity)
      (hleast : ∀ other : Form, other.width < form.width → other.capacity ≤ number) :
      Head.Shortest ⟨major, form, number⟩ :=
    ⟨hlt, fun other hother => Nat.le_of_not_lt fun hwidth =>
      Nat.not_lt_of_le (hleast other hwidth) hother⟩
  simp only [headLow]
  split_ifs with hsmall hone htwo hfour
  · exact ⟨.immediate, if_pos hsmall, by simp [lowWidth, hsmall, Form.width], fun _ => rfl,
      hshortest hsmall fun other hwidth => absurd hwidth (Nat.not_lt_zero _)⟩
  · refine ⟨.one, rfl, rfl, by simp, hshortest hone fun other hwidth => ?_⟩
    cases other <;> simp_all [Form.width, Form.capacity]
  · refine ⟨.two, rfl, rfl, by simp, hshortest htwo fun other hwidth => ?_⟩
    cases other <;> simp_all [Form.width, Form.capacity, Bytes.capacity]
  · refine ⟨.four, rfl, rfl, by simp, hshortest hfour fun other hwidth => ?_⟩
    cases other <;> simp_all [Form.width, Form.capacity, Bytes.capacity]
  · refine ⟨.eight, rfl, rfl, by simp, hshortest hnumber fun other hwidth => ?_⟩
    cases other <;> simp_all [Form.width, Form.capacity, Bytes.capacity]

theorem Form.capacity_eq {form : Form} (hlong : form ≠ .immediate) :
    form.capacity = Bytes.capacity form.width := by
  cases form with
  | immediate => exact absurd rfl hlong
  | _ => rfl

theorem Head.Shortest.immediate {head : Head} (hshortest : head.Shortest)
    (hsmall : head.number < 24) : head.form = .immediate := by
  have hwidth : head.form.width ≤ 0 := hshortest.width_le .immediate hsmall
  cases hform : head.form with
  | immediate => rfl
  | _ => simp [hform, Form.width] at hwidth

theorem reads_head {major number : Nat} (hmajor : major < 8) (hnumber : number < Bytes.capacity 8)
    (rest : List UInt8) :
    ∃ form, Head.Shortest ⟨major, form, number⟩ ∧
      Reads (readHead? (head major number ++ rest)) ⟨major, form, number⟩ rest := by
  obtain ⟨form, hform, hwidth, himmediate, hshortest⟩ := exists_form hnumber major
  have hlow : headLow number < 32 := by
    rcases headLow_cases hnumber with h | h <;> omega
  have hfirst : (UInt8.ofNat (32 * major + headLow number)).toNat = 32 * major + headLow number :=
    UInt8.toNat_ofNat_of_lt (by simp [UInt8.size]; omega)
  have hmod : (32 * major + headLow number) % 32 = headLow number := by omega
  have hdiv : (32 * major + headLow number) / 32 = major := by omega
  have htake : (Bytes.bigEndian form.width number ++ rest).take form.width =
      Bytes.bigEndian form.width number := List.take_left' (Bytes.length_bigEndian _ _)
  have hdrop : (Bytes.bigEndian form.width number ++ rest).drop form.width = rest :=
    List.drop_left' (Bytes.length_bigEndian _ _)
  have hvalue : (if form = .immediate then headLow number else
      Bytes.ofBigEndian (Bytes.bigEndian form.width number)) = number := by
    split
    · next hshort => exact himmediate hshort
    · next hlong =>
        have hlt : number < Bytes.capacity form.width :=
          Form.capacity_eq hlong ▸ hshortest.number_lt
        rw [Bytes.ofBigEndian_bigEndian, Nat.mod_eq_of_lt hlt]
  refine ⟨form, hshortest, ?_⟩
  rw [head_eq, ← hwidth, List.cons_append]
  simp only [readHead?, hfirst, hmod, hdiv, hform, Option.bind_eq_bind, Option.bind_some, htake,
    hdrop, hvalue]
  rw [if_pos (by simp)]
  refine ⟨_, rfl, rfl, rfl, ?_⟩
  simpa using hshortest

theorem Reading.string?_eq {limit : Nat} {head : Reading Head limit} {string rest : List UInt8}
    (hnumber : head.value.number = string.length) (hrest : head.rest = string ++ rest) :
    ∃ hlength, head.string? = some ⟨string, head.heads, rest, hlength⟩ := by
  have hlt : rest.length < limit := by
    have hbound := head.length_rest
    rw [hrest, List.length_append] at hbound
    omega
  refine ⟨hlt, ?_⟩
  simp [Reading.string?, hnumber, hrest]

theorem Framed.reads_plain? {value : Cbor} (hframed : value.Framed) {limit : Nat}
    {head : Reading Head limit} {rest : List UInt8} (hmajor : head.value.major = value.major)
    (hnumber : head.value.number = value.number) (hrest : head.rest = value.payload ++ rest)
    (hshortest : head.value.Shortest) (hheads : ∀ passed ∈ head.heads, passed.Shortest) :
    Reads head.plain? value rest := by
  cases value with
  | integer value =>
      obtain ⟨hsmall, hvalue⟩ := integer_parts value
      rw [← hmajor, ← hnumber] at hvalue
      rw [← hmajor] at hsmall
      obtain hzero | hone : head.value.major = 0 ∨ head.value.major = 1 := by omega
      · simp only [Reading.plain?, hzero]
        exact ⟨_, rfl, by rw [hvalue, if_pos hzero], hrest, hheads⟩
      · simp only [Reading.plain?, hone]
        exact ⟨_, rfl, by rw [hvalue, if_neg (by omega)], hrest, hheads⟩
  | bytes value =>
      obtain ⟨hlength, hstring⟩ := Reading.string?_eq hnumber hrest
      simp only [Reading.plain?, hmajor, major, hstring]
      exact ⟨_, rfl, rfl, rfl, hheads⟩
  | text value =>
      obtain ⟨hlength, hstring⟩ := Reading.string?_eq hnumber hrest
      simp only [Reading.plain?, hmajor, major, hstring]
      refine ⟨⟨text value, head.heads, rest, hlength⟩, ?_, rfl, rfl, hheads⟩
      simp [Text.fromUTF8?_bytes]
  | null =>
      have hform := hshortest.immediate (by rw [hnumber]; decide)
      simp only [Reading.plain?, hmajor, major]
      rw [if_pos ⟨hform, hnumber⟩]
      exact ⟨_, rfl, rfl, hrest, hheads⟩
  | map entries => exact hframed.elim

/-- Whatever follows what is written of the value, it is read as the other one. -/
def ReadAs (value other : Cbor) : Prop :=
  ∀ rest, Reads (decode (value.encode ++ rest)) other rest

theorem Framed.readAs {value : Cbor} (hframed : value.Framed) : ReadAs value value := by
  intro rest
  obtain ⟨form, hshortest, head, hhead, hvalue, hrest, hheads⟩ :=
    reads_head (major_lt value) hframed.number_lt (value.payload ++ rest)
  have hmap : head.value.major ≠ 5 := by
    cases value <;> grind [major, Framed]
  rw [hframed.encode_eq, List.append_assoc, decode, hhead, Option.bind_eq_bind, Option.bind_some,
    if_neg hmap]
  exact hframed.reads_plain? (by rw [hvalue]) (by rw [hvalue]) hrest (hvalue ▸ hshortest) hheads

variable {entries : List (Cbor × Cbor)} {read : Cbor → Cbor}

theorem reads_entries
    (hentries : ∀ entry ∈ entries, ReadAs entry.1 (read entry.1) ∧ ReadAs entry.2 (read entry.2))
    (rest : List UInt8) :
    Reads (decodeEntries entries.length
        ((entries.flatMap fun entry => entry.1.encode ++ entry.2.encode) ++ rest))
      (entries.map fun entry => (read entry.1, read entry.2)) rest := by
  induction entries with
  | nil =>
      rw [List.length_nil, decodeEntries]
      exact ⟨_, rfl, rfl, rfl, by simp⟩
  | cons entry others ih =>
      obtain ⟨⟨hkey, hvalue⟩, hothers⟩ := List.forall_mem_cons.mp hentries
      rw [List.flatMap_cons, List.append_assoc, List.append_assoc, List.length_cons, decodeEntries]
      obtain ⟨key, hdecodeKey, hkeyValue, hkeyRest, hkeyHeads⟩ := hkey _
      rw [hdecodeKey, Option.bind_eq_bind, Option.bind_some]
      have hvalue := hvalue ((others.flatMap fun entry => entry.1.encode ++ entry.2.encode) ++ rest)
      rw [← hkeyRest] at hvalue
      obtain ⟨value, hdecodeValue, hvalueValue, hvalueRest, hvalueHeads⟩ := hvalue
      rw [hdecodeValue, Option.bind_eq_bind, Option.bind_some]
      have hothers := ih hothers
      rw [← hvalueRest] at hothers
      obtain ⟨pairs, hdecodeOthers, hothersValue, hothersRest, hothersHeads⟩ := hothers
      rw [hdecodeOthers, Option.bind_eq_bind, Option.bind_some]
      refine ⟨_, rfl, ?_, hothersRest, ?_⟩
      · rw [hkeyValue, hvalueValue, hothersValue, List.map_cons]
      · simp only [List.forall_mem_append]
        exact ⟨⟨hkeyHeads, hvalueHeads⟩, hothersHeads⟩

theorem readAs_map (hcount : entries.length < Bytes.capacity 8)
    (hentries : ∀ entry ∈ entries, ReadAs entry.1 (read entry.1) ∧ ReadAs entry.2 (read entry.2)) :
    ReadAs (map entries)
      (map ((sortByKey entries).map fun entry => (read entry.1, read entry.2))) := by
  intro rest
  have hsorted (entry : Cbor × Cbor) (hentry : entry ∈ sortByKey entries) :=
    hentries entry ((sortByKey_perm entries).mem_iff.mp hentry)
  have hread := reads_entries hsorted rest
  have hfive : 5 < 8 := by decide
  obtain ⟨form, hshortest, head, hhead, hvalue, hrest, hheads⟩ := reads_head hfive hcount
    (((sortByKey entries).flatMap fun entry => entry.1.encode ++ entry.2.encode) ++ rest)
  rw [← hrest, (sortByKey_perm entries).length_eq] at hread
  obtain ⟨items, hdecode, hitems, hitemsRest, hitemsHeads⟩ := hread
  rw [encode_map, List.append_assoc, decode, hhead, Option.bind_eq_bind, Option.bind_some]
  simp only [hvalue, if_true, hdecode, Option.bind_eq_bind, Option.bind_some]
  refine ⟨_, rfl, by rw [hitems], hitemsRest, ?_⟩
  simp only [List.forall_mem_append]
  exact ⟨hheads, hitemsHeads⟩

-- A head with more bytes than its number needs is read all the same.
example : (decode [0xa1, 0x18, 0x05, 0xf6, 0x07]).map (fun item => (item.value, item.rest)) =
    some (map [(integer 5, null)], [0x07]) := by
  cbv

end Signoff.Cbor
