import Signoff.Store
import Signoff.Text.Lowercase

namespace Signoff

structure Memory where
  records : List Record
  lastId : Int64
  documents : List Document
  verifications : List Verification

namespace Memory

def empty : Memory := ⟨[], 0, [], []⟩

def isOf (docId subject : String) (record : Record) : Bool :=
  record.docId = docId && record.user.subject = subject

/-- A subject is matched exactly, an address without regard to the case of ASCII letters. -/
def isKnownAs (docId identifier : String) (record : Record) : Bool :=
  record.docId = docId && (record.user.subject = identifier ||
    Text.asciiLowercase record.user.email = Text.asciiLowercase identifier)

def append (memory : Memory) (draft : Draft) (clock : Clock) :
    Except StoreError Record × Memory :=
  if memory.records.any (isOf draft.docId draft.user.subject) then
    (.error (.duplicate draft.docId draft.user.subject), memory)
  else
    let record := draft.stored (memory.lastId + 1) clock.now
    (.ok record, { memory with
      records := memory.records ++ [record]
      lastId := memory.lastId + 1 })

def relinkFirst (id : Int64) (previous : Option Digest) : List Record → List Record
  | [] => []
  | record :: rest =>
    if record.id = id then record.withPrevious previous :: rest
    else record :: relinkFirst id previous rest

def setPrevious (memory : Memory) (id : Int64) (previous : Option Digest) :
    Except StoreError Unit × Memory :=
  if memory.records.any (·.id = id) then
    (.ok (), { memory with records := relinkFirst id previous memory.records })
  else
    (.error (.noRecord id), memory)

def putDocument (memory : Memory) (document : Document) : Memory :=
  { memory with
    documents := memory.documents.filter (·.docId ≠ document.docId) ++ [document] }

def laterFirst (left right : Verification) : Bool :=
  right.verifiedAt ≤ left.verifiedAt

def verificationsOf (memory : Memory) (docId : String) : List Verification :=
  (memory.verifications.filter (·.docId = docId)).reverse.mergeSort laterFirst

instance : Store Memory where
  append := append
  find memory docId subject := .ok (memory.records.find? (isOf docId subject))
  recordsOf memory docId := .ok (memory.records.filter (·.docId = docId))
  recordsBy memory subject := .ok (memory.records.filter (·.user.subject = subject))
  contains memory docId subject := .ok (memory.records.any (isOf docId subject))
  hasSigned memory docId identifier := .ok (memory.records.any (isKnownAs docId identifier))
  last memory docId := .ok (memory.records.reverse.find? (·.docId = docId))
  records memory := .ok memory.records
  setPrevious := setPrevious
  putDocument memory document := (.ok (), memory.putDocument document)
  document memory docId := .ok (memory.documents.find? (·.docId = docId))
  recordVerification memory verification :=
    (.ok (), { memory with verifications := memory.verifications ++ [verification] })
  history memory docId limit := .ok ((memory.verificationsOf docId).take limit)

end Memory

end Signoff
