import Signoff.Fetch.Options
import Signoff.Signing
import Signoff.Store.Memory

namespace Signoff

structure Fixture where
  key : Ed25519.SigningKey
  store : Memory

namespace Fixture

def ofKey (key : Ed25519.SigningKey) : Fixture := ⟨key, .empty⟩

def user (number : Nat) : User where
  subject := "user-" ++ toString number
  email := "user-" ++ toString number ++ "@example.com"
  name := "User " ++ toString number

def document (docId : String) (url checksum : Option String) : Document where
  docId := docId
  url := url
  checksum := checksum
  algorithm := some Algorithm.sha256.name

def putDocument (fixture : Fixture) (document : Document) : Fixture :=
  { fixture with store := fixture.store.putDocument document }

/-- The nonce repeats the number of records, so that a fixture can be made again. -/
def nonce (fixture : Fixture) : Nonce :=
  .replicate 32 (UInt8.ofNat fixture.store.records.length)

def link (fixture : Fixture) (docId : String) : Option Digest :=
  (fixture.store.records.reverse.find? (·.docId = docId)).map (·.linkHash)

def append (fixture : Fixture) (docId : String) (user : User) (signedAt : Int64)
    (clock : Clock) : Except StoreError Record × Fixture :=
  let statement : Statement :=
    { docId, user, signedAt, nonce := fixture.nonce, checksum := none }
  let draft :=
    statement.draft (fixture.key.signStatement statement) none (fixture.link docId)
  let (result, store) := fixture.store.append draft clock
  (result, { fixture with store })

def localOptions : FetchOptions where
  maxBytes := 1048576
  timeout := 5000
  maxRedirects := 3
  allowedTypes := ["application/pdf"]
  algorithm := .sha256
  skipGuard := true
  skipCertificates := false

end Fixture

end Signoff
