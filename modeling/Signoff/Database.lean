import Signoff.Database.Codec
import Signoff.Database.Sql.Evaluation
import Signoff.Store
import Signoff.Text.Lowercase

namespace Signoff

/-! A store in a database that others may reach too. Rows are decoded only when a query
selects them, and a query fails at the first row that cannot be read. -/

structure AppliedVersion where
  version : Int64
  appliedAt : Int64
deriving DecidableEq, Repr

structure Database where
  objects : List Database.SchemaObject
  versions : List AppliedVersion
  signatures : Database.Table
  documents : List (List Database.Value)
  verifications : Database.Table

namespace Database

def empty : Database := ⟨[], [], .empty, [], .empty⟩

/-! Migration creates its own table of versions first, outside the transaction in which the
pending steps run. -/

def hasVersionTable (database : Database) : Bool :=
  database.objects.any fun object => object.kind == .table && object.sameName Schema.versionTable

def withVersionTable (database : Database) : Except DatabaseError Database :=
  if database.hasVersionTable then .ok database
  else (Schema.versionTable.create database.objects).map fun objects =>
    { database with objects }

def appliedVersion (database : Database) : Int64 :=
  match database.versions.map (·.version) with
  | [] => 0
  | version :: rest =>
    rest.foldl (fun highest version => if highest < version then version else highest) version

def applyStep (clock : Clock) (version : Nat) (step : List SchemaObject) (database : Database) :
    Except DatabaseError Database := do
  let objects ← step.foldlM (fun objects object => object.create objects) database.objects
  return { database with
    objects
    versions := database.versions ++ [⟨Int64.ofNat version, clock.now⟩] }

def applySteps (clock : Clock) (version : Nat) :
    List (List SchemaObject) → Database → Except DatabaseError Database
  | [], database => .ok database
  | step :: rest, database => do
    let database ← applyStep clock (version + 1) step database
    applySteps clock (version + 1) rest database

def migrate (clock : Clock) (database : Database) : Except StoreError Unit × Database :=
  match database.withVersionTable with
  | .error cause => (.error (.database cause), database)
  | .ok database =>
    let applied := database.appliedVersion
    if applied < 0 ∨ 0x100000000 ≤ applied then
      (.error (.database (.outOfRange applied 0)), database)
    else
      let version := applied.toNatClampNeg
      if Schema.currentVersion < version then
        (.error (.migration ("schema version " ++ toString version ++
          " is newer than this build supports (" ++ toString Schema.currentVersion ++ ")")),
          database)
      else
        match applySteps clock version (Schema.steps.drop version) database with
        | .error cause => (.error (.database cause), database)
        | .ok database => (.ok (), database)

def fresh (clock : Clock) : Database := (empty.migrate clock).2

def triggerAborts (database : Database) (trigger : SchemaObject) (reason : String)
    (fires : Bool) : Except DatabaseError Unit :=
  if fires && database.objects.contains trigger then .error (.aborted reason) else .ok ()

def updateSignatures (selects : Row → Bool) (assign : Row → Except DatabaseError Row)
    (database : Database) : Except DatabaseError (Nat × Database) := do
  let allows := fun before after =>
    database.triggerAborts Schema.signatureLinkOnly Schema.linkReason
      (!Schema.agreeButLink before after)
  let (changed, signatures) ←
    Table.update Schema.signatures allows selects assign database.signatures
  return (changed, { database with signatures })

def deleteSignatures (selects : Row → Bool) (database : Database) :
    Except DatabaseError (Nat × Database) := do
  let allows := fun _ =>
    database.triggerAborts Schema.signatureNoDelete Schema.signatureReason true
  let (changed, signatures) ← Table.delete allows selects database.signatures
  return (changed, { database with signatures })

def updateVerifications (selects : Row → Bool) (assign : Row → Except DatabaseError Row)
    (database : Database) : Except DatabaseError (Nat × Database) := do
  let allows := fun _ _ =>
    database.triggerAborts Schema.verificationNoUpdate Schema.verificationReason true
  let (changed, verifications) ←
    Table.update Schema.verifications allows selects assign database.verifications
  return (changed, { database with verifications })

def deleteVerifications (selects : Row → Bool) (database : Database) :
    Except DatabaseError (Nat × Database) := do
  let allows := fun _ =>
    database.triggerAborts Schema.verificationNoDelete Schema.verificationReason true
  let (changed, verifications) ← Table.delete allows selects database.verifications
  return (changed, { database with verifications })

/-- Runs a statement that has been read. It is checked as a whole before any row is touched. -/
def runUpdate (layout : Layout)
    (run : (Row → Bool) → (Row → Except DatabaseError Row) → Database →
      Except DatabaseError (Nat × Database))
    (update : Sql.Update) (parameters : Sql.Parameters) (database : Database) :
    Except SqlError (Nat × Database) := do
  update.check layout
  if update.hasMore then throw .severalStatements
  update.checkParameters parameters.length
  (run (update.selects layout parameters) (update.assign layout parameters) database).mapError
    .failed

def runText (text : String) (parameters : Sql.Parameters) (database : Database) :
    Except SqlError (Nat × Database) := do
  let update ← Sql.Update.ofText text
  let table := Text.asciiLowercase update.table
  if table = Schema.signatures.table then
    runUpdate Schema.signatures updateSignatures update parameters database
  else if table = Schema.verifications.table then
    runUpdate Schema.verifications updateVerifications update parameters database
  else .error (.noTable update.table)

def withoutTrigger {ε : Type} (trigger : SchemaObject)
    (run : Database → Except ε (Nat × Database)) (database : Database) :
    Except ε (Nat × Database) := do
  let (changed, after) ← run { database with objects := database.objects.erase trigger }
  return (changed, { after with objects := database.objects })

def holds (row : Row) (index : Nat) (expected : String) : Bool :=
  row.cell index = .text expected

def isOf (docId subject : String) (row : Row) : Bool :=
  holds row 0 docId && holds row 1 subject

def lowerText? : Value → Option String
  | .text value => some (Text.asciiLowercase value)
  | .blob bytes => (String.fromUTF8? bytes.toByteArray).map Text.asciiLowercase
  | _ => none

def isKnownAs (docId identifier : String) (row : Row) : Bool :=
  holds row 0 docId && (holds row 1 identifier ||
    lowerText? (row.cell 2) = some (Text.asciiLowercase identifier))

def readAll {α : Type} (read : Row → Except DatabaseError α) (rows : List Row) :
    Except StoreError (List α) :=
  (rows.mapM read).mapError .database

def readFirst {ρ α : Type} (read : ρ → Except DatabaseError α) :
    Option ρ → Except StoreError (Option α)
  | none => .ok none
  | some row => ((read row).map some).mapError .database

def append (database : Database) (draft : Draft) (clock : Clock) :
    Except StoreError Record × Database :=
  match Table.insert Schema.signatures (signatureCells draft clock.now) database.signatures with
  | .ok (row, signatures) => (.ok (draft.stored row.id clock.now), { database with signatures })
  | .error (.notUnique _ _) => (.error (.duplicate draft.docId draft.user.subject), database)
  | .error cause => (.error (.database cause), database)

def setPrevious (database : Database) (id : Int64) (previous : Option Digest) :
    Except StoreError Unit × Database :=
  let value := Cell.ofOption (fun previous : Digest => .blob previous.bytes) previous
  let assign := fun row : Row => .ok (row.setCell Schema.linkPosition value)
  match database.updateSignatures (·.id = id) assign with
  | .ok (0, _) => (.error (.noRecord id), database)
  | .ok (_, database) => (.ok (), database)
  | .error cause => (.error (.database cause), database)

def putDocument (database : Database) (document : Document) : Database :=
  { database with documents := upsert (documentCells document) database.documents }

def recordVerification (database : Database) (verification : Verification) :
    Except StoreError Unit × Database :=
  match Table.insert Schema.verifications (verificationCells verification)
      database.verifications with
  | .ok (_, verifications) => (.ok (), { database with verifications })
  | .error cause => (.error (.database cause), database)

/-- A query cannot be limited to more rows than this. -/
def largestLimit : Nat := Int64.maxValue.toNatClampNeg

/-- Rows of a document by falling time and, at one time, by falling number. -/
def verificationsOf (database : Database) (docId : String) : List Row :=
  let before := fun left right : Row =>
    if left.cell 2 = right.cell 2 then decide (right.id ≤ left.id)
    else (right.cell 2).le (left.cell 2)
  (database.verifications.rows.filter (holds · 0 docId)).mergeSort before

instance : Store Database where
  append := append
  find database docId subject :=
    readFirst readRecord (database.signatures.rows.find? (isOf docId subject))
  recordsOf database docId :=
    readAll readRecord (database.signatures.rows.filter (holds · 0 docId))
  recordsBy database subject :=
    readAll readRecord (database.signatures.rows.filter (holds · 1 subject))
  contains database docId subject := .ok (database.signatures.rows.any (isOf docId subject))
  hasSigned database docId identifier :=
    .ok (database.signatures.rows.any (isKnownAs docId identifier))
  last database docId :=
    readFirst readRecord (database.signatures.rows.reverse.find? (holds · 0 docId))
  records database := readAll readRecord database.signatures.rows
  setPrevious := setPrevious
  putDocument database document := (.ok (), database.putDocument document)
  document database docId :=
    readFirst readDocument (database.documents.find? (·.head? = some (.text docId)))
  recordVerification := recordVerification
  history database docId limit :=
    readAll readVerification ((database.verificationsOf docId).take (min limit largestLimit))

end Database

end Signoff
