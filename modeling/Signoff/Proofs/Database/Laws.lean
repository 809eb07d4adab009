import Signoff.Database
import Signoff.Proofs.Database.Queries
import Signoff.Proofs.Database.Table
import Signoff.Proofs.Database.Values
import Signoff.Proofs.Store.Laws

namespace Signoff

namespace Database

/-! A database whose rows can all be read keeps the promises of a store. -/

/-- A database from which all records can be read, with one row a number and one record of a
user on a document. -/
structure InOrder (database : Database) (records : List Record) : Prop where
  readable : database.signatures.rows.map readRecord = records.map Except.ok
  sorted : database.signatures.rows.Pairwise fun left right => left.id < right.id
  unique : records.Pairwise fun left right =>
    ¬ (left.docId = right.docId ∧ left.user.subject = right.user.subject)

theorem InOrder.congr {database other : Database} {records : List Record}
    (horder : InOrder database records) (hsame : other.signatures = database.signatures) :
    InOrder other records := by
  constructor
  · rw [hsame]
    exact horder.readable
  · rw [hsame]
    exact horder.sorted
  · exact horder.unique

theorem keyOf_of_take {row : Row} {draft : Draft} {createdAt : Int64}
    (hcells : row.cells.take signatureWidth = signatureCells draft createdAt) :
    Schema.signatures.keyOf row = [.text draft.docId, .text draft.user.subject] := by
  have hdoc : row.cell 0 = .text draft.docId := cell_of_take hcells (by decide)
  have hsubject : row.cell 1 = .text draft.user.subject := cell_of_take hcells (by decide)
  change [row.cell 0, row.cell 1] = _
  rw [hdoc, hsubject]

theorem required_of_take {row : Row} {draft : Draft} {createdAt : Int64}
    (hcells : row.cells.take signatureWidth = signatureCells draft createdAt) :
    (Schema.signatures.columns.zip row.cells).find?
      (fun cell => cell.1.required && cell.2 = .null) = none := by
  rw [← List.take_append_drop signatureWidth row.cells, hcells]
  simp [Schema.signatures, signatureCells]

theorem any_key_iff {others : List Row} {records : List Record} {row : Row} {draft : Draft}
    {createdAt : Int64} (hreadable : others.map readRecord = records.map Except.ok)
    (hcells : row.cells.take signatureWidth = signatureCells draft createdAt) :
    others.any (fun other => Schema.signatures.keyOf other = Schema.signatures.keyOf row) = true ↔
      HasSigned records draft.docId draft.user.subject := by
  have hchooses : Chooses
      (fun other => Schema.signatures.keyOf other = Schema.signatures.keyOf row)
      (Memory.isOf draft.docId draft.user.subject) := by
    intro other record hread
    simp [keyOf_of_take hcells, keyOf_of_take (readRecord_eq_ok_iff.mp hread).2, Memory.isOf]
  rw [any_readable hreadable hchooses, Memory.any_isOf_iff]

theorem check_eq_ok_iff {others : List Row} {records : List Record} {row : Row} {draft : Draft}
    {createdAt : Int64} (hreadable : others.map readRecord = records.map Except.ok)
    (hcells : row.cells.take signatureWidth = signatureCells draft createdAt) :
    Schema.signatures.check others row = .ok () ↔
      (∀ other ∈ others, other.id ≠ row.id) ∧
        ¬ HasSigned records draft.docId draft.user.subject := by
  rw [← any_key_iff hreadable hcells]
  simp only [Layout.check, required_of_take hcells]
  by_cases hid : others.any (·.id = row.id) = true
  · have hsome : ¬ ∀ other ∈ others, other.id ≠ row.id := by
      simpa using hid
    simp only [hid, if_true]
    simp [hsome]
  · have hnone : ∀ other ∈ others, other.id ≠ row.id := by
      simpa using hid
    have hkey : Schema.signatures.key.isEmpty = false := rfl
    simp only [hid, hkey, Bool.not_false, Bool.true_and]
    split
    · simp_all
    · simp_all

theorem check_of_signed {others : List Row} {records : List Record} {row : Row} {draft : Draft}
    {createdAt : Int64} (hreadable : others.map readRecord = records.map Except.ok)
    (hcells : row.cells.take signatureWidth = signatureCells draft createdAt)
    (hids : ∀ other ∈ others, other.id ≠ row.id)
    (hsigned : HasSigned records draft.docId draft.user.subject) :
    Schema.signatures.check others row =
      .error (.notUnique "signatures" ["doc_id", "user_sub"]) := by
  have hnone : others.any (·.id = row.id) = false := by simpa using hids
  simp only [Layout.check, required_of_take hcells, hnone,
    (any_key_iff hreadable hcells).mpr hsigned]
  rfl

theorem read_signatureCells (draft : Draft) (id createdAt : Int64) :
    readRecord ⟨id, signatureCells draft createdAt⟩ = .ok (draft.stored id createdAt) :=
  readRecord_eq_ok_iff.mpr ⟨rfl, rfl⟩

theorem append_ok {database next : Database} {draft : Draft} {clock : Clock} {record : Record}
    (happend : database.append draft clock = (.ok record, next)) :
    let row : Row := ⟨database.signatures.highest + 1, signatureCells draft clock.now⟩
    database.signatures.highest ≠ Int64.maxValue ∧
      Schema.signatures.check database.signatures.rows row = .ok () ∧
      record = draft.stored row.id clock.now ∧
      next = { database with signatures := ⟨database.signatures.rows ++ [row], row.id⟩ } := by
  simp only [append] at happend
  split at happend
  · next row signatures hinsert =>
      obtain ⟨hroom, rfl, hcheck, rfl⟩ := Table.insert_ok hinsert
      cases happend
      exact ⟨hroom, hcheck, rfl, rfl⟩
  · cases happend
  · cases happend

theorem append_inOrder {database next : Database} {records : List Record} {draft : Draft}
    {clock : Clock} {record : Record} (horder : InOrder database records)
    (happend : database.append draft clock = (.ok record, next)) :
    record = draft.stored (database.signatures.highest + 1) clock.now ∧
      ¬ HasSigned records draft.docId draft.user.subject ∧
      InOrder next (records ++ [record]) ∧
      next.signatures.highest = database.signatures.highest + 1 := by
  obtain ⟨hroom, hcheck, rfl, rfl⟩ := append_ok happend
  have hfresh := (check_eq_ok_iff horder.readable rfl).mp hcheck
  refine ⟨rfl, hfresh.2, ?_, Table.highest_insert hroom⟩
  constructor
  · simp [horder.readable, read_signatureCells]
  · rw [List.pairwise_append]
    refine ⟨horder.sorted, List.pairwise_singleton _ _, ?_⟩
    intro left hleft right hright
    rw [List.mem_singleton.mp hright]
    exact Int64.lt_of_le_of_lt (Table.le_highest hleft) (Table.lt_add_one hroom)
  · exact unique_concat horder.unique hfresh.2

/-- As long as numbers are left, a record is refused for one reason alone. -/
theorem append_eq {database : Database} {records : List Record} (draft : Draft) (clock : Clock)
    (horder : InOrder database records) (hroom : database.signatures.highest ≠ Int64.maxValue) :
    (HasSigned records draft.docId draft.user.subject →
      database.append draft clock =
        (.error (.duplicate draft.docId draft.user.subject), database)) ∧
    (¬ HasSigned records draft.docId draft.user.subject → ∃ signatures,
      database.append draft clock =
        (.ok (draft.stored (database.signatures.highest + 1) clock.now),
          { database with signatures })) := by
  have hids := Table.id_fresh hroom
  constructor
  · intro hsigned
    have hcheck : Schema.signatures.check database.signatures.rows
        ⟨database.signatures.highest + 1, signatureCells draft clock.now⟩ = _ :=
      check_of_signed horder.readable rfl hids hsigned
    simp only [append, Table.insert_eq _ hroom, hcheck, Except.map]
  · intro hfresh
    have hcheck : Schema.signatures.check database.signatures.rows
        ⟨database.signatures.highest + 1, signatureCells draft clock.now⟩ = .ok () :=
      (check_eq_ok_iff horder.readable rfl).mpr ⟨hids, hfresh⟩
    refine ⟨⟨database.signatures.rows ++
      [⟨database.signatures.highest + 1, signatureCells draft clock.now⟩],
      database.signatures.highest + 1⟩, ?_⟩
    simp only [append, Table.insert_eq _ hroom, hcheck, Except.map]

theorem append_error {database next : Database} {draft : Draft} {clock : Clock}
    {cause : StoreError} (happend : database.append draft clock = (.error cause, next)) :
    next = database := by
  simp only [append] at happend
  split at happend <;> cases happend
  · rfl
  · rfl

def setLink (previous : Option Digest) (row : Row) : Row :=
  row.setCell Schema.linkPosition
    (Cell.ofOption (fun previous : Digest => .blob previous.bytes) previous)

theorem read_setLink {row : Row} {record : Record} (hread : readRecord row = .ok record)
    (previous : Option Digest) :
    readRecord (setLink previous row) = .ok (record.withPrevious previous) := by
  obtain ⟨hid, hcells⟩ := readRecord_eq_ok_iff.mp hread
  refine readRecord_eq_ok_iff.mpr ⟨hid, ?_⟩
  rw [setLink, Row.setCell, List.take_set, hcells]
  rfl

theorem value_setLink {name : String} (hname : name ∈ Schema.fixed) (previous : Option Digest)
    (row : Row) :
    Schema.signatures.value (setLink previous row) name = Schema.signatures.value row name := by
  have helsewhere : ∀ name ∈ Schema.fixed,
      Schema.signatures.position? name ≠ some Schema.linkPosition := by decide
  have hposition := helsewhere name hname
  simp only [Layout.value]
  cases hindex : Schema.signatures.position? name with
  | none => rfl
  | some index =>
      have hother : Schema.linkPosition ≠ index := fun heq => hposition (heq ▸ hindex)
      simp [Row.cell, setLink, Row.setCell, List.getElem?_set_ne hother]

theorem agreeButLink_setLink (previous : Option Digest) (row : Row) :
    Schema.agreeButLink row (setLink previous row) = true := by
  rw [Schema.agreeButLink, List.all_eq_true]
  intro name hname
  rw [value_setLink hname, Value.same_refl]

theorem ids_of_read {rows : List Row} {records : List Record}
    (hreadable : rows.map readRecord = records.map Except.ok) :
    rows.map (·.id) = records.map (·.id) := by
  induction records generalizing rows with
  | nil =>
      obtain rfl := List.map_eq_nil_iff.mp hreadable
      rfl
  | cons record records ih =>
      obtain ⟨row, rest, rfl, hread, hrest⟩ := List.map_eq_cons_iff.mp hreadable
      rw [List.map_cons, List.map_cons, ih hrest, (readRecord_eq_ok_iff.mp hread).1]

theorem InOrder.ids_ne {database : Database} {records : List Record}
    (horder : InOrder database records) {front back : List Row} {row : Row}
    (hrows : database.signatures.rows = front ++ row :: back) :
    ∀ other ∈ front ++ back, other.id ≠ row.id := by
  have hsorted := horder.sorted
  rw [hrows, List.pairwise_append, List.pairwise_cons] at hsorted
  obtain ⟨_, ⟨hback, _⟩, hfront⟩ := hsorted
  intro other hother
  rcases List.mem_append.mp hother with hmem | hmem
  · exact Int64.ne_of_lt (hfront other hmem row (by simp))
  · exact (Int64.ne_of_lt (hback other hmem)).symm

theorem InOrder.not_hasSigned {database : Database} {front back : List Record} {record : Record}
    (horder : InOrder database (front ++ record :: back)) :
    ¬ HasSigned (front ++ back) record.docId record.user.subject := by
  have hunique := horder.unique
  rw [List.pairwise_append, List.pairwise_cons] at hunique
  obtain ⟨_, ⟨hback, _⟩, hfront⟩ := hunique
  rintro ⟨other, hother, hsame⟩
  rcases List.mem_append.mp hother with hmem | hmem
  · exact hfront other hmem record (by simp) hsame
  · exact hback other hmem ⟨hsame.1.symm, hsame.2.symm⟩

theorem increasing_of_read {rows : List Row} {records : List Record}
    (hreadable : rows.map readRecord = records.map Except.ok)
    (hsorted : rows.Pairwise fun left right => left.id < right.id) :
    records.Pairwise fun left right => left.id < right.id := by
  have hids := List.pairwise_map.mpr hsorted
  rw [ids_of_read hreadable, List.pairwise_map] at hids
  exact hids

theorem InOrder.increasing {database : Database} {records : List Record}
    (horder : InOrder database records) :
    records.Pairwise fun left right => left.id < right.id :=
  increasing_of_read horder.readable horder.sorted

theorem InOrder.replace {database : Database} {front back : List Record} {record next : Record}
    {frontRows backRows : List Row} {row nextRow : Row}
    (horder : InOrder database (front ++ record :: back))
    (hrows : database.signatures.rows = frontRows ++ row :: backRows)
    (hfront : frontRows.map readRecord = front.map Except.ok)
    (hback : backRows.map readRecord = back.map Except.ok)
    (hread : readRecord nextRow = .ok next) (hid : nextRow.id = row.id)
    (hdoc : next.docId = record.docId) (huser : next.user = record.user) :
    InOrder { database with
      signatures := ⟨frontRows ++ nextRow :: backRows, database.signatures.lastId⟩ }
      (front ++ next :: back) := by
  have hsorted := horder.sorted
  have hunique := horder.unique
  rw [hrows] at hsorted
  constructor
  · simp [hfront, hback, hread]
  · simpa only [List.pairwise_append, List.pairwise_cons, List.mem_cons, forall_eq_or_imp, hid]
      using hsorted
  · simpa only [List.pairwise_append, List.pairwise_cons, List.mem_cons, forall_eq_or_imp, hdoc,
      huser] using hunique

theorem updateSignatures_setLink {database : Database} {frontRows backRows : List Row} {row : Row}
    {previous : Option Digest} (hrows : database.signatures.rows = frontRows ++ row :: backRows)
    (hids : ∀ other ∈ frontRows ++ backRows, other.id ≠ row.id)
    (hcheck : Schema.signatures.check (frontRows ++ backRows) (setLink previous row) = .ok ())
    (hsorted : (frontRows ++ setLink previous row :: backRows).Pairwise (·.id < ·.id)) :
    database.updateSignatures (fun other => decide (other.id = row.id))
        (fun row => .ok (setLink previous row)) =
      .ok (1, { database with
        signatures := ⟨frontRows ++ setLink previous row :: backRows,
          database.signatures.lastId⟩ }) := by
  have hselects : ∀ other ∈ frontRows ++ backRows, decide (other.id = row.id) = false :=
    fun other hother => decide_eq_false (hids other hother)
  have hupdate : Table.updateFrom Schema.signatures (fun before after =>
        database.triggerAborts Schema.signatureLinkOnly Schema.linkReason
          (!Schema.agreeButLink before after))
      (fun other => decide (other.id = row.id)) (fun row => .ok (setLink previous row)) []
      (frontRows ++ row :: backRows) =
        .ok (1, [] ++ frontRows ++ setLink previous row :: backRows) := by
    apply Table.updateFrom_one
    · exact fun other hother => hselects other (by simp [hother])
    · exact decide_eq_true rfl
    · exact fun other hother => hselects other (by simp [hother])
    · rfl
    · simp [triggerAborts, agreeButLink_setLink]
    · exact hcheck
  simp only [updateSignatures, Table.update, hrows, hupdate, bind, Except.bind, pure, Except.pure]
  rw [List.nil_append, Table.mergeSort_sorted hsorted]

theorem setPrevious_inOrder {database : Database} {records : List Record} {record : Record}
    (horder : InOrder database records) (hmem : record ∈ records) (previous : Option Digest) :
    ∃ signatures, database.setPrevious record.id previous =
        (.ok (), { database with signatures }) ∧
      InOrder { database with signatures } (Memory.relinkFirst record.id previous records) ∧
      signatures.highest = database.signatures.highest := by
  obtain ⟨front, back, rfl⟩ := List.append_of_mem hmem
  have hreadable := horder.readable
  rw [List.map_append, List.map_cons] at hreadable
  obtain ⟨frontRows, rest, hrows, hfront, hrest⟩ := List.map_eq_append_iff.mp hreadable
  obtain ⟨row, backRows, rfl, hread, hback⟩ := List.map_eq_cons_iff.mp hrest
  obtain ⟨hid, _⟩ := readRecord_eq_ok_iff.mp hread
  have hids := horder.ids_ne hrows
  have hothers : (frontRows ++ backRows).map readRecord = (front ++ back).map Except.ok := by
    simp [hfront, hback]
  have hnext := read_setLink hread previous
  have hreplaced := horder.replace hrows hfront hback hnext rfl rfl rfl
  have hcheck :
      Schema.signatures.check (frontRows ++ backRows) (setLink previous row) = .ok () := by
    rw [check_eq_ok_iff hothers (readRecord_eq_ok_iff.mp hnext).2]
    exact ⟨hids, horder.not_hasSigned⟩
  have hfresh : record.id ∉ front.map (·.id) := by
    rw [← ids_of_read hfront, List.mem_map]
    rintro ⟨other, hother, hsame⟩
    exact hids other (by simp [hother]) (hsame.trans hid.symm)
  have hstatement := updateSignatures_setLink hrows hids hcheck hreplaced.sorted
  rw [hid] at hstatement
  refine ⟨⟨frontRows ++ setLink previous row :: backRows, database.signatures.lastId⟩, ?_, ?_, ?_⟩
  · simp only [setLink] at hstatement ⊢
    simp only [setPrevious, hstatement]
  · rw [Memory.relinkFirst_append_cons hfresh]
    exact hreplaced
  · apply Table.highest_congr
    · simp [hrows, setLink, Row.setCell]
    · rfl

theorem setPrevious_missing {database : Database} {records : List Record} {id : Int64}
    (horder : InOrder database records) (hmissing : ∀ record ∈ records, record.id ≠ id)
    (previous : Option Digest) :
    database.setPrevious id previous = (.error (.noRecord id), database) := by
  have hids := ids_of_read horder.readable
  have hnone : ∀ row ∈ database.signatures.rows, decide (row.id = id) = false := by
    intro row hrow
    have hmem : row.id ∈ records.map (·.id) := hids ▸ List.mem_map.mpr ⟨row, hrow, rfl⟩
    obtain ⟨record, hrecord, hsame⟩ := List.mem_map.mp hmem
    exact decide_eq_false (hsame ▸ hmissing record hrecord)
  simp only [setPrevious, updateSignatures, Table.update, Table.updateFrom_none [] hnone]
  rfl

def SameTables (left right : Database) : Prop :=
  ∃ objects versions, right = { left with objects, versions }

theorem sameTables_applySteps {clock : Clock} {steps : List (List SchemaObject)} {version : Nat}
    {database next : Database} (hsteps : applySteps clock version steps database = .ok next) :
    SameTables database next := by
  induction steps generalizing version database with
  | nil =>
      cases hsteps
      exact ⟨_, _, rfl⟩
  | cons step rest ih =>
      obtain ⟨middle, hmiddle, hrest⟩ := bind_eq_ok_iff.mp hsteps
      obtain ⟨objects, _, hstep⟩ := bind_eq_ok_iff.mp hmiddle
      cases hstep
      obtain ⟨_, _, rfl⟩ := ih hrest
      exact ⟨_, _, rfl⟩

theorem withVersionTable_ok {database next : Database}
    (hversions : database.withVersionTable = .ok next) :
    ∃ objects, next = { database with objects } := by
  simp only [withVersionTable] at hversions
  split at hversions
  · cases hversions
    exact ⟨_, rfl⟩
  · obtain ⟨objects, _, hnext⟩ := map_eq_ok_iff.mp hversions
    exact ⟨objects, hnext.symm⟩

theorem sameTables_migrate (clock : Clock) (database : Database) :
    SameTables database (database.migrate clock).2 := by
  simp only [migrate]
  split
  · exact ⟨_, _, rfl⟩
  · next middle hmiddle =>
      obtain ⟨_, rfl⟩ := withVersionTable_ok hmiddle
      split
      · exact ⟨_, _, rfl⟩
      · split
        · exact ⟨_, _, rfl⟩
        · split
          · exact ⟨_, _, rfl⟩
          · next hsteps =>
              obtain ⟨_, _, rfl⟩ := sameTables_applySteps hsteps
              exact ⟨_, _, rfl⟩

theorem signatures_fresh (clock : Clock) : (fresh clock).signatures = .empty := by
  obtain ⟨_, _, hfresh⟩ := sameTables_migrate clock empty
  rw [fresh, hfresh]
  rfl

theorem inOrder_fresh (clock : Clock) : InOrder (fresh clock) [] := by
  constructor
  · rw [signatures_fresh]
    rfl
  · rw [signatures_fresh]
    exact List.Pairwise.nil
  · exact List.Pairwise.nil

instance : LawfulStore Database where
  Holds := InOrder
  lastId database := database.signatures.highest
  records_eq horder := readAll_eq horder.readable
  last_eq horder docId := by
    refine readFirst_find ?_ (chooses_docId docId)
    rw [List.map_reverse, horder.readable, List.map_reverse]
  append_ok horder happend := append_inOrder horder happend
  append_error _ happend := append_error happend
  setPrevious_eq horder _ hmem previous := by
    obtain ⟨signatures, hset, hnext, _⟩ := setPrevious_inOrder horder hmem previous
    exact ⟨_, hset, hnext, fun _ => rfl, fun _ _ => rfl⟩
  putDocument_eq {database _} horder document :=
    ⟨database.putDocument document, rfl, horder.congr rfl, rfl⟩

end Database
end Signoff
