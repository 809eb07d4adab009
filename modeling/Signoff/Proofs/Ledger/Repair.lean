import Signoff.Ledger.Audit
import Signoff.Proofs.Chain.Links
import Signoff.Proofs.Database.Laws

namespace Signoff

/-! What a rebuild writes. A correction is computed from the records as they should be, so a link
that cannot be written does not mislead the ones after it. -/

namespace Chain

def strays (records : List Record) (links : List (Option Digest)) : Nat :=
  (records.zip links).countP fun pair => pair.1.previous ≠ pair.2

def mend (fault : Store.Operation → Option StoreError) (records : List Record)
    (links : List (Option Digest)) : List Record :=
  List.zipWith (fun record link =>
    if (fault (.setPrevious record.id)).isSome then record else record.withPrevious link)
    records links

theorem strays_cons_of_eq {record : Record} {link : Option Digest} (hlink : record.previous = link)
    (records : List Record) (links : List (Option Digest)) :
    strays (record :: records) (link :: links) = strays records links := by
  simp [strays, hlink]

theorem strays_cons_of_ne {record : Record} {link : Option Digest} (hlink : record.previous ≠ link)
    (records : List Record) (links : List (Option Digest)) :
    strays (record :: records) (link :: links) = strays records links + 1 := by
  simp [strays, hlink]

theorem strays_eq_zero_iff {records : List Record} {links : List (Option Digest)}
    (hlength : links.length = records.length) :
    strays records links = 0 ↔ records.map (·.previous) = links := by
  induction records generalizing links with
  | nil => simp_all [strays]
  | cons record rest ih =>
      cases links with
      | nil => simp at hlength
      | cons link links =>
          have htail := ih (by simpa using hlength)
          by_cases hlink : record.previous = link
          · simpa [strays, hlink] using htail
          · simp [strays, hlink]

theorem mend_cons (fault : Store.Operation → Option StoreError) (record : Record)
    (link : Option Digest) (records : List Record) (links : List (Option Digest)) :
    mend fault (record :: records) (link :: links) =
      (if (fault (.setPrevious record.id)).isSome then record else record.withPrevious link) ::
        mend fault records links := rfl

/-- Setting some links leaves the links that the records call for as they are. -/
theorem mend_eq_withLinks (fault : Store.Operation → Option StoreError) (records : List Record)
    (links : List (Option Digest)) :
    mend fault records links = withLinks records (List.zipWith (fun record link =>
      if (fault (.setPrevious record.id)).isSome then record.previous else link)
      records links) := by
  induction records generalizing links with
  | nil => rfl
  | cons record rest ih =>
      cases links with
      | nil => rfl
      | cons link links =>
          have htail := ih links
          simp only [mend, withLinks, List.zipWith_cons_cons] at htail ⊢
          rw [htail]
          split <;> rfl

theorem length_mend {fault : Store.Operation → Option StoreError} {records : List Record}
    {links : List (Option Digest)} (hlength : links.length = records.length) :
    (mend fault records links).length = records.length := by
  simp [mend, hlength]

theorem ids_mend {fault : Store.Operation → Option StoreError} {records : List Record}
    {links : List (Option Digest)} (hlength : links.length = records.length) :
    (mend fault records links).map (·.id) = records.map (·.id) := by
  induction records generalizing links with
  | nil => simp [mend]
  | cons record rest ih =>
      cases links with
      | nil => simp at hlength
      | cons link links =>
          have htail := ih (by simpa using hlength)
          simp only [mend, List.zipWith_cons_cons, List.map_cons] at htail ⊢
          rw [htail]
          split <;> rfl

theorem links_mend (fault : Store.Operation → Option StoreError) (records : List Record) :
    links (mend fault records (links records)) = links records := by
  rw [mend_eq_withLinks]
  exact links_withLinks (by simp)

theorem linked_mend_iff (fault : Store.Operation → Option StoreError) (records : List Record) :
    Linked (mend fault records (links records)) ↔
      strays (mend fault records (links records)) (links records) = 0 := by
  have hlength : (links records).length = (mend fault records (links records)).length := by
    rw [length_mend (length_links records), length_links]
  rw [linked_iff_links, links_mend, strays_eq_zero_iff hlength]

theorem relink_mend (fault : Store.Operation → Option StoreError) (records : List Record) :
    relink (mend fault records (links records)) = relink records := by
  rw [mend_eq_withLinks]
  exact relinkAfter_withLinks (by simp)

theorem mend_of_willing {fault : Store.Operation → Option StoreError} {records : List Record}
    {links : List (Option Digest)}
    (hwilling : ∀ record ∈ records, fault (.setPrevious record.id) = none) :
    mend fault records links = withLinks records links := by
  induction records generalizing links with
  | nil => rfl
  | cons record rest ih =>
      cases links with
      | nil => rfl
      | cons link links =>
          have htail : mend fault rest links = withLinks rest links :=
            ih fun other hother => hwilling other (by simp [hother])
          simp only [mend, withLinks, List.zipWith_cons_cons] at htail ⊢
          simp [htail, hwilling record (by simp)]

end Chain

namespace ChainService

variable {σ : Type} [Store σ] [LawfulStore σ]

theorem setPrevious_willing {faults : Faults} {written rest : List Record} {record : Record}
    {store : σ} (hfault : faults.fault (.setPrevious record.id) = none)
    (hholds : LawfulStore.Holds store (written ++ record :: rest))
    (hids : ((written ++ record :: rest).map (·.id)).Nodup) (link : Option Digest) :
    ∃ next, Store.setPrevious (faults.around store) record.id link = (.ok (), faults.around next) ∧
      LawfulStore.Holds next (written ++ record.withPrevious link :: rest) ∧
      Store.SameBesideRecords store next := by
  obtain ⟨next, hset, hnext, hbeside⟩ :=
    LawfulStore.setPrevious_eq hholds (List.mem_append_cons_self) link
  have hfresh : record.id ∉ written.map (·.id) := by
    rw [List.map_append, List.map_cons, List.nodup_append] at hids
    intro hmem
    exact hids.2.2 record.id hmem record.id (by simp) rfl
  rw [Memory.relinkFirst_append_cons hfresh] at hnext
  refine ⟨next, ?_, hnext, hbeside⟩
  rw [Faults.setPrevious_reaches hfault, hset]

/-- What has become of a store when the links of `rest` were written or refused, with those of
the records before left as they were. -/
structure Written (faults : Faults) (store : σ) (written rest : List Record)
    (links : List (Option Digest)) (updated failed : Nat) (next : σ) : Prop where
  corrected_eq : updated + failed = Chain.strays rest links
  failed_eq : failed = Chain.strays (Chain.mend faults.fault rest links) links
  holds : LawfulStore.Holds next (written ++ Chain.mend faults.fault rest links)
  beside : Store.SameBesideRecords store next

namespace Written

variable {faults : Faults} {store next : σ} {written rest : List Record} {record : Record}
  {link : Option Digest} {links : List (Option Digest)} {updated failed : Nat}

theorem kept (hlink : record.previous = link)
    (hrest : Written faults store (written ++ [record]) rest links updated failed next) :
    Written faults store written (record :: rest) (link :: links) updated failed next := by
  have hsame := Record.withPrevious_of_eq hlink
  constructor
  · rw [Chain.strays_cons_of_eq hlink, hrest.corrected_eq]
  · rw [Chain.mend_cons, hsame, ite_self, Chain.strays_cons_of_eq hlink]
    exact hrest.failed_eq
  · rw [Chain.mend_cons, hsame, ite_self, List.append_cons]
    exact hrest.holds
  · exact hrest.beside

theorem refused {cause : StoreError} (hlink : record.previous ≠ link)
    (hfault : faults.fault (.setPrevious record.id) = some cause)
    (hrest : Written faults store (written ++ [record]) rest links updated failed next) :
    Written faults store written (record :: rest) (link :: links) updated (failed + 1) next := by
  constructor
  · rw [Chain.strays_cons_of_ne hlink, ← hrest.corrected_eq, Nat.add_assoc]
  · rw [Chain.mend_cons, hfault, Option.isSome_some, if_pos rfl, Chain.strays_cons_of_ne hlink,
      ← hrest.failed_eq]
  · rw [Chain.mend_cons, hfault, Option.isSome_some, if_pos rfl, List.append_cons]
    exact hrest.holds
  · exact hrest.beside

theorem set {middle : σ} (hlink : record.previous ≠ link)
    (hfault : faults.fault (.setPrevious record.id) = none)
    (hmoved : Store.SameBesideRecords store middle)
    (hrest : Written faults middle (written ++ [record.withPrevious link]) rest links updated
      failed next) :
    Written faults store written (record :: rest) (link :: links) (updated + 1) failed next := by
  have hopen : ¬ (none : Option StoreError).isSome = true := Bool.false_ne_true
  constructor
  · rw [Chain.strays_cons_of_ne hlink, ← hrest.corrected_eq]
    omega
  · rw [Chain.mend_cons, hfault, if_neg hopen,
      Chain.strays_cons_of_eq (Record.previous_withPrevious _ _)]
    exact hrest.failed_eq
  · rw [Chain.mend_cons, hfault, if_neg hopen, List.append_cons]
    exact hrest.holds
  · exact hmoved.trans hrest.beside

end Written

theorem writeCorrections_written (faults : Faults) (earlier written : List Record)
    {rest : List Record} {store : σ} (report : RebuildReport)
    (hholds : LawfulStore.Holds store (written ++ rest))
    (hids : ((written ++ rest).map (·.id)).Nodup) :
    ∃ updated failed next,
      writeCorrections report (Chain.correctionsAfter earlier rest) (faults.around store) =
        (⟨report.total, report.updated + updated, report.failed + failed⟩,
          faults.around next) ∧
      Written faults store written rest ((Chain.relinkAfter earlier rest).map (·.previous))
        updated failed next := by
  induction rest generalizing earlier written store report with
  | nil => exact ⟨0, 0, store, rfl, rfl, rfl, hholds, .refl store⟩
  | cons record rest ih =>
      -- Later corrections follow from the link that is meant, even if it was refused.
      have hnext (head : Record) {middle : σ} (report : RebuildReport)
          (hmiddle : LawfulStore.Holds middle (written ++ head :: rest))
          (hid : head.id = record.id) := by
        have hidsNext : ((written ++ [head] ++ rest).map (·.id)).Nodup := by
          simpa [hid] using hids
        rw [List.append_cons] at hmiddle
        exact ih (record.withPrevious (Chain.expectedLink earlier record.docId) :: earlier)
          (written ++ [head]) report hmiddle hidsNext
      generalize hexpected : Chain.expectedLink earlier record.docId = expected at hnext
      simp only [Chain.relinkAfter, List.map_cons, Record.previous_withPrevious,
        Chain.correctionsAfter, hexpected]
      by_cases hlink : record.previous = expected
      · obtain ⟨updated, failed, next, hwrite, hrest⟩ := hnext record report hholds rfl
        refine ⟨updated, failed, next, ?_, hrest.kept hlink⟩
        rw [if_pos hlink]
        exact hwrite
      · rw [if_neg hlink, writeCorrections]
        cases hfault : faults.fault (.setPrevious record.id) with
        | some cause =>
            obtain ⟨updated, failed, next, hwrite, hrest⟩ :=
              hnext record { report with failed := report.failed + 1 } hholds rfl
            refine ⟨updated, failed + 1, next, ?_, hrest.refused hlink hfault⟩
            simp only [Faults.setPrevious_fails hfault, hwrite]
            rw [Nat.add_assoc, Nat.add_comm 1]
        | none =>
            obtain ⟨middle, hset, hmiddle, hmoved⟩ :=
              setPrevious_willing hfault hholds hids expected
            obtain ⟨updated, failed, next, hwrite, hrest⟩ :=
              hnext (record.withPrevious expected) { report with updated := report.updated + 1 }
                hmiddle rfl
            refine ⟨updated + 1, failed, next, ?_, hrest.set hlink hfault hmoved⟩
            simp only [hset, hwrite]
            rw [Nat.add_assoc, Nat.add_comm 1]

theorem rebuild_eq {faults : Faults} {store : σ} {records : List Record}
    (hholds : LawfulStore.Holds store records) (hread : faults.fault .records = none) :
    rebuild (faults.around store) =
      ((.ok (writeCorrections ⟨records.length, 0, 0⟩ (Chain.corrections records)
        (faults.around store)).1),
        (writeCorrections ⟨records.length, 0, 0⟩ (Chain.corrections records)
          (faults.around store)).2) := by
  have hrecords := Faults.records_reaches hread store
  rw [LawfulStore.records_eq hholds] at hrecords
  simp [rebuild, hrecords, Purpose.during]

theorem rebuild_linked {store : σ} {records : List Record}
    (hholds : LawfulStore.Holds store records) (hlinked : Chain.Linked records) (faults : Faults) :
    rebuild (faults.around store) =
      match faults.fault .records with
      | .none => (.ok ⟨records.length, 0, 0⟩, faults.around store)
      | .some cause => (.error (.store .loadSignatures cause), faults.around store) := by
  cases hfault : faults.fault .records with
  | none =>
      rw [rebuild_eq hholds hfault, hlinked.corrections_eq_nil]
      rfl
  | some cause =>
      have hread := Faults.records_fails hfault store
      simp [rebuild, hread, Purpose.during]

/-- What a rebuild reports and leaves behind, where `links` are the links that are meant. -/
structure Mended (faults : Faults) (store : σ) (records : List Record)
    (links : List (Option Digest)) (report : RebuildReport) (next : σ) : Prop where
  rebuild_eq : rebuild (faults.around store) = (.ok report, faults.around next)
  records_eq : Store.records next = .ok (Chain.mend faults.fault records links)
  total_eq : report.total = records.length
  corrected_eq : report.updated + report.failed = Chain.strays records links
  failed_eq : report.failed = Chain.strays (Chain.mend faults.fault records links) links
  valid_iff : (Chain.audit (Chain.mend faults.fault records links)).isValid = true ↔
    report.failed = 0
  beside : Store.SameBesideRecords store next

theorem rebuild_mends {faults : Faults} {store : σ} {records : List Record}
    (hholds : LawfulStore.Holds store records) (hids : (records.map (·.id)).Nodup)
    (hread : faults.fault .records = none) :
    ∃ report next, Mended faults store records (Chain.links records) report next ∧
      LawfulStore.Holds next (Chain.mend faults.fault records (Chain.links records)) := by
  obtain ⟨updated, failed, next, hwrite, hwritten⟩ :=
    writeCorrections_written faults [] [] ⟨records.length, 0, 0⟩ hholds hids
  simp only [Nat.zero_add] at hwrite
  refine ⟨⟨records.length, updated, failed⟩, next, ?_, hwritten.holds⟩
  constructor
  · rw [rebuild_eq hholds hread, Chain.corrections, hwrite]
  · exact LawfulStore.records_eq hwritten.holds
  · rfl
  · exact hwritten.corrected_eq
  · exact hwritten.failed_eq
  · rw [Chain.audit_isValid_iff, Chain.linked_mend_iff]
    exact hwritten.failed_eq ▸ Iff.rfl
  · exact hwritten.beside

/-- What a second rebuild does if all its writes succeed, and every one after it. -/
structure Settled (willing : Faults) (store : σ) (records : List Record)
    (links : List (Option Digest)) (pending : Nat) (next : σ) : Prop where
  rebuild_eq : rebuild (willing.around store) =
    (.ok ⟨records.length, pending, 0⟩, willing.around next)
  records_eq : Store.records next = .ok (Chain.withLinks records links)
  valid : (Chain.audit (Chain.withLinks records links)).isValid = true
  beside : Store.SameBesideRecords store next
  again : ∀ faults : Faults, faults.fault .records = none →
    rebuild (faults.around next) = (.ok ⟨records.length, 0, 0⟩, faults.around next)

theorem rebuild_settles {willing : Faults} {store : σ} {records : List Record}
    (fault : Store.Operation → Option StoreError)
    (hholds : LawfulStore.Holds store (Chain.mend fault records (Chain.links records)))
    (hids : (records.map (·.id)).Nodup) (hread : willing.fault .records = none)
    (hwilling : ∀ record ∈ records, willing.fault (.setPrevious record.id) = none) :
    ∃ next, Settled willing store records (Chain.links records)
      (Chain.strays (Chain.mend fault records (Chain.links records)) (Chain.links records))
      next := by
  generalize hmended : Chain.mend fault records (Chain.links records) = mended at hholds
  have hlinks : Chain.links mended = Chain.links records := hmended ▸ Chain.links_mend fault records
  have hsame : mended.map (·.id) = records.map (·.id) :=
    hmended ▸ Chain.ids_mend (Chain.length_links records)
  have hlength : mended.length = records.length := by simpa using congrArg List.length hsame
  have hwillingMended : ∀ record ∈ mended, willing.fault (.setPrevious record.id) = none := by
    intro record hrecord
    have hid : record.id ∈ records.map (·.id) := hsame ▸ List.mem_map_of_mem hrecord
    obtain ⟨old, hold, heq⟩ := List.mem_map.mp hid
    exact heq ▸ hwilling old hold
  have hset : Chain.mend willing.fault mended (Chain.links mended) =
      Chain.withLinks records (Chain.links records) := by
    rw [Chain.mend_of_willing hwillingMended, Chain.withLinks_links, Chain.withLinks_links,
      ← hmended, Chain.relink_mend]
  have hlinked : Chain.Linked (Chain.withLinks records (Chain.links records)) :=
    (Chain.linked_withLinks_iff (Chain.length_links records)).mpr rfl
  obtain ⟨report, next, hrebuilt, hnext⟩ := rebuild_mends hholds (hsame ▸ hids) hread
  rw [hset] at hnext
  have hfailed : report.failed = 0 :=
    hrebuilt.valid_iff.mp (hset ▸ Chain.audit_isValid_iff.mpr hlinked)
  have hupdated := hrebuilt.corrected_eq
  rw [hfailed, Nat.add_zero, hlinks] at hupdated
  have hreport : report = ⟨records.length, Chain.strays mended (Chain.links records), 0⟩ := by
    rw [← hupdated, ← hfailed, ← hlength, ← hrebuilt.total_eq]
  refine ⟨next, ?_⟩
  constructor
  · rw [← hreport]
    exact hrebuilt.rebuild_eq
  · exact LawfulStore.records_eq hnext
  · exact Chain.audit_isValid_iff.mpr hlinked
  · exact hrebuilt.beside
  · intro faults hfault
    have hcount : (Chain.withLinks records (Chain.links records)).length = records.length := by
      simp [Chain.withLinks]
    rw [rebuild_linked hnext hlinked, hfault, hcount]

/-- There is one way to link the records. A rebuild sets the links that it is not refused to set
and leaves the others, and the next one that is refused nothing completes it. -/
def Repairs (faults : Faults) (store : σ) (records : List Record) : Prop :=
  ∃ links : List (Option Digest), links.length = records.length ∧
    (∀ other : List (Option Digest), other.length = records.length →
      ((Chain.audit (Chain.withLinks records other)).isValid = true ↔ other = links)) ∧
    ∃ report next, Mended faults store records links report next ∧
      ∀ willing : Faults, willing.fault .records = none →
        (∀ record ∈ records, willing.fault (.setPrevious record.id) = none) →
          ∃ settled, Settled willing next records links report.failed settled

theorem repairs_of_holds {faults : Faults} {store : σ} {records : List Record}
    (hholds : LawfulStore.Holds store records) (hids : (records.map (·.id)).Nodup)
    (hread : faults.fault .records = none) : Repairs faults store records := by
  obtain ⟨report, next, hmended, hnext⟩ := rebuild_mends hholds hids hread
  refine ⟨Chain.links records, Chain.length_links records, ?_, report, next, hmended, ?_⟩
  · intro other hlength
    rw [Chain.audit_isValid_iff, Chain.linked_withLinks_iff hlength]
  · intro willing hreadAgain hwilling
    rw [hmended.failed_eq]
    exact rebuild_settles faults.fault hnext hids hreadAgain hwilling

/-- Whatever links the records carry and whichever of its writes are refused, a rebuild repairs a
store whose records have numbers of their own. The numbers of rows always are. -/
theorem rebuild_repairs (faults : Faults) (hread : faults.fault .records = none) :
    (∀ memory : Memory, (memory.records.map (·.id)).Nodup →
      Repairs faults memory memory.records) ∧
    ∀ (database : Database) (records : List Record), database.InOrder records →
      Repairs faults database records := by
  constructor
  · intro memory hids
    exact repairs_of_holds rfl hids hread
  · intro database records horder
    have hids : (records.map (·.id)).Nodup := by
      rw [List.Nodup, List.pairwise_map]
      exact horder.increasing.imp Int64.ne_of_lt
    exact repairs_of_holds horder hids hread

theorem rebuild_repairs_refused :
    let faults : Faults :=
      ⟨fun operation => if operation = .setPrevious 2 then some (.noRecord 2) else none, false⟩
    let memory : Memory := {
      records := [Chain.handbookRecord 1 "alice" "Alice" none,
        Chain.handbookRecord 2 "bob" "Bob" none, Chain.handbookRecord 3 "carol" "Carol" none]
      lastId := 3
      documents := []
      verifications := [] }
    faults.fault .records = none ∧ (memory.records.map (·.id)).Nodup ∧
      Repairs faults memory memory.records := by
  intro faults memory
  have hread : faults.fault .records = none := rfl
  have hids : (memory.records.map (·.id)).Nodup := by decide
  exact ⟨hread, hids, (rebuild_repairs faults hread).1 memory hids⟩

end ChainService

end Signoff
