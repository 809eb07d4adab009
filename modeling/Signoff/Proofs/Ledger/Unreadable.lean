import Signoff.Ledger.Audit
import Signoff.Proofs.Database.Malformed
import Signoff.Proofs.Database.Triggers
import Signoff.Proofs.Ledger.Stages
import Signoff.Proofs.Store.Faithful

namespace Signoff

/-! A ledger over rows that stand for no record. Nobody takes what is left of a table for all of it,
and nothing is written on the strength of it. -/

namespace SigningService

variable {σ ν : Type} [Store σ] [FaithfulStore σ] {service : SigningService ν}
  {request : SigningRequest} {world : World σ ν}

/-- A stage that has something against a request keeps it out of the store, whichever stage gives
the answer. -/
theorem create_of_refuses {stage : Stage} {cause : LedgerError}
    (hrefuses : Refuses service request world stage cause) :
    ∃ answer outside, service.create request world = (.error answer, { world with outside }) := by
  have hstaged := create_staged service request world
  cases hcreate : service.create request world with
  | mk result next =>
      rw [hcreate] at hstaged
      obtain ⟨store, outside⟩ := next
      cases hstaged with
      | refused => exact ⟨_, outside, rfl⟩
      | unstored _ append =>
          obtain rfl := FaithfulStore.append_error append
          exact ⟨_, outside, rfl⟩
      | stored passes => exact absurd hrefuses (passes stage cause)

end SigningService

namespace Database

/-- What a ledger makes of a table of signatures. -/
structure FailsClosed (database : Database) : Prop where
  queries : ∀ query : Query,
    Answered (query.selected database.signatures.rows) (query.answer database)
  chain : (∃ row ∈ database.signatures.rows, Malformed row) → ∃ cause,
    FirstMalformed database.signatures.rows cause ∧
      ChainService.audit database = .error (.store .loadSignatures (.database cause)) ∧
      ChainService.rebuild database = (.error (.store .loadSignatures (.database cause)), database)
  create : ∀ {ν : Type} (service : SigningService ν) (request : SigningRequest) (outside : ν)
    (row : Row), (Query.lastOf request.docId).selected database.signatures.rows = [row] →
      Malformed row → ∃ cause final,
        service.create request ⟨database, outside⟩ = (.error cause, ⟨database, final⟩)

/-- Whatever rows of a table have come to hold, no query passes over a row that it selects or makes
it fit, and a ledger that meets such a row writes nothing. -/
theorem constrained_failsClosed (database : Database) (hconstrained : Constrained database) :
    (∀ row, Clipped row → Malformed row) ∧ FailsClosed database := by
  refine ⟨fun row => Clipped.malformed, ?_⟩
  constructor
  · exact fun query => query.answered hconstrained
  · intro hmalformed
    obtain ⟨cause, hfirst, hrecords⟩ :=
      (Query.all.answered hconstrained).of_malformed hmalformed
    have hload : Store.records database = .error (.database cause) := hrecords
    refine ⟨cause, hfirst, ?_, ?_⟩
    · simp only [ChainService.audit, hload]
      rfl
    · simp only [ChainService.rebuild, hload]
      rfl
  · intro ν service request outside row hlast hmalformed
    have hanswered := (Query.lastOf request.docId).answered hconstrained
    rw [hlast] at hanswered
    obtain ⟨cause, _, hanswer⟩ := hanswered.of_malformed ⟨row, by simp, hmalformed⟩
    exact SigningService.create_of_refuses (.head (map_eq_error_iff.mp hanswer))

def clip : Except SqlError (Nat × Database) :=
  earliest.runText (Sql.Update.text "signatures" "prev_hash") [.blob [0], .integer 1]

theorem constrained_failsClosed_clip :
    ∃ next, clip = .ok (1, next) ∧ Constrained next ∧
      ∃ cause, ChainService.audit next = .error (.store .loadSignatures (.database cause)) ∧
        ChainService.rebuild next =
          (.error (.store .loadSignatures (.database cause)), next) := by
  have hclip : (clip.toOption.map fun result => (result.1, result.2.signatures.rows)) =
      some (1, [earliestRow.setCell 10 (.blob [0])]) := by decide +kernel
  obtain ⟨next, hnext, hrows⟩ := exists_of_rows hclip
  obtain ⟨statement, hrun⟩ := exists_statement_of_runText hnext
  have hearliest : Reached earliest := (Reached.fresh _).append earliestDraft _
  have hconstrained : Constrained next := constrained_of_reached (hearliest.statement hrun)
  obtain ⟨hclipped, hfails⟩ := constrained_failsClosed next hconstrained
  have hmalformed : ∃ row ∈ next.signatures.rows, Malformed row :=
    ⟨_, hrows ▸ List.mem_singleton.mpr rfl, hclipped _ (.previous rfl (by decide))⟩
  obtain ⟨cause, _, haudit, hrebuild⟩ := hfails.chain hmalformed
  exact ⟨next, hnext, hconstrained, cause, haudit, hrebuild⟩

end Database

end Signoff
