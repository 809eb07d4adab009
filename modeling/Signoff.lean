import Signoff.Database
import Signoff.Diagnostic
import Signoff.Fetch
import Signoff.Fixture
import Signoff.Golden.Checksum
import Signoff.Golden.Signing
import Signoff.Ledger.Audit
import Signoff.Ledger.Verification
import Signoff.Network.Script
import Signoff.Store.Faulty
import Signoff.Proofs.Address.Blocks
import Signoff.Proofs.Address.Text
import Signoff.Proofs.Cbor.Canonical
import Signoff.Proofs.Cbor.Decoding
import Signoff.Proofs.Cbor.Framing
import Signoff.Proofs.Chain.Breaks
import Signoff.Proofs.Chain.History
import Signoff.Proofs.Chain.Links
import Signoff.Proofs.Chain.Places
import Signoff.Proofs.Chain.Plan
import Signoff.Proofs.Checksum
import Signoff.Proofs.Checksum.Grammar
import Signoff.Proofs.Database.Codec
import Signoff.Proofs.Database.Documents
import Signoff.Proofs.Database.History
import Signoff.Proofs.Database.Laws
import Signoff.Proofs.Database.Migration
import Signoff.Proofs.Database.Triggers
import Signoff.Proofs.Fetch.Body
import Signoff.Proofs.Fetch.Content
import Signoff.Proofs.Fetch.ContentType
import Signoff.Proofs.Fetch.Guard
import Signoff.Proofs.Fetch.Limit
import Signoff.Proofs.Fetch.Redirects
import Signoff.Proofs.Hex
import Signoff.Proofs.Ledger.Atomic
import Signoff.Proofs.Ledger.History
import Signoff.Proofs.Ledger.Trail
import Signoff.Proofs.Ledger.Unreadable
import Signoff.Proofs.Ledger.Verdicts
import Signoff.Proofs.Message.Decoding
import Signoff.Proofs.Record.Json
import Signoff.Proofs.Signing.Binding
import Signoff.Proofs.Store.AppendOnly
import Signoff.Proofs.Store.Faithful
import Signoff.Proofs.Store.Laws
import Signoff.Proofs.Store.Trail
import Signoff.Proofs.Url.Host
import Signoff.Proofs.Url.Reference
