import TypedCalls.Arena.Alternatives
import TypedCalls.Catalogue.Verify
import TypedCalls.Datum.Numeral
import TypedCalls.Prim.OfDatum
import TypedCalls.Session.Run
import TypedCalls.Proofs.Traversal
import TypedCalls.Proofs.Request
import TypedCalls.Proofs.Structure
import TypedCalls.Proofs.Resolution
import TypedCalls.Proofs.Totality
import TypedCalls.Proofs.Numbering
import TypedCalls.Proofs.Isolation
import TypedCalls.Proofs.Embedding
import TypedCalls.Proofs.Permanence
import TypedCalls.Proofs.Verdict
import TypedCalls.Proofs.Erasure
import TypedCalls.Proofs.Limit
import TypedCalls.Proofs.Consistency
import TypedCalls.Proofs.Supertypes
import TypedCalls.Proofs.Relocation
import TypedCalls.Proofs.Aliasing
import TypedCalls.Proofs.Matching
import TypedCalls.Proofs.ResultRange
import TypedCalls.Proofs.Narrowing
import TypedCalls.Proofs.Reordering
import TypedCalls.Proofs.Recognition
import TypedCalls.Proofs.Routes
import TypedCalls.Proofs.Singletons
import TypedCalls.Proofs.Spelling
import TypedCalls.Proofs.Readability
import TypedCalls.Proofs.SharedSlots
import TypedCalls.Proofs.Rewording
import TypedCalls.Proofs.Search
import TypedCalls.Proofs.Schema
import TypedCalls.Proofs.Segments
