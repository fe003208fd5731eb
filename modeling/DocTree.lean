import DocTree.Document.Read
import DocTree.Document.Sanitize
import DocTree.Document.Update
import DocTree.Json.Printer
import DocTree.Json.Reader
import DocTree.Matcher
import DocTree.Path.Check
import DocTree.Proofs.Document.Addresses
import DocTree.Proofs.Document.Congruence
import DocTree.Proofs.Document.Detection
import DocTree.Proofs.Document.FirstFault
import DocTree.Proofs.Document.NormalForm
import DocTree.Proofs.Document.Reorder
import DocTree.Proofs.Document.Reports
import DocTree.Proofs.Document.RunInvariants
import DocTree.Proofs.Document.Runs
import DocTree.Proofs.Document.Slot
import DocTree.Proofs.Document.SparseArray
import DocTree.Proofs.Document.StoredReads
import DocTree.Proofs.Document.WriteLaws
import DocTree.Proofs.Number.SafeInteger
import DocTree.Proofs.Path.Index
import DocTree.Proofs.Path.Text
import DocTree.Proofs.Value.Alike
import DocTree.Proofs.Value.Equality
import DocTree.Proofs.Value.Interchangeable
import DocTree.Proofs.Value.JsonForm
import DocTree.Proofs.Value.JsonRoundTrip
import DocTree.Value.Copy
import DocTree.Value.Equality
import DocTree.Value.Inspect
import DocTree.Value.Json
