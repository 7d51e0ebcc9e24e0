import GrantKeeper.Main
import GrantKeeper.Policy.Edit
import GrantKeeper.Sample
import GrantKeeper.Text.Template
import GrantKeeper.Proofs.Json.Sorting
import GrantKeeper.Proofs.Json.Fields
import GrantKeeper.Proofs.Policy.Content
import GrantKeeper.Proofs.Policy.Grants
import GrantKeeper.Proofs.Policy.Codec
import GrantKeeper.Proofs.Policy.Canonical
import GrantKeeper.Proofs.Cycle.Logic
import GrantKeeper.Proofs.Cycle.Verbs
import GrantKeeper.Proofs.Resource.Declared
import GrantKeeper.Proofs.Storage.Contended
import GrantKeeper.Proofs.Storage.Witnessed
import GrantKeeper.Proofs.Storage.Alone
import GrantKeeper.Proofs.Storage.Convergence
import GrantKeeper.Proofs.Storage.Order
import GrantKeeper.Proofs.Storage.Interleaving
import GrantKeeper.Proofs.Json.Resorting
import GrantKeeper.Proofs.Cycle.Exchanges
import GrantKeeper.Proofs.Cycle.Gated
import GrantKeeper.Proofs.Json.KeySets
import GrantKeeper.Proofs.Policy.Rereading
import GrantKeeper.Proofs.Storage.Reported
import GrantKeeper.Proofs.Storage.Returned
import GrantKeeper.Proofs.Storage.Timely
import GrantKeeper.Proofs.Storage.Uncommitted
import GrantKeeper.Proofs.Cycle.Transcript
import GrantKeeper.Proofs.Storage.Accounted
import GrantKeeper.Proofs.Cycle.Noted
import GrantKeeper.Proofs.Resource.Readiness
import GrantKeeper.Proofs.Cycle.Alike
import GrantKeeper.Proofs.Storage.Stopped
import GrantKeeper.Proofs.CommandLine.Agreement
import GrantKeeper.Proofs.Storage.Civil
import GrantKeeper.Proofs.CommandLine.Escapes
import GrantKeeper.Proofs.Policy.Payloads
import GrantKeeper.Proofs.Storage.Disciplined
import GrantKeeper.Proofs.Policy.Amendments
import GrantKeeper.Proofs.Policy.Edited
import GrantKeeper.Proofs.Storage.Trail
import GrantKeeper.Proofs.Resource.Conditions
import GrantKeeper.Proofs.Resource.Availability
import GrantKeeper.Proofs.Storage.Budget
import GrantKeeper.Proofs.Fault.Steps
import GrantKeeper.Proofs.Schema
import GrantKeeper.Proofs.Config.Projects
import GrantKeeper.Proofs.Config.Explicit
import GrantKeeper.Proofs.Resource.Grammar
import GrantKeeper.Proofs.Resource.Assignments
