import Sparql.Session.Script
import Sparql.Settings.Load
import Sparql.Proofs.Session.Given
import Sparql.Proofs.Session.Memo
import Sparql.Proofs.Session.Writable
import Sparql.Proofs.Session.ReadBack
import Sparql.Proofs.Session.Atomic
import Sparql.Proofs.Exchange.Attempts
import Sparql.Proofs.Results.Agreement
import Sparql.Proofs.Exchange.FormData
import Sparql.Proofs.Exchange.Parameters
import Sparql.Proofs.Exchange.Prologue
import Sparql.Proofs.Session.Detection
import Sparql.Proofs.Session.Graphs
import Sparql.Proofs.Session.Edits
import Sparql.Proofs.Session.Interchange
import Sparql.Proofs.Session.Refusal
import Sparql.Proofs.Session.Reordering
import Sparql.Proofs.Update.Determined
import Sparql.Proofs.Session.Attached
import Sparql.Proofs.Session.Ledger
import Sparql.Proofs.Session.Sharing
import Sparql.Proofs.Term.Quoting
import Sparql.Proofs.Settings.Containment
import Sparql.Proofs.Exchange.Keyword
import Sparql.Proofs.Results.TabularTable
import Sparql.Proofs.Results.XmlComment
import Sparql.Proofs.Session.Slice
import Sparql.Proofs.Session.Distinct
import Sparql.Proofs.Session.Filters
import Sparql.Proofs.Query.CacheKey
import Sparql.Proofs.Session.Branches
import Sparql.Proofs.Session.Shapes
import Sparql.Proofs.Session.Shown
import Sparql.Proofs.Exchange.Headers
import Sparql.Proofs.Term.VariableName
import Sparql.Proofs.Results.Lookup
import Sparql.Proofs.Settings.Usable
import Sparql.Proofs.Results.Quads
import Sparql.Proofs.Session.EmptyGroup
import Sparql.Proofs.Session.GraphNames
import Sparql.Proofs.Update.PatternText
