import HttpProbe.Text.Blank
import HttpProbe.Text.Utf8
import HttpProbe.Text.Search
import HttpProbe.Text.Case
import HttpProbe.Decimal.Layout
import HttpProbe.Decimal.Reading
import HttpProbe.Text.Quoted
import HttpProbe.Scalar
import HttpProbe.Unicode.Fold
import HttpProbe.Regex.Match
import HttpProbe.Chance
import HttpProbe.Expression.Eval
import HttpProbe.Http.Response
import HttpProbe.Pool
import HttpProbe.Environment.Evaluation
import HttpProbe.Extraction
import HttpProbe.Rule
import HttpProbe.Lending
import HttpProbe.Document.Definition
import HttpProbe.Client
import HttpProbe.Document.Config
import HttpProbe.Folder.Basic
import HttpProbe.Folder.Loading
import HttpProbe.Engine
import HttpProbe.Fleet
import HttpProbe.Proofs.Recycling
import HttpProbe.Proofs.Entries
import HttpProbe.Proofs.Exits
import HttpProbe.Proofs.Balance
import HttpProbe.Proofs.Exchanges
import HttpProbe.Proofs.Accounts
import HttpProbe.Proofs.Sights
import HttpProbe.Proofs.Chain
import HttpProbe.Proofs.Drawing
import HttpProbe.Proofs.Course
import HttpProbe.Proofs.Settled
import HttpProbe.Proofs.Likeness
import HttpProbe.Proofs.Fleets
import HttpProbe.Proofs.Pooling
import HttpProbe.Proofs.Disjunction
import HttpProbe.Proofs.Keeping
import HttpProbe.Proofs.Writing
import HttpProbe.Proofs.Isolation
import HttpProbe.Proofs.Reading
import HttpProbe.Proofs.Outcome
import HttpProbe.Proofs.Disturbance
import HttpProbe.Proofs.GroupOrder
import HttpProbe.Proofs.Placeholders
import HttpProbe.Proofs.Enumeration
import HttpProbe.Proofs.Verdicts
import HttpProbe.Proofs.Moments
import HttpProbe.Proofs.Captures
import HttpProbe.Proofs.Visible
import HttpProbe.Proofs.Compiling
import HttpProbe.Proofs.Words
import HttpProbe.Proofs.Seeding
import HttpProbe.Proofs.Searching
import HttpProbe.Proofs.Filling
import HttpProbe.Proofs.Loans
import HttpProbe.Proofs.Refusals
import HttpProbe.Proofs.Bindings
import HttpProbe.Proofs.Octets
import HttpProbe.Proofs.Obstacles
import HttpProbe.Proofs.Paths
import HttpProbe.Proofs.Patterns
import HttpProbe.Proofs.Listing
import HttpProbe.Proofs.Decoding
import HttpProbe.Proofs.Drafts
import HttpProbe.Proofs.Acceptance
import HttpProbe.Proofs.Joining
import HttpProbe.Proofs.Retention
import HttpProbe.Proofs.Lowering
