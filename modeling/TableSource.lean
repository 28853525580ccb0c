import TableSource.Main
import TableSource.Proofs.Filter.WellFormed
import TableSource.Source.Session
import TableSource.Proofs.Replication.History
import TableSource.Proofs.Replication.Phase
import TableSource.Proofs.Replication.Conservation
import TableSource.Proofs.Statement.Shape
import TableSource.Proofs.Statement.Independence
import TableSource.Proofs.Replication.Settling
import TableSource.Proofs.Replication.Attempts
import TableSource.Proofs.Replication.Notices
import TableSource.Proofs.Statement.Grammar
import TableSource.Proofs.Statement.Meaning
import TableSource.Proofs.Statement.ReadBack
import TableSource.Proofs.Raw.Decoded
import TableSource.Proofs.Statement.Places
import TableSource.Proofs.Cell.RoundTrip
import TableSource.Proofs.Filter.Requests
import TableSource.Proofs.Statement.Findable
import TableSource.Proofs.Database.Balance
import TableSource.Proofs.Database.Holding
import TableSource.Proofs.Credentials
import TableSource.Proofs.Http.Gate
import TableSource.Proofs.Replication.Restart
import TableSource.Proofs.Source.Transactions
import TableSource.Proofs.Number.FloatText
import TableSource.Proofs.Raw.JsonTokens
import TableSource.Proofs.Raw.JsonRoundTrip
import TableSource.Proofs.Store.Instances
import TableSource.Proofs.Http.Streaming
import TableSource.Proofs.Statement.LiteralMatching
import TableSource.Proofs.Schema.Numbering
import TableSource.Proofs.Settings.FieldTypes
import TableSource.Proofs.Raw.Texts
import TableSource.Proofs.Cell.Totality
import TableSource.Proofs.Filter.Refusals
import TableSource.Proofs.Text.Lowercase
import TableSource.Proofs.Store.NominalValues
import TableSource.Proofs.Slices
import TableSource.Proofs.Store.Chunking
import TableSource.Proofs.Store.Querying
import TableSource.Proofs.Replication.Draining
import TableSource.Proofs.Number.Precision
import TableSource.Proofs.Number.IntegerText
import TableSource.Proofs.Cell.NumberTruth
import TableSource.Proofs.Time.EpochMillis
import TableSource.Proofs.Filter.Survivors
import TableSource.Proofs.Time.LocalZones
import TableSource.Proofs.Time.Offsets
import TableSource.Proofs.Filter.DepthBound
import TableSource.Proofs.Number.WholeText
import TableSource.Proofs.Schema.Projections
import TableSource.Proofs.Time.DigitClocks
import TableSource.Proofs.Cell.IntegerSpellings
import TableSource.Proofs.Statement.Paging
import TableSource.Proofs.Http.Paging
import TableSource.Proofs.Settings.Assignments
import TableSource.Proofs.Settings.Precedence
import TableSource.Proofs.Schema.Lookups
import TableSource.Proofs.Text.Trimming
