import Gazetteer.Latch
import Gazetteer.Main
import Gazetteer.Proofs.Sql.Template
import Gazetteer.Proofs.Sql.Inlining
import Gazetteer.Proofs.Sql.Cut
import Gazetteer.Proofs.Sql.Spelling
import Gazetteer.Proofs.Query.Clauses
import Gazetteer.Proofs.Query.Statement
import Gazetteer.Proofs.Query.Injection
import Gazetteer.Proofs.Query.Binding
import Gazetteer.Proofs.Query.Shape
import Gazetteer.Proofs.Sql.Formula
import Gazetteer.Proofs.Sql.Reading
import Gazetteer.Proofs.Sql.Comparison
import Gazetteer.Proofs.Query.Meaning
import Gazetteer.Proofs.Query.Selection
import Gazetteer.Proofs.Query.Paging
import Gazetteer.Proofs.Datasette.Failure
import Gazetteer.Proofs.Entity.Rows
import Gazetteer.Proofs.Search.Protocol
import Gazetteer.Proofs.Database.Basic
import Gazetteer.Proofs.Database.Answer
import Gazetteer.Proofs.Search.Walk
import Gazetteer.Proofs.Text.Utf8
import Gazetteer.Proofs.Datasette.Attempts
import Gazetteer.Proofs.Filter.Normal
import Gazetteer.Proofs.Query.Single
import Gazetteer.Proofs.Http.Gate
import Gazetteer.Proofs.Text.Form
import Gazetteer.Proofs.Filter.Held
import Gazetteer.Proofs.Http.Parameters
import Gazetteer.Proofs.Http.Reordering
import Gazetteer.Proofs.Http.Replay
import Gazetteer.Proofs.Datasette.Carriage
import Gazetteer.Proofs.Datasette.Destination
import Gazetteer.Proofs.Entity.Table
import Gazetteer.Proofs.Search.Preview
import Gazetteer.Proofs.Configuration.Layering
import Gazetteer.Proofs.Latch.History
import Gazetteer.Proofs.Latch.Invariant
import Gazetteer.Proofs.Latch.Runs
import Gazetteer.Proofs.Entity.Geometry
import Gazetteer.Proofs.Calendar.Order
import Gazetteer.Proofs.Calendar.Reading
import Gazetteer.Proofs.Coordinate.Point
import Gazetteer.Proofs.Coordinate.Fixed
import Gazetteer.Proofs.Entity.Range
import Gazetteer.Proofs.Entity.Counts
import Gazetteer.Proofs.Retry.Loop
import Gazetteer.Proofs.Datasette.Waits
import Gazetteer.Proofs.Files.Home
