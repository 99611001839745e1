import FluentSql.Model.Catalog
import FluentSql.Session
import FluentSql.Proofs.Fluent
import FluentSql.Proofs.Run
import FluentSql.Proofs.Sound
import FluentSql.Proofs.History
import FluentSql.Proofs.Request
import FluentSql.Proofs.Alignment
import FluentSql.Proofs.Noninterference
import FluentSql.Proofs.Faithful
import FluentSql.Proofs.Injection
import FluentSql.Proofs.Echo
import FluentSql.Proofs.SqliteSyntax
import FluentSql.Proofs.Footprint
import FluentSql.Proofs.Exchange
import FluentSql.Builder.Family
import FluentSql.Proofs.Independence
import FluentSql.Proofs.Insertion
import FluentSql.Proofs.Refusal
import FluentSql.Proofs.PoolLife
import FluentSql.Proofs.TaskLife
import FluentSql.Proofs.ColumnShape
import FluentSql.Proofs.JsonBinding
import FluentSql.Proofs.JsonDecoding
import FluentSql.Proofs.StoredText
import FluentSql.Proofs.Renumbering
import FluentSql.Proofs.Interleaving
import FluentSql.Builder.Application
import FluentSql.Proofs.Registrations
import FluentSql.Proofs.Keywords
import FluentSql.Proofs.Counting
