import RowMapper.Config
import RowMapper.Record.Storing
import RowMapper.Registry
import RowMapper.Proofs.Sql.BoundText
import RowMapper.Proofs.Sql.PlainName
import RowMapper.Proofs.Sql.Rendering
import RowMapper.Proofs.Sql.Splitting
import RowMapper.Proofs.Sql.FoundBinds
import RowMapper.Proofs.Query.Comparison
import RowMapper.Proofs.Query.StatementLayout
import RowMapper.Proofs.Query.StatementLabel
import RowMapper.Proofs.Query.SoughtValue
import RowMapper.Proofs.Query.DistinctReads
import RowMapper.Proofs.Run
import RowMapper.Proofs.Sending
import RowMapper.Proofs.Writing
import RowMapper.Proofs.TableSafety
import RowMapper.Proofs.KeyAssignment
import RowMapper.Proofs.KeyAddress
import RowMapper.Proofs.Request
import RowMapper.Proofs.SingleStatement
import RowMapper.Proofs.Accounting
import RowMapper.Proofs.Loading
import RowMapper.Proofs.ModifyTime
import RowMapper.Proofs.SaveAndLoad
import RowMapper.Proofs.Schema.DeclaredTable
import RowMapper.Proofs.Schema.Refusal
import RowMapper.Proofs.Schema.SameSignature
import RowMapper.Proofs.Schema.TableDefinition
import RowMapper.Proofs.Schema.QuotedDefinition
import RowMapper.Proofs.Schema.DefinedNames
import RowMapper.Proofs.Schema.AcceptedNames
import RowMapper.Proofs.Schema.AcceptedTypes
import RowMapper.Proofs.Schema.FirstRefusal
import RowMapper.Proofs.Schema.CreatedTable
import RowMapper.Proofs.Schema.ColumnClauses
import RowMapper.Proofs.Schema.DefaultMeaning
import RowMapper.Proofs.Schema.DeclarationForms
import RowMapper.Proofs.RegistryCourse
import RowMapper.Proofs.ValueIndependence
import RowMapper.Proofs.InsertedRow
import RowMapper.Proofs.UpdateByKey
import RowMapper.Proofs.UpdateReport
import RowMapper.Proofs.EmptyCondition
import RowMapper.Proofs.Text.WordBoundary
import RowMapper.Proofs.Instances
import RowMapper.Proofs.RecordLookups
