import QueryMethods.Inspect
import QueryMethods.Interface.Registry
import QueryMethods.Sample.Adapters
import QueryMethods.Sample.Shop
import QueryMethods.Scripted
import QueryMethods.Proofs.Database.Paths
import QueryMethods.Proofs.Database.FirstFailure
import QueryMethods.Proofs.Execution.Cases
import QueryMethods.Proofs.Database.Handles
import QueryMethods.Proofs.Execution.Closing
import QueryMethods.Proofs.Execution.Outcome
import QueryMethods.Proofs.Result
import QueryMethods.Proofs.Sql.Markers
import QueryMethods.Proofs.Template.Segments
import QueryMethods.Proofs.Template.Layout
import QueryMethods.Proofs.Template.Order
import QueryMethods.Proofs.Method.Numbering
import QueryMethods.Proofs.Method.Compiled
import QueryMethods.Proofs.Method.Slots
import QueryMethods.Proofs.Database.Clean
import QueryMethods.Proofs.Execution.Slots
import QueryMethods.Proofs.Method.Shape
import QueryMethods.Proofs.Template.Placeholders
import QueryMethods.Proofs.Template.Unrolling
import QueryMethods.Proofs.Method.Selects
import QueryMethods.Proofs.Execution.Selects
import QueryMethods.Proofs.Method.Unrolling
import QueryMethods.Proofs.Execution.Unrolling
import QueryMethods.Proofs.Text.Blank
import QueryMethods.Proofs.Template.Spelling
import QueryMethods.Proofs.Template.Reading
import QueryMethods.Proofs.Template.Grammar
import QueryMethods.Proofs.Database.Served
import QueryMethods.Proofs.Database.Statement
import QueryMethods.Proofs.Execution.Bindings
import QueryMethods.Proofs.Paging
import QueryMethods.Proofs.Paging.Roles
import QueryMethods.Proofs.Execution.Markers
import QueryMethods.Proofs.Method.Batches
import QueryMethods.Proofs.Execution.Batches
import QueryMethods.Proofs.Coercion
import QueryMethods.Proofs.Method.Resolved
import QueryMethods.Proofs.Method.Tags
import QueryMethods.Proofs.Database.Meets
import QueryMethods.Proofs.Method.Returns
import QueryMethods.Proofs.Execution.Returns
import QueryMethods.Proofs.Method.Results
import QueryMethods.Proofs.Method.Complete
import QueryMethods.Proofs.Execution.Complete
import QueryMethods.Proofs.Bean.Fields
import QueryMethods.Proofs.Method.Mirrored
import QueryMethods.Proofs.Database.Answers
import QueryMethods.Proofs.Execution.Restoring
import QueryMethods.Proofs.Execution.Rows
import QueryMethods.Proofs.Execution.ReadBack
import QueryMethods.Proofs.Interface.Registrations
import QueryMethods.Proofs.Interface.Histories
import QueryMethods.Proofs.Interface.Cache
import QueryMethods.Proofs.Interface.Pages
import QueryMethods.Proofs.Bean.Writing
import QueryMethods.Proofs.Execution.Assembly
import QueryMethods.Proofs.Bean.Reading
import QueryMethods.Proofs.Execution.BeanParameters
import QueryMethods.Proofs.Execution.FieldParameters
import QueryMethods.Proofs.Execution.Refusals
import QueryMethods.Proofs.Method.Constructors
import QueryMethods.Proofs.Execution.Constructors
import QueryMethods.Proofs.Method.Columns
import QueryMethods.Proofs.Database.Reads
import QueryMethods.Proofs.Execution.Columns
import QueryMethods.Proofs.Host.Order
import QueryMethods.Proofs.Execution.Cursor
import QueryMethods.Proofs.Execution.Collecting
import QueryMethods.Proofs.Execution.Marshalling
import QueryMethods.Proofs.Bean.Commuting
import QueryMethods.Proofs.Method.Reordered
import QueryMethods.Proofs.Execution.Reordered
import QueryMethods.Proofs.Sql.Replacing
import QueryMethods.Proofs.Template.Brackets
import QueryMethods.Proofs.Method.Nulls
import QueryMethods.Proofs.Execution.Untagged
import QueryMethods.Proofs.Coercion.Lossless
import QueryMethods.Proofs.Execution.Alignment
import QueryMethods.Proofs.Text.Bytes
import QueryMethods.Proofs.Template.Slices
import QueryMethods.Proofs.Template.Cursor
import QueryMethods.Proofs.Template.Scanning
import QueryMethods.Proofs.Template.Safety
