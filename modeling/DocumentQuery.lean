import DocumentQuery.Wire.Native
import DocumentQuery.Query
import DocumentQuery.Pipeline.Equality
import DocumentQuery.Execution.Workload
import DocumentQuery.Proofs.DriverStep
import DocumentQuery.Proofs.Session
import DocumentQuery.Proofs.Observed
import DocumentQuery.Proofs.Reference
import DocumentQuery.Proofs.FirstSignal
import DocumentQuery.Proofs.Abandonment
import DocumentQuery.Proofs.Pace
import DocumentQuery.Proofs.Completion
import DocumentQuery.Proofs.Arrangement
import DocumentQuery.Proofs.Base64
import DocumentQuery.Proofs.Rfc3339
import DocumentQuery.Proofs.DocumentRoundTrip
import DocumentQuery.Proofs.FilterMeaning
import DocumentQuery.Proofs.QueryStages
import DocumentQuery.Proofs.ExpressionWire
import DocumentQuery.Proofs.PipelineWire
import DocumentQuery.Proofs.ShortestDigits
import DocumentQuery.Proofs.NumberText
import DocumentQuery.Proofs.QuotedText
import DocumentQuery.Proofs.DocumentText
import DocumentQuery.Proofs.CanonicalText
import DocumentQuery.Proofs.ExpressionForms
import DocumentQuery.Proofs.Acceptance
import DocumentQuery.Proofs.BuiltStages
import DocumentQuery.Proofs.Conservation
import DocumentQuery.Proofs.ResourceNames
import DocumentQuery.Proofs.Journal
import DocumentQuery.Proofs.LogNeutrality
import DocumentQuery.Proofs.Endings
import DocumentQuery.Proofs.LateSignals
import DocumentQuery.Proofs.DriverLog
import DocumentQuery.Proofs.LogProtocol
import DocumentQuery.Proofs.Operands
import DocumentQuery.Proofs.OutputNames
import DocumentQuery.Proofs.Cursors
import DocumentQuery.Proofs.EqualPipelines
import DocumentQuery.Proofs.PageSettings
import DocumentQuery.Proofs.PathGrammar
import DocumentQuery.Proofs.NativeValues
import DocumentQuery.Proofs.PlainDocuments
import DocumentQuery.Proofs.RowIdentity
import DocumentQuery.Proofs.ColumnOrder
import DocumentQuery.Proofs.LogLines
import DocumentQuery.Proofs.FieldLookup
import DocumentQuery.Proofs.LongerTexts
import DocumentQuery.Proofs.ObjectText
import DocumentQuery.Proofs.ConfigText
