import ClientGen.Main
import ClientGen.Proofs.Reading
import ClientGen.Proofs.Schema.Form
import ClientGen.Proofs.Schema.Rules
import ClientGen.Proofs.Sameness
import ClientGen.Proofs.Running
import ClientGen.Proofs.Plugin.Coherence
import ClientGen.Proofs.Plugin.Ownership
import ClientGen.Proofs.Agreement
import ClientGen.Proofs.Operation.Agreement
import ClientGen.Proofs.PlainReading
import ClientGen.Proofs.Generation.Module
import ClientGen.Proofs.Generation.Names
import ClientGen.Proofs.Generation.Operations
import ClientGen.Proofs.Operation.Annotations
import ClientGen.Proofs.Generation.References
import ClientGen.Proofs.Schema.Meaning
import ClientGen.Proofs.Schema.Copies
import ClientGen.Proofs.Schema.Soundness
import ClientGen.Proofs.Schema.Agreement
import ClientGen.Proofs.Generation.Agreement
import ClientGen.Proofs.Plugin.Trace
import ClientGen.Proofs.Plugin.Protocol
import ClientGen.Proofs.Plugin.Inertness
import ClientGen.Proofs.Plugin.FailStop
import ClientGen.Proofs.Disk.AtomicWrite
import ClientGen.Proofs.Plugin.Output
import ClientGen.Proofs.Terminal.Verbatim
import ClientGen.Proofs.Command.Failure
import ClientGen.Proofs.Json.Numerals
import ClientGen.Proofs.Text.Utf8
import ClientGen.Proofs.Source.Loading
import ClientGen.Proofs.Operation.Signature
import ClientGen.Proofs.Settings.Precedence
import ClientGen.Proofs.Settings.Independence
import ClientGen.Proofs.Plugin.Usability
import ClientGen.Proofs.Plugin.Quarantine
import ClientGen.Proofs.TypeName
import ClientGen.Proofs.Generation.Banner
import ClientGen.Proofs.Plugin.Authenticity
import ClientGen.Proofs.Schema.EditedConversion
import ClientGen.Proofs.SnakeCase
import ClientGen.Proofs.Generation.FunctionNames
import ClientGen.Proofs.Disk.Promise
import ClientGen.Proofs.Operation.ReturnType
import ClientGen.Proofs.Reference.Pointer
import ClientGen.Proofs.Reference.Index
import ClientGen.Proofs.Operation.Media
import ClientGen.Proofs.Operation.Merging
import ClientGen.Proofs.Reference.Chain
import ClientGen.Proofs.Schema.Budget
import ClientGen.Proofs.Schema.Nullability
import ClientGen.Proofs.Schema.Recorded
import ClientGen.Proofs.Schema.Termination
import ClientGen.Proofs.Servers.Template
import ClientGen.Proofs.Servers.Entries
import ClientGen.Proofs.Number.Rounding
import ClientGen.Proofs.Literal.Reader
import ClientGen.Proofs.Number.Shortest
import ClientGen.Proofs.Literal.Numerals
import ClientGen.Proofs.Literal.Texts
import ClientGen.Proofs.Literal.Plain
import ClientGen.Proofs.Literal.ReadBack
import ClientGen.Proofs.Literal.Head
