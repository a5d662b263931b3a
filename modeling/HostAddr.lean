import HostAddr.Text.Blank
import HostAddr.Text.WordChar
import HostAddr.Text.CaseFold
import HostAddr.Text.Split
import HostAddr.Address.Parse
import HostAddr.Address.Endpoint
import HostAddr.Address.Scope
import HostAddr.Registry
import HostAddr.Interface
import HostAddr.Attribute
import HostAddr.Host
import HostAddr.Route
import HostAddr.Template.Value
import HostAddr.Template.Function
import HostAddr.Template.Token
import HostAddr.Template.Node
import HostAddr.Template.Fault
import HostAddr.Template.Format
import HostAddr.Template.Scan
import HostAddr.Template.Grammar
import HostAddr.Template.Apply
import HostAddr.Template.Eval
import HostAddr.Template.Render
import HostAddr.CommandLine.Run
import HostAddr.Runtime
import HostAddr.Main
import HostAddr.Proofs.Outcome
import HostAddr.Proofs.PipeReading
import HostAddr.Proofs.TreeReading
import HostAddr.Proofs.FunctionFaults
import HostAddr.Proofs.NodeRuns
import HostAddr.Proofs.VariableRuns
import HostAddr.Proofs.TreeOutline
import HostAddr.Proofs.SteeredRuns
import HostAddr.Proofs.TemplateVariables
import HostAddr.Proofs.VariableChanges
import HostAddr.Proofs.BlockScoping
import HostAddr.Proofs.SequentialRuns
import HostAddr.Proofs.TextReading
import HostAddr.Proofs.PlainGrammar
import HostAddr.Proofs.AddressGrammar
import HostAddr.Proofs.PlainReading
import HostAddr.Proofs.AddressReading
import HostAddr.Proofs.AddressFamilies
import HostAddr.Proofs.FilterReading
import HostAddr.Proofs.AddressIdentity
import HostAddr.Proofs.StableSort
import HostAddr.Proofs.RecordSort
import HostAddr.Proofs.DistinctRecords
import HostAddr.Proofs.TokenReading
import HostAddr.Proofs.ItemReading
import HostAddr.Proofs.CommentReading
import HostAddr.Proofs.NestedNetworks
import HostAddr.Proofs.AddressScope
import HostAddr.Proofs.AddressBlocks
import HostAddr.Proofs.UsableAddresses
import HostAddr.Proofs.DefaultAddresses
import HostAddr.Proofs.NestedPipes
import HostAddr.Proofs.QuotedText
import HostAddr.Proofs.WrittenPipelines
import HostAddr.Proofs.NamedCalls
import HostAddr.Proofs.NamedRuns
import HostAddr.Proofs.SpeltSources
import HostAddr.Proofs.ListingOrder
import HostAddr.Proofs.Invocations
import HostAddr.Proofs.MachineRows
import HostAddr.Proofs.Batches
import HostAddr.Proofs.FramedOutput
import HostAddr.Proofs.Classification
import HostAddr.Proofs.PublicAddresses
import HostAddr.Proofs.FilterSplits
import HostAddr.Proofs.FilterAlternatives
import HostAddr.Proofs.SortLaws
import HostAddr.Proofs.AttributeNames
import HostAddr.Proofs.SocketTargets
import HostAddr.Proofs.AddressViews
import HostAddr.Proofs.ElseChains
import HostAddr.Proofs.QuotedOutput
import HostAddr.Proofs.FormattedOutput
import HostAddr.Proofs.Comparisons
import HostAddr.Proofs.RangeSplits
import HostAddr.Proofs.LineReading
import HostAddr.Proofs.RouteLookup
import HostAddr.Proofs.RecordRuns
