import Lexicon.Base64
import Lexicon.Command.Arguments
import Lexicon.Command.Config
import Lexicon.Command.Execution
import Lexicon.Command.FileTree
import Lexicon.Entries
import Lexicon.Format.Basic
import Lexicon.Format.Check
import Lexicon.Format.Datetime
import Lexicon.Format.DomainName
import Lexicon.Format.IpAddress
import Lexicon.Format.Punycode
import Lexicon.Format.Uri
import Lexicon.Generation.Declaration
import Lexicon.Generation.DocType
import Lexicon.Generation.FileSet
import Lexicon.Generation.Generator
import Lexicon.Generation.Index
import Lexicon.Generation.Inline
import Lexicon.Generation.Mapping
import Lexicon.Generation.OutputPath
import Lexicon.Generation.SourceModule
import Lexicon.Generation.Stubs
import Lexicon.Generation.TypeMapper
import Lexicon.Identifier.Label
import Lexicon.Identifier.Nsid
import Lexicon.Identifier.Reference
import Lexicon.Json.Basic
import Lexicon.Json.Parser
import Lexicon.Json.Printer
import Lexicon.Main
import Lexicon.Naming.Case
import Lexicon.Naming.Keyword
import Lexicon.Naming.Layout
import Lexicon.Naming.Plural
import Lexicon.Number.Binary64
import Lexicon.Number.Shortest
import Lexicon.Proofs.AccessorTexts
import Lexicon.Proofs.Accumulation
import Lexicon.Proofs.BackingFiles
import Lexicon.Proofs.Boxing
import Lexicon.Proofs.CaseConversions
import Lexicon.Proofs.Causes
import Lexicon.Proofs.CommentLines
import Lexicon.Proofs.CompletedRuns
import Lexicon.Proofs.Conformance
import Lexicon.Proofs.ContainedWrites
import Lexicon.Proofs.Declarations
import Lexicon.Proofs.DefinitionFaults
import Lexicon.Proofs.DefinitionPasses
import Lexicon.Proofs.Dependencies
import Lexicon.Proofs.DocumentRoundTrip
import Lexicon.Proofs.Documentation
import Lexicon.Proofs.Entries
import Lexicon.Proofs.EntryPoints
import Lexicon.Proofs.FailFast
import Lexicon.Proofs.FieldAgreement
import Lexicon.Proofs.FieldIdentifiers
import Lexicon.Proofs.FieldValidation
import Lexicon.Proofs.FindingOrigins
import Lexicon.Proofs.FindingPlaces
import Lexicon.Proofs.FirstOccurrences
import Lexicon.Proofs.FormedReferences
import Lexicon.Proofs.GeneratedReading
import Lexicon.Proofs.GeneratedSource
import Lexicon.Proofs.GenerationRuns
import Lexicon.Proofs.HopBudget
import Lexicon.Proofs.IndependentDefinitions
import Lexicon.Proofs.JsonReading
import Lexicon.Proofs.KeptModules
import Lexicon.Proofs.KeyFaults
import Lexicon.Proofs.KnownKeys
import Lexicon.Proofs.LeafReading
import Lexicon.Proofs.LeafVerdicts
import Lexicon.Proofs.LineTexts
import Lexicon.Proofs.LookupAgreement
import Lexicon.Proofs.MemberOrder
import Lexicon.Proofs.MethodNames
import Lexicon.Proofs.ModeNesting
import Lexicon.Proofs.ModuleNames
import Lexicon.Proofs.ModuleTree
import Lexicon.Proofs.NameScope
import Lexicon.Proofs.NamedStructs
import Lexicon.Proofs.NodeFaults
import Lexicon.Proofs.NormalReferences
import Lexicon.Proofs.NsidCharacters
import Lexicon.Proofs.NsidGrammar
import Lexicon.Proofs.NsidText
import Lexicon.Proofs.OptionComparison
import Lexicon.Proofs.OutputFiles
import Lexicon.Proofs.ParsedDocuments
import Lexicon.Proofs.PathTexts
import Lexicon.Proofs.Plurals
import Lexicon.Proofs.Reachability
import Lexicon.Proofs.ReaderTyping
import Lexicon.Proofs.Recursion
import Lexicon.Proofs.References
import Lexicon.Proofs.Registries
import Lexicon.Proofs.RegistryAttachment
import Lexicon.Proofs.RelativeFindings
import Lexicon.Proofs.Results
import Lexicon.Proofs.RunReports
import Lexicon.Proofs.SilentSource
import Lexicon.Proofs.Singulars
import Lexicon.Proofs.SourceLines
import Lexicon.Proofs.StructTargets
import Lexicon.Proofs.Tags
import Lexicon.Proofs.TemplateText
import Lexicon.Proofs.TextLines
import Lexicon.Proofs.TextMarks
import Lexicon.Proofs.Transparency
import Lexicon.Proofs.TypeNames
import Lexicon.Proofs.TypeParsing
import Lexicon.Proofs.TypeRoundTrip
import Lexicon.Proofs.Undescribed
import Lexicon.Proofs.UnionResolution
import Lexicon.Proofs.UnreadKeys
import Lexicon.Proofs.ValidatedReading
import Lexicon.Proofs.ValidatorConformance
import Lexicon.Proofs.Walk
import Lexicon.Proofs.WellFormed
import Lexicon.Proofs.WrittenKeys
import Lexicon.Reading.Error
import Lexicon.Reading.Reader
import Lexicon.Reading.Shape
import Lexicon.Schema.Definition
import Lexicon.Schema.Document
import Lexicon.Schema.Error
import Lexicon.Schema.Fields
import Lexicon.Schema.Parser
import Lexicon.Schema.Printer
import Lexicon.Schema.Registry
import Lexicon.Schema.TypeNode
import Lexicon.Schema.Union
import Lexicon.Settings
import Lexicon.Sorted
import Lexicon.Template.Basic
import Lexicon.Template.Helper
import Lexicon.Template.Parser
import Lexicon.Template.Render
import Lexicon.Template.Tag
import Lexicon.Text.Ascii
import Lexicon.Text.Quoted
import Lexicon.Text.Record
import Lexicon.Text.Split
import Lexicon.Text.Trim
import Lexicon.Text.Utf8
import Lexicon.Unicode.Bidi
import Lexicon.Unicode.CaseMap
import Lexicon.Unicode.Composition
import Lexicon.Unicode.Grapheme
import Lexicon.Unicode.GraphemeBreak
import Lexicon.Unicode.HostMapping
import Lexicon.Unicode.Joining
import Lexicon.Unicode.MappingTable
import Lexicon.Unicode.Normalization
import Lexicon.Unicode.Properties
import Lexicon.Unicode.RangeSet
import Lexicon.Validation.Finding
import Lexicon.Validation.Leaf
import Lexicon.Validation.Options
import Lexicon.Validation.Resolution
import Lexicon.Validation.Service
import Lexicon.Validation.Validator
import Lexicon.Yaml.Basic
import Lexicon.Yaml.Parser
import Lexicon.Yaml.Scan
