import Blueprint.Cli.Arguments
import Blueprint.Cli.Run
import Blueprint.Client.Application
import Blueprint.Client.BusinessObject
import Blueprint.Client.Component
import Blueprint.Client.FormGroup
import Blueprint.Client.Page
import Blueprint.Client.Routes
import Blueprint.Verbatim.Client
import Blueprint.Client.View
import Blueprint.Markup.Imports
import Blueprint.ClientCode.Source
import Blueprint.Config.Settings
import Blueprint.Config.Yaml
import Blueprint.Decimal.Double
import Blueprint.Design.Unit
import Blueprint.Design.Check
import Blueprint.Design.Grammar
import Blueprint.Design.Options
import Blueprint.Design.Token
import Blueprint.Generation.Engine
import Blueprint.Generation.Generator
import Blueprint.Generators
import Blueprint.Host
import Blueprint.Json.Basic
import Blueprint.Json.Reader
import Blueprint.Registry
import Blueprint.Main
import Blueprint.Markup.Blocks
import Blueprint.Markup.Scanner
import Blueprint.Message
import Blueprint.Naming
import Blueprint.OrderedMap
import Blueprint.Records.Memory
import Blueprint.Records.Query
import Blueprint.Records.Relational
import Blueprint.Records.Value
import Blueprint.Resolve.Behavior
import Blueprint.Resolve.Relationship
import Blueprint.Resolve.Mixin
import Blueprint.RoutePath
import Blueprint.ScalarType
import Blueprint.Server.AppBehavior
import Blueprint.Server.Behavior
import Blueprint.Server.BusinessObject
import Blueprint.Server.DataSource
import Blueprint.Server.Package
import Blueprint.Server.Route
import Blueprint.Verbatim.Server
import Blueprint.Server.Schema
import Blueprint.Server.Startup
import Blueprint.ServerCode.Module
import Blueprint.ServerCode.ExprGrammar
import Blueprint.ServerCode.Grammar
import Blueprint.ServerCode.Literal
import Blueprint.ServerCode.Persistence
import Blueprint.ServerCode.Printer
import Blueprint.ServerCode.QuotedText
import Blueprint.ServerCode.Token
import Blueprint.ServerCode.Tree
import Blueprint.Service.Log
import Blueprint.Service.Response
import Blueprint.Step
import Blueprint.Template.Render
import Blueprint.Template.Value
import Blueprint.Text.Lines
import Blueprint.Text.Case
import Blueprint.Text.CharTables
import Blueprint.Text.Quoted
import Blueprint.Text.Replace
import Blueprint.UnitGraph.Basic
import Blueprint.Validation
import Blueprint.Proofs.Distinct
import Blueprint.Proofs.Markup.BlockConversion
import Blueprint.Proofs.ServerCode.Editing
import Blueprint.Proofs.ServerCode.Imports
import Blueprint.Proofs.Server.Splicing
import Blueprint.Proofs.Server.Lifecycle
import Blueprint.Proofs.Server.BehaviorMethods
import Blueprint.Proofs.Resolve.Associations
import Blueprint.Proofs.Resolve.Merging
import Blueprint.Proofs.Server.Tables
import Blueprint.Proofs.Server.TableModule
import Blueprint.Proofs.Server.ForeignKeys
import Blueprint.Proofs.Server.ColumnTypes
import Blueprint.Proofs.Server.Annotations
import Blueprint.Proofs.Client.Fields
import Blueprint.Proofs.ClientCode.Importing
import Blueprint.Proofs.Client.EntityImports
import Blueprint.Proofs.Generation.Sites
import Blueprint.Proofs.Generation.Results
import Blueprint.Proofs.Generation.Isolation
import Blueprint.Proofs.Generation.Triggering
import Blueprint.Proofs.Naming
import Blueprint.Proofs.Server.Endpoints
import Blueprint.Proofs.Client.RemoteCalls
import Blueprint.Proofs.Client.BehaviorPieces
import Blueprint.Proofs.Generation.Skipping
import Blueprint.Proofs.Generation.Completion
import Blueprint.Proofs.Generation.ModulePaths
import Blueprint.Proofs.Client.ViewImports
import Blueprint.Proofs.Server.ModuleImports
import Blueprint.Proofs.Generation.WrittenCode
import Blueprint.Proofs.Generation.HeldFiles
import Blueprint.Proofs.Design.Names
import Blueprint.Proofs.Generation.ServerClosure
import Blueprint.Proofs.Generation.ClientClosure
import Blueprint.Proofs.Generation.AllGenerators
import Blueprint.Proofs.Generation.ImportClosure
import Blueprint.Proofs.Generation.UnresolvedEntities
import Blueprint.Proofs.Generation.ServerAgreement
import Blueprint.Proofs.Resolve.UnrelatedEntity
import Blueprint.Proofs.Generation.UnrelatedEntities
import Blueprint.Proofs.Generation.FilePlaces
import Blueprint.Proofs.Generation.Overwriting
import Blueprint.Proofs.Registry.Loading
import Blueprint.Proofs.Registry.Precedence
import Blueprint.Proofs.UnitGraph.DrawnEdges
import Blueprint.Proofs.UnitGraph.Shape
import Blueprint.Proofs.UnitGraph.ViewEdges
import Blueprint.Proofs.ServerCode.ImportCalls
import Blueprint.Proofs.Markup.KeptSymbols
import Blueprint.Proofs.Generation.Listing
import Blueprint.Proofs.Records.Sameness
import Blueprint.Proofs.Records.Refinement
import Blueprint.Proofs.Records.Identities
import Blueprint.Proofs.Client.RouteParameters
import Blueprint.Proofs.Resolve.Resolution
import Blueprint.Proofs.Client.RouteOrder
import Blueprint.Proofs.Records.Arrangement
import Blueprint.Proofs.Design.SectionOrder
import Blueprint.Proofs.Design.QuotedOptions
import Blueprint.Proofs.Server.MethodNames
import Blueprint.Proofs.Markup.PipeChains
import Blueprint.Proofs.Markup.SelectorParts
import Blueprint.Proofs.Server.EndpointOrder
import Blueprint.Proofs.ServerCode.Placeholders
import Blueprint.Proofs.Records.Paging
import Blueprint.Proofs.Server.StartupCalls
import Blueprint.Proofs.Generation.RouterMounts
import Blueprint.Proofs.ClientCode.ImportMerging
import Blueprint.Proofs.Server.PackageTexts
import Blueprint.Proofs.ClientCode.TextLiterals
import Blueprint.Proofs.Server.Defaults
import Blueprint.Proofs.Naming.WordBoundaries
import Blueprint.Proofs.Naming.StableCase
import Blueprint.Proofs.Markup.NotClauses
