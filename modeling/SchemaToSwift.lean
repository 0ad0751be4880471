import SchemaToSwift.Block.Render
import SchemaToSwift.CommandLine.Logging
import SchemaToSwift.Main
import SchemaToSwift.Proofs.Batch.Fault
import SchemaToSwift.Proofs.Batch.FullPath
import SchemaToSwift.Proofs.CommandLine.Confinement
import SchemaToSwift.Proofs.Emit.EnumSwitch
import SchemaToSwift.Proofs.Emit.Header
import SchemaToSwift.Proofs.Emit.Session
import SchemaToSwift.Proofs.Emit.StoredProperties
import SchemaToSwift.Proofs.FileName.Decomposition
import SchemaToSwift.Proofs.Imports.Lines
import SchemaToSwift.Proofs.Names.Foreign
import SchemaToSwift.Proofs.Names.Legal
import SchemaToSwift.Proofs.Names.LegalExtensions
import SchemaToSwift.Proofs.Names.RegistryName
import SchemaToSwift.Proofs.Names.ValuePrefix
import SchemaToSwift.Proofs.Outcome.Composition
import SchemaToSwift.Proofs.Outcome.Extensions
import SchemaToSwift.Proofs.Outcome.FieldNames
import SchemaToSwift.Proofs.Outcome.Foundation
import SchemaToSwift.Proofs.Outcome.Literals
import SchemaToSwift.Proofs.Outcome.Profiles
import SchemaToSwift.Proofs.Outcome.ProtoNames
import SchemaToSwift.Proofs.Printer.Script
import SchemaToSwift.Proofs.Schema.Comment
import SchemaToSwift.Proofs.Schema.Decode
import SchemaToSwift.Proofs.Schema.Shape
import SchemaToSwift.Proofs.Settings.Escapes
import SchemaToSwift.Proofs.Settings.Loaded
import SchemaToSwift.Proofs.Settings.ModuleTable
import SchemaToSwift.Proofs.Settings.RoundTrip
import SchemaToSwift.Proofs.Settings.Written
import SchemaToSwift.Proofs.Swift.PackagePrefix
import SchemaToSwift.Proofs.Swift.SnakeCase
