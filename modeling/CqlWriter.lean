import CqlWriter.Command.Line
import CqlWriter.Command.Needs
import CqlWriter.Command.Render
import CqlWriter.Command.Run
import CqlWriter.Command.Session
import CqlWriter.Command.Values
import CqlWriter.Document.Build
import CqlWriter.Document.Entry
import CqlWriter.Document.Operand
import CqlWriter.Document.Problem
import CqlWriter.Fault
import CqlWriter.Files.Folder
import CqlWriter.Files.Path
import CqlWriter.Host
import CqlWriter.Json.Layout
import CqlWriter.Json.Quoted
import CqlWriter.Log.Level
import CqlWriter.Log.Logger
import CqlWriter.Log.Record
import CqlWriter.Main
import CqlWriter.Number.Binary64
import CqlWriter.Number.Integer
import CqlWriter.Number.Notation
import CqlWriter.Number.Shortest
import CqlWriter.Proofs.AliasCounting
import CqlWriter.Proofs.AliasReading
import CqlWriter.Proofs.AliasTransparency
import CqlWriter.Proofs.AssignmentOrder
import CqlWriter.Proofs.ColumnIdentity
import CqlWriter.Proofs.Decoding
import CqlWriter.Proofs.EntryNumbers
import CqlWriter.Proofs.ExpandedNodes
import CqlWriter.Proofs.FaultChains
import CqlWriter.Proofs.FileValues
import CqlWriter.Proofs.IdentifierOrder
import CqlWriter.Proofs.IdentifierSearch
import CqlWriter.Proofs.IndexColumns
import CqlWriter.Proofs.InsertText
import CqlWriter.Proofs.IntegerSpellings
import CqlWriter.Proofs.JsonReading
import CqlWriter.Proofs.Loading
import CqlWriter.Proofs.LogSetup
import CqlWriter.Proofs.LowerCase
import CqlWriter.Proofs.MissingNames
import CqlWriter.Proofs.Names
import CqlWriter.Proofs.NumberLiterals
import CqlWriter.Proofs.OperandGrammar
import CqlWriter.Proofs.OperandMaking
import CqlWriter.Proofs.OperandReading
import CqlWriter.Proofs.OrderlyDocuments
import CqlWriter.Proofs.PartedReadings
import CqlWriter.Proofs.PlainEntries
import CqlWriter.Proofs.PrintedSettings
import CqlWriter.Proofs.Printing
import CqlWriter.Proofs.QuotedNames
import CqlWriter.Proofs.Reading
import CqlWriter.Proofs.ReadingCosts
import CqlWriter.Proofs.ReadingFailures
import CqlWriter.Proofs.RefusedEntries
import CqlWriter.Proofs.RenderedFormats
import CqlWriter.Proofs.Results
import CqlWriter.Proofs.Rounding
import CqlWriter.Proofs.SchemaText
import CqlWriter.Proofs.Separators
import CqlWriter.Proofs.ShortestDigits
import CqlWriter.Proofs.SingleAlteration
import CqlWriter.Proofs.Soundness
import CqlWriter.Proofs.StoredSettings
import CqlWriter.Proofs.Text
import CqlWriter.Proofs.UnquotedText
import CqlWriter.Proofs.ValueEntries
import CqlWriter.Proofs.ValueLookup
import CqlWriter.Proofs.ValueReports
import CqlWriter.Proofs.WalkOrder
import CqlWriter.Proofs.WideIntegers
import CqlWriter.Proofs.WrittenNames
import CqlWriter.Settings.ConfigFile
import CqlWriter.Settings.Effective
import CqlWriter.Settings.Flag
import CqlWriter.Settings.Handling
import CqlWriter.Settings.JsonTable
import CqlWriter.Settings.Logging
import CqlWriter.Settings.Store
import CqlWriter.Settings.Table
import CqlWriter.Settings.Value
import CqlWriter.Settings.YamlTable
import CqlWriter.Statement.AlterTable
import CqlWriter.Statement.Basic
import CqlWriter.Statement.Column
import CqlWriter.Statement.CreateIndex
import CqlWriter.Statement.Identifier
import CqlWriter.Statement.Insert
import CqlWriter.Statement.Node
import CqlWriter.Statement.Operand
import CqlWriter.Statement.TableName
import CqlWriter.Statement.ValueMap
import CqlWriter.Text.Base64
import CqlWriter.Text.Basic
import CqlWriter.Text.Fields
import CqlWriter.Text.Glyph
import CqlWriter.Text.LowerCase
import CqlWriter.Text.Printable
import CqlWriter.Text.Quoted
import CqlWriter.Text.Variables
import CqlWriter.Text.Words
import CqlWriter.Timestamp
import CqlWriter.Yaml.BlockScalar
import CqlWriter.Yaml.Character
import CqlWriter.Yaml.Comment
import CqlWriter.Yaml.Decode
import CqlWriter.Yaml.Encoding
import CqlWriter.Yaml.Failure
import CqlWriter.Yaml.FlowScalar
import CqlWriter.Yaml.Folding
import CqlWriter.Yaml.Node
import CqlWriter.Yaml.Printer
import CqlWriter.Yaml.Scalar
import CqlWriter.Yaml.Scanner
import CqlWriter.Yaml.Source
import CqlWriter.Yaml.Token
