import ExprTree.Brotli
import ExprTree.Brotli.Code
import ExprTree.Brotli.Context
import ExprTree.Brotli.Dictionary
import ExprTree.Brotli.Words
import ExprTree.Builtin
import ExprTree.Builtin.Call
import ExprTree.CommandLine
import ExprTree.CommandLine.Evaluate
import ExprTree.CommandLine.Flag
import ExprTree.CommandLine.Level
import ExprTree.CommandLine.Serve
import ExprTree.Datum
import ExprTree.Deflate
import ExprTree.Deflate.Container
import ExprTree.Document
import ExprTree.Double
import ExprTree.Double.Bits
import ExprTree.Double.Decimal
import ExprTree.Double.Estimate
import ExprTree.Double.Power
import ExprTree.Double.Single
import ExprTree.Entries
import ExprTree.Eval
import ExprTree.Failure
import ExprTree.Http
import ExprTree.Http.Coding
import ExprTree.Json
import ExprTree.Json.Indent
import ExprTree.Json.Nesting
import ExprTree.Json.Parse
import ExprTree.Json.Token
import ExprTree.Main
import ExprTree.Node
import ExprTree.Node.Decode
import ExprTree.Node.Header
import ExprTree.Numeral
import ExprTree.Operator.Binary
import ExprTree.Operator.Unary
import ExprTree.Plain
import ExprTree.Proofs.Agreement
import ExprTree.Proofs.Arrangement
import ExprTree.Proofs.Base64
import ExprTree.Proofs.Bitwise
import ExprTree.Proofs.Brackets
import ExprTree.Proofs.CanonicalForm
import ExprTree.Proofs.Capabilities
import ExprTree.Proofs.Classification
import ExprTree.Proofs.CommandRequests
import ExprTree.Proofs.Complaints
import ExprTree.Proofs.Components
import ExprTree.Proofs.DecimalLiterals
import ExprTree.Proofs.DecimalRounding
import ExprTree.Proofs.Decode
import ExprTree.Proofs.DigitRounding
import ExprTree.Proofs.Documents
import ExprTree.Proofs.Entries
import ExprTree.Proofs.Equality
import ExprTree.Proofs.ErrorBodies
import ExprTree.Proofs.Extremes
import ExprTree.Proofs.Faults
import ExprTree.Proofs.FewestDigits
import ExprTree.Proofs.FirstInsertion
import ExprTree.Proofs.HalfUp
import ExprTree.Proofs.Handling
import ExprTree.Proofs.HeaderForms
import ExprTree.Proofs.HostCalls
import ExprTree.Proofs.HostDocuments
import ExprTree.Proofs.Indentation
import ExprTree.Proofs.IntegerPart
import ExprTree.Proofs.IntegerReader
import ExprTree.Proofs.IntegerText
import ExprTree.Proofs.Isolation
import ExprTree.Proofs.JsonMachine
import ExprTree.Proofs.JsonNumber
import ExprTree.Proofs.JsonToken
import ExprTree.Proofs.KeyOrder
import ExprTree.Proofs.Link
import ExprTree.Proofs.Machine
import ExprTree.Proofs.MessageFields
import ExprTree.Proofs.Messages
import ExprTree.Proofs.Mirror
import ExprTree.Proofs.MissingNodes
import ExprTree.Proofs.Nearest
import ExprTree.Proofs.NumberBits
import ExprTree.Proofs.NumberGrammar
import ExprTree.Proofs.NumberLayout
import ExprTree.Proofs.NumberOrder
import ExprTree.Proofs.NumberReaders
import ExprTree.Proofs.NumberText
import ExprTree.Proofs.OctetBoundaries
import ExprTree.Proofs.Places
import ExprTree.Proofs.Positions
import ExprTree.Proofs.RadixLiterals
import ExprTree.Proofs.Reachability
import ExprTree.Proofs.Regions
import ExprTree.Proofs.Registration
import ExprTree.Proofs.Relational
import ExprTree.Proofs.Respelling
import ExprTree.Proofs.RoundTrip
import ExprTree.Proofs.Rounding
import ExprTree.Proofs.Scoping
import ExprTree.Proofs.Shortest
import ExprTree.Proofs.Spelling
import ExprTree.Proofs.Substitution
import ExprTree.Proofs.Surfaces
import ExprTree.Proofs.TextFunctions
import ExprTree.Proofs.TextPlaces
import ExprTree.Proofs.TokenText
import ExprTree.Proofs.TreeForm
import ExprTree.Proofs.Utf8
import ExprTree.Proofs.Verdicts
import ExprTree.Proofs.WireForm
import ExprTree.Proofs.Writing
import ExprTree.Registry
import ExprTree.Request
import ExprTree.Rpc
import ExprTree.Scope
import ExprTree.Text.Base64
import ExprTree.Text.Distance
import ExprTree.Text.Escaped
import ExprTree.Text.Markup
import ExprTree.Text.Percent
import ExprTree.Text.Quoted
import ExprTree.Text.Space
import ExprTree.Text.Units
import ExprTree.Text.Utf8
import ExprTree.Value
import ExprTree.Value.Access
import ExprTree.Value.Convert
import ExprTree.Value.Equality
import ExprTree.Value.Member
import ExprTree.Value.Render
import ExprTree.Wire
import ExprTree.Wire.Codec
import ExprTree.Wire.Field
import ExprTree.Wire.Varint
import ExprTree.Yaml.Cursor
import ExprTree.Yaml.Node
import ExprTree.Yaml.Resolve
import ExprTree.Yaml.Scalar
import ExprTree.Yaml.Source
import ExprTree.Yaml.Stream
import ExprTree.Yaml.Token
