import Stencil.Archive.Gzip
import Stencil.Archive.Header
import Stencil.Archive.Inflate
import Stencil.Archive.Listing
import Stencil.Archive.Unpack
import Stencil.Classification
import Stencil.CommandLine.Arguments
import Stencil.CommandLine.Command
import Stencil.CommandLine.Run
import Stencil.Configuration
import Stencil.Console.Layout
import Stencil.Console.Markup
import Stencil.Console.Symbols
import Stencil.Console.Table
import Stencil.Data.Calendar
import Stencil.Data.Form
import Stencil.Data.Json.Reader
import Stencil.Data.Json.Writer
import Stencil.Data.Number
import Stencil.Data.Value
import Stencil.Data.Yaml.Cursor
import Stencil.Data.Yaml.Node
import Stencil.Data.Yaml.Reader
import Stencil.Data.Yaml.Scalar
import Stencil.Data.Yaml.Tag
import Stencil.Data.Yaml.Token
import Stencil.Data.Yaml.Tokens
import Stencil.Decimal.Binary64
import Stencil.Decimal.Layout
import Stencil.Decimal.Reader
import Stencil.Disk.Operations
import Stencil.Disk.Path
import Stencil.Disk.Tree
import Stencil.Disk.Walk
import Stencil.Gitlab.Calls
import Stencil.Gitlab.Client
import Stencil.Host
import Stencil.Host.Memory
import Stencil.Http
import Stencil.Http.Script
import Stencil.Log
import Stencil.Log.Journal
import Stencil.Main
import Stencil.Manifest
import Stencil.Materialize
import Stencil.Project.Naming
import Stencil.Project.Parameters
import Stencil.Project.Rename
import Stencil.Proofs.Archive.Answers
import Stencil.Proofs.Archive.Confinement
import Stencil.Proofs.Archive.Deposits
import Stencil.Proofs.Archive.Endings
import Stencil.Proofs.Archive.Stored
import Stencil.Proofs.Classification
import Stencil.Proofs.Data.Value
import Stencil.Proofs.Decimal.Binary64
import Stencil.Proofs.Disk.Appending
import Stencil.Proofs.Disk.Growth
import Stencil.Proofs.Disk.Listing
import Stencil.Proofs.Disk.Making
import Stencil.Proofs.Disk.Path
import Stencil.Proofs.Disk.Resolving
import Stencil.Proofs.Disk.Trees
import Stencil.Proofs.Disk.Walking
import Stencil.Proofs.Disk.Writing
import Stencil.Proofs.Gitlab.Addresses
import Stencil.Proofs.Gitlab.Downloads
import Stencil.Proofs.Gitlab.Handovers
import Stencil.Proofs.Gitlab.Pages
import Stencil.Proofs.Gitlab.Refusals
import Stencil.Proofs.Gitlab.Requests
import Stencil.Proofs.Manifest
import Stencil.Proofs.Manifest.Runs
import Stencil.Proofs.Materialize
import Stencil.Proofs.Materialize.Clashes
import Stencil.Proofs.Materialize.Exactness
import Stencil.Proofs.Materialize.RoundTrip
import Stencil.Proofs.Outcome
import Stencil.Proofs.Log.Bookkeeping
import Stencil.Proofs.Log.Journal
import Stencil.Proofs.Project.Dashes
import Stencil.Proofs.Project.Naming
import Stencil.Proofs.Project.Passes
import Stencil.Proofs.Project.Renaming
import Stencil.Proofs.Provision
import Stencil.Proofs.Provision.Account
import Stencil.Proofs.Retry
import Stencil.Proofs.Settings
import Stencil.Proofs.Template.Absorption
import Stencil.Proofs.Template.Agreement
import Stencil.Proofs.Template.Bookkeeping
import Stencil.Proofs.Template.Comments
import Stencil.Proofs.Template.Composition
import Stencil.Proofs.Template.Expression
import Stencil.Proofs.Template.Faults
import Stencil.Proofs.Template.Grammar
import Stencil.Proofs.Template.Interpreter
import Stencil.Proofs.Template.Nesting
import Stencil.Proofs.Template.Printing
import Stencil.Proofs.Template.Reading
import Stencil.Proofs.Template.Seam
import Stencil.Proofs.Template.Source
import Stencil.Proofs.Template.Verbatim
import Stencil.Proofs.Text.Base64
import Stencil.Proofs.Text.Digits
import Stencil.Proofs.Text.Escape
import Stencil.Proofs.Text.LetterCase
import Stencil.Proofs.Text.Lowered
import Stencil.Proofs.Text.Percent
import Stencil.Proofs.Text.Trim
import Stencil.Proofs.Text.Utf8
import Stencil.Proofs.Work
import Stencil.Provision
import Stencil.Retry
import Stencil.Settings.Basic
import Stencil.Settings.Check
import Stencil.Settings.Load
import Stencil.Template.Compile
import Stencil.Template.Cut
import Stencil.Template.Format
import Stencil.Template.Function
import Stencil.Template.Literal
import Stencil.Template.Page
import Stencil.Template.Render
import Stencil.Template.Statement
import Stencil.Template.Term
import Stencil.Template.Token
import Stencil.Template.Value
import Stencil.Text.Base64
import Stencil.Text.Blank
import Stencil.Text.CaseTable
import Stencil.Text.DecimalDigit
import Stencil.Text.Escape
import Stencil.Text.Hex
import Stencil.Text.LetterCase
import Stencil.Text.Percent
import Stencil.Text.Printable
import Stencil.Text.Quoted
import Stencil.Text.Ranges
import Stencil.Text.Utf8
import Stencil.Text.Whole
import Stencil.Text.Width
import Stencil.Work
import Stencil.Proofs.Settings.Rules
import Stencil.Proofs.Configuration.Overrides
import Stencil.Proofs.Configuration.Faults
import Stencil.Proofs.Template.Formats
import Stencil.Proofs.Template.Places
import Stencil.Proofs.Template.Literal
import Stencil.Proofs.Template.Tokens
import Stencil.Proofs.Console.Escape
import Stencil.Proofs.Disk.Laying
import Stencil.Proofs.Disk.Obstacles
import Stencil.Proofs.CommandLine.Rendering
import Stencil.Proofs.CommandLine.AllOrNothing
import Stencil.Proofs.Log.Bookkeeping
import Stencil.Proofs.Console.Literal
import Stencil.Proofs.Console.Rows
import Stencil.Proofs.CommandLine.Tables
