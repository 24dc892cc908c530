import SafeMigration.Cli.Arguments
import SafeMigration.Cli.Invocation
import SafeMigration.Cli.Log
import SafeMigration.Cli.Run
import SafeMigration.Compile.Commit
import SafeMigration.Compile.Compiler
import SafeMigration.Compile.Discovery
import SafeMigration.Compile.Report
import SafeMigration.Compile.Status
import SafeMigration.Config
import SafeMigration.Decimal.Binary64
import SafeMigration.Decimal.Numeral
import SafeMigration.Decimal.Shortest
import SafeMigration.Digest.Basic
import SafeMigration.Digest.Sha256
import SafeMigration.Direction
import SafeMigration.Disk.Access
import SafeMigration.Disk.Basic
import SafeMigration.Error
import SafeMigration.Instruction.Basic
import SafeMigration.Instruction.Call
import SafeMigration.Instruction.Typed
import SafeMigration.InstructionSet
import SafeMigration.Json.Number
import SafeMigration.Json.Reader
import SafeMigration.Json.Shape
import SafeMigration.Json.Value
import SafeMigration.Json.Writer
import SafeMigration.Lock
import SafeMigration.Lockfile.Basic
import SafeMigration.Lockfile.Ledger
import SafeMigration.Main
import SafeMigration.Migration
import SafeMigration.Naming
import SafeMigration.Operation
import SafeMigration.Path
import SafeMigration.Reading
import SafeMigration.Recorder
import SafeMigration.Registry
import SafeMigration.Schema.Column
import SafeMigration.Schema.ColumnType
import SafeMigration.Schema.DefaultValue
import SafeMigration.Script.Basic
import SafeMigration.Script.Renderer
import SafeMigration.Script.Statement
import SafeMigration.Source
import SafeMigration.Template
import SafeMigration.Text.Blank
import SafeMigration.Text.Chars
import SafeMigration.Text.Hidden
import SafeMigration.Text.Order
import SafeMigration.Timeout.Basic
import SafeMigration.Timeout.Policy
import SafeMigration.Validation.Rules
import SafeMigration.Validation.Validator
import SafeMigration.Validation.Verdict
import SafeMigration.Violation
import SafeMigration.Yaml.Cursor
import SafeMigration.Yaml.Lexer
import SafeMigration.Yaml.Meaning
import SafeMigration.Yaml.Node
import SafeMigration.Yaml.Part
import SafeMigration.Yaml.ScalarText
import SafeMigration.Yaml.Shape
import SafeMigration.Yaml.Tag
import SafeMigration.Yaml.Token
import SafeMigration.Yaml.Tree
import SafeMigration.Yaml.Value
import SafeMigration.Yaml.Vocabulary
import SafeMigration.Proofs.Failure
import SafeMigration.Proofs.Entries
import SafeMigration.Proofs.Json.ReadBack
import SafeMigration.Proofs.Json.Shape
import SafeMigration.Proofs.Lockfile.ReadBack
import SafeMigration.Proofs.Path
import SafeMigration.Proofs.Schema.TypeName
import SafeMigration.Proofs.Disk.Place
import SafeMigration.Proofs.Disk.Change
import SafeMigration.Proofs.Disk.Directories
import SafeMigration.Proofs.Disk.Deposit
import SafeMigration.Proofs.Disk.Opened
import SafeMigration.Proofs.Disk.Beside
import SafeMigration.Proofs.Instruction.Written
import SafeMigration.Proofs.Instruction.Called
import SafeMigration.Proofs.Recorder
import SafeMigration.Proofs.Template
import SafeMigration.Proofs.Migration
import SafeMigration.Proofs.Session
import SafeMigration.Proofs.Validation.Rules
import SafeMigration.Proofs.Validation.Accepted
import SafeMigration.Proofs.Requests
import SafeMigration.Proofs.Validation.Report
import SafeMigration.Proofs.Instruction.FreeForm
import SafeMigration.Proofs.Script.Section
import SafeMigration.Proofs.Script.Setting
import SafeMigration.Proofs.Script.AddedColumn
import SafeMigration.Proofs.Script.Lexeme
import SafeMigration.Proofs.Script.Spelling
import SafeMigration.Proofs.Script.Mentions
import SafeMigration.Proofs.Script.Quoting
import SafeMigration.Proofs.Compile.Results
import SafeMigration.Proofs.Compile.Errors
import SafeMigration.Proofs.Compile.Batch
import SafeMigration.Proofs.Lockfile.Save
import SafeMigration.Proofs.Lockfile.Reload
import SafeMigration.Proofs.Compile.Commit
import SafeMigration.Proofs.Compile.Run
import SafeMigration.Proofs.Compile.Frame
import SafeMigration.Proofs.Compile.History
import SafeMigration.Proofs.Compile.Incremental
import SafeMigration.Proofs.Compile.Alarm
import SafeMigration.Proofs.Compile.Interrupt
import SafeMigration.Proofs.Compile.Redo
import SafeMigration.Proofs.Compile.Recovery
import SafeMigration.Proofs.Compile.Repeat
import SafeMigration.Proofs.Compile.Tampering
import SafeMigration.Proofs.Compile.Prediction
import SafeMigration.Proofs.Compile.Claimants
import SafeMigration.Proofs.Compile.Outlook
import SafeMigration.Proofs.Compile.Scopes
import SafeMigration.Proofs.Compile.Overlay
import SafeMigration.Proofs.Compile.Orders
import SafeMigration.Proofs.Script.Header
import SafeMigration.Proofs.Validation.Defaults
import SafeMigration.Proofs.Validation.Verdict
import SafeMigration.Proofs.Validation.Rearranged
import SafeMigration.Proofs.Naming
import SafeMigration.Proofs.Schema.TypeParameters
import SafeMigration.Proofs.Script.DroppedIndex
import SafeMigration.Proofs.Decimal.Rounding
import SafeMigration.Proofs.Decimal.Shortest
import SafeMigration.Proofs.Json.Around
import SafeMigration.Proofs.Script.WrittenDefault
