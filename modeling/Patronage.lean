import Patronage.Calendar.Date
import Patronage.Calendar.Moment
import Patronage.Calendar.Text
import Patronage.Catalog
import Patronage.Credential.Issuer
import Patronage.Credential.Request
import Patronage.Data.Assoc
import Patronage.Data.Value
import Patronage.Digest.Sha2
import Patronage.Fault
import Patronage.Identifier
import Patronage.Ledger
import Patronage.Log.Audit
import Patronage.Log.Event
import Patronage.Log.Sink
import Patronage.Manager.Operations
import Patronage.Manager.Program
import Patronage.Number.Binary64
import Patronage.Number.Shortest
import Patronage.Period
import Patronage.Processor.Emulator
import Patronage.Processor.Registry
import Patronage.Processor.Report
import Patronage.Proofs.Agreement
import Patronage.Proofs.Attachment
import Patronage.Proofs.Authority
import Patronage.Proofs.Change
import Patronage.Proofs.Classified
import Patronage.Proofs.Conduct
import Patronage.Proofs.Deletion
import Patronage.Proofs.Entitlement
import Patronage.Proofs.Expiry
import Patronage.Proofs.Failure
import Patronage.Proofs.Footprint
import Patronage.Proofs.Isolation
import Patronage.Proofs.Lapse
import Patronage.Proofs.Likeness
import Patronage.Proofs.Likeness.Processor
import Patronage.Proofs.Likeness.Program
import Patronage.Proofs.Likeness.Session
import Patronage.Proofs.Likeness.World
import Patronage.Proofs.Linkage
import Patronage.Proofs.Naming
import Patronage.Proofs.Payment
import Patronage.Proofs.Processing
import Patronage.Proofs.Records
import Patronage.Proofs.Redemption
import Patronage.Proofs.Renewal
import Patronage.Proofs.Rounding
import Patronage.Proofs.Schedule
import Patronage.Proofs.Serial
import Patronage.Proofs.Shift
import Patronage.Proofs.Single
import Patronage.Proofs.Spelling
import Patronage.Proofs.Standing
import Patronage.Proofs.Transcript
import Patronage.Proofs.Trial
import Patronage.Schema.Field
import Patronage.Schema.Issue
import Patronage.Schema.Key
import Patronage.Settings.Basic
import Patronage.Settings.Check
import Patronage.Settings.File
import Patronage.Settings.Shipped
import Patronage.Signature.Ed25519
import Patronage.Subscriber.Record
import Patronage.Subscriber.Store
import Patronage.Text.Blank
import Patronage.Text.Case
import Patronage.Text.Case.Table
import Patronage.Text.Decimal
import Patronage.Text.Digit
import Patronage.Text.Hex
import Patronage.Text.Numeral
import Patronage.Text.Split
import Patronage.Text.Utf8
import Patronage.World
import Patronage.Yaml.Cursor
import Patronage.Yaml.Document
import Patronage.Yaml.Node
import Patronage.Yaml.Scalar
import Patronage.Yaml.Tag
import Patronage.Yaml.Token
import Patronage.Yaml.Token.Block
import Patronage.Yaml.Token.Name
import Patronage.Yaml.Token.Plain
import Patronage.Yaml.Token.Quoted
import Patronage.Yaml.Token.Stream
import Patronage.Proofs.Renaming
import Patronage.Proofs.Instants
import Patronage.Proofs.Issuance
import Patronage.Proofs.Rounding.Order
import Patronage.Proofs.Cycle
import Patronage.Proofs.Billing
import Patronage.Proofs.Idempotence
import Patronage.Proofs.Refusal
import Patronage.Proofs.Codec
import Patronage.Proofs.Midnight
import Patronage.Proofs.Lowering
import Patronage.Proofs.Pricing
import Patronage.Proofs.Transition
import Patronage.Proofs.Repetition
import Patronage.Proofs.Recasing
import Patronage.Proofs.Grammar
import Patronage.Proofs.Durations
import Patronage.Proofs.Reading
import Patronage.Proofs.Reported
import Patronage.Listing
import Patronage.Proofs.Reload
import Patronage.Proofs.Inscription
import Patronage.Proofs.History
import Patronage.Proofs.Replay
import Patronage.Proofs.Nesting
import Patronage.Proofs.PriceList
