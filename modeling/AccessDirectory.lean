import AccessDirectory.Audit.Record
import AccessDirectory.Audit.Store
import AccessDirectory.Audit.Trail
import AccessDirectory.Clock
import AccessDirectory.CommandLine.Arguments
import AccessDirectory.CommandLine.Plan
import AccessDirectory.Config.FilePath
import AccessDirectory.Config.FileTree
import AccessDirectory.Config.Secret
import AccessDirectory.Config.Server
import AccessDirectory.Config.Settings
import AccessDirectory.Demo
import AccessDirectory.Directory
import AccessDirectory.Event
import AccessDirectory.Failure
import AccessDirectory.Hash.Hmac
import AccessDirectory.Hash.Sha256
import AccessDirectory.Http.Address
import AccessDirectory.Http.Application
import AccessDirectory.Http.Argument
import AccessDirectory.Http.Gate
import AccessDirectory.Http.HostName
import AccessDirectory.Http.Message
import AccessDirectory.Http.Pattern
import AccessDirectory.Http.Problem
import AccessDirectory.Http.Reference
import AccessDirectory.Http.Route
import AccessDirectory.Http.Start
import AccessDirectory.Http.Target
import AccessDirectory.Http.Variable
import AccessDirectory.Json.Basic
import AccessDirectory.Json.Display
import AccessDirectory.Json.Reader
import AccessDirectory.Json.Writer
import AccessDirectory.Kind
import AccessDirectory.Listener
import AccessDirectory.Log
import AccessDirectory.Main
import AccessDirectory.Membership
import AccessDirectory.Number.Binary64
import AccessDirectory.Number.Shortest
import AccessDirectory.Object
import AccessDirectory.Patch
import AccessDirectory.Permission
import AccessDirectory.Proofs.Audit.Commitment
import AccessDirectory.Proofs.Audit.Recording
import AccessDirectory.Proofs.Audit.Signature
import AccessDirectory.Proofs.Audit.Verification
import AccessDirectory.Proofs.Config.Loading
import AccessDirectory.Proofs.Directory.Changes
import AccessDirectory.Proofs.Directory.Desk
import AccessDirectory.Proofs.Directory.Locality
import AccessDirectory.Proofs.Directory.Numbering
import AccessDirectory.Proofs.Directory.Presence
import AccessDirectory.Proofs.Failing
import AccessDirectory.Proofs.Http.Admission
import AccessDirectory.Proofs.Http.Atomicity
import AccessDirectory.Proofs.Http.Discretion
import AccessDirectory.Proofs.Http.Escape
import AccessDirectory.Proofs.Http.Likeness
import AccessDirectory.Proofs.Http.Locator
import AccessDirectory.Proofs.Http.Retrieval
import AccessDirectory.Proofs.Json.Canonical
import AccessDirectory.Proofs.Json.Controls
import AccessDirectory.Proofs.Json.RoundTrip
import AccessDirectory.Proofs.Json.Texts
import AccessDirectory.Proofs.Membership.Closure
import AccessDirectory.Proofs.Membership.Pursuit
import AccessDirectory.Proofs.Number.Milliseconds
import AccessDirectory.Proofs.Number.Rounding
import AccessDirectory.Proofs.Number.Whole
import AccessDirectory.Proofs.Permission.Grant
import AccessDirectory.Proofs.Permission.History
import AccessDirectory.Proofs.Permission.Naming
import AccessDirectory.Proofs.Representation.Activity
import AccessDirectory.Proofs.Representation.Amendment
import AccessDirectory.Proofs.Representation.Creation
import AccessDirectory.Proofs.Representation.Item
import AccessDirectory.Proofs.Representation.Reading
import AccessDirectory.Proofs.Representation.Revision
import AccessDirectory.Proofs.Representation.Shape
import AccessDirectory.Proofs.Secrecy.Likeness
import AccessDirectory.Proofs.Secrecy.Redaction
import AccessDirectory.Proofs.Secrecy.Transcript
import AccessDirectory.Proofs.Service.Act
import AccessDirectory.Proofs.Service.Alternation
import AccessDirectory.Proofs.Service.Amendment
import AccessDirectory.Proofs.Service.Atomicity
import AccessDirectory.Proofs.Service.Authorship
import AccessDirectory.Proofs.Service.Batch
import AccessDirectory.Proofs.Service.Dispatch
import AccessDirectory.Proofs.Service.Entitlement
import AccessDirectory.Proofs.Service.Independence
import AccessDirectory.Proofs.Service.Lasting
import AccessDirectory.Proofs.Service.Listing
import AccessDirectory.Proofs.Service.Locality
import AccessDirectory.Proofs.Service.Outcome
import AccessDirectory.Proofs.Service.Precedence
import AccessDirectory.Proofs.Service.Privilege
import AccessDirectory.Proofs.Service.Provenance
import AccessDirectory.Proofs.Service.Quiet
import AccessDirectory.Proofs.Service.Rejection
import AccessDirectory.Proofs.Service.Replay
import AccessDirectory.Proofs.Service.Staleness
import AccessDirectory.Proofs.Service.Translation
import AccessDirectory.Proofs.Service.Upkeep
import AccessDirectory.Proofs.Text.Base64Url
import AccessDirectory.Proofs.Text.Blank
import AccessDirectory.Proofs.Text.Lines
import AccessDirectory.Proofs.Text.Percent
import AccessDirectory.Proofs.Text.Utf8
import AccessDirectory.Proofs.Token.Lifetime
import AccessDirectory.Proofs.Token.Validation
import AccessDirectory.Representation
import AccessDirectory.Service.Collection
import AccessDirectory.Service.Opened
import AccessDirectory.Service.Run
import AccessDirectory.Service.World
import AccessDirectory.Table
import AccessDirectory.Text.Base64Url
import AccessDirectory.Text.Blank
import AccessDirectory.Text.CodePoint
import AccessDirectory.Text.Compatible
import AccessDirectory.Text.Composition
import AccessDirectory.Text.Digit
import AccessDirectory.Text.Direction
import AccessDirectory.Text.Encoding
import AccessDirectory.Text.Hex
import AccessDirectory.Text.LetterCase
import AccessDirectory.Text.Line
import AccessDirectory.Text.Parts
import AccessDirectory.Text.Percent
import AccessDirectory.Text.Printable
import AccessDirectory.Text.Punycode
import AccessDirectory.Text.Quoted
import AccessDirectory.Text.Real
import AccessDirectory.Text.Utf8
import AccessDirectory.Text.Word
import AccessDirectory.Token.Form
import AccessDirectory.Token.Key
import AccessDirectory.Token.Validity
import AccessDirectory.Proofs.Service.Creation
import AccessDirectory.Proofs.Service.Resubmission
import AccessDirectory.Proofs.Service.Removal
