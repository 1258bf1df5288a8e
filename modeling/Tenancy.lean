import Tenancy.Context.Desk
import Tenancy.Environment.File
import Tenancy.Failure.Report
import Tenancy.Mail.Sender
import Tenancy.Request
import Tenancy.Scene
import Tenancy.Telemetry.Entry
import Tenancy.Proofs.Config.Loading
import Tenancy.Proofs.Context.Derivation
import Tenancy.Proofs.Context.Desk
import Tenancy.Proofs.Context.Race
import Tenancy.Proofs.Json.Records
import Tenancy.Proofs.Mail.Classification
import Tenancy.Proofs.Mail.Link
import Tenancy.Proofs.Mail.Recipients
import Tenancy.Proofs.Monitoring.Health
import Tenancy.Proofs.Operation.Requirements
import Tenancy.Proofs.Operation.Verdict
import Tenancy.Proofs.Record.IdText
import Tenancy.Proofs.Record.Validity
import Tenancy.Proofs.Request.Annotation
import Tenancy.Proofs.Request.Caps
import Tenancy.Proofs.Request.Envelope
import Tenancy.Proofs.Request.Escalation
import Tenancy.Proofs.Request.Expiry
import Tenancy.Proofs.Request.Idle
import Tenancy.Proofs.Request.Outsiders
import Tenancy.Proofs.Request.Overshoot
import Tenancy.Proofs.Request.Removal
import Tenancy.Proofs.Request.Rollback
import Tenancy.Proofs.Request.Seal
import Tenancy.Proofs.Request.Tracing
import Tenancy.Proofs.Request.Updates
import Tenancy.Proofs.Request.Validity
import Tenancy.Proofs.Template.Completeness
import Tenancy.Proofs.Template.Markup
