import Tenancy.Failure
import Tenancy.Json.Basic
import Tenancy.Labels

/-!
# Failures in reports

A failure is reported with the codes of the links of its chain, its text, and the rules that were broken, where that is
what went wrong. The text in a report leaves out the links that are not worded here, so that it does not depend on how they are.
-/

namespace Tenancy

/-- Kinds of failure are known by codes. -/
instance : Labelled ErrorKind where
  all := [.noLogger, .noTracer, .noPermissionRepository, .noUserRepository, .noOrganizationRepository,
    .noLicenseRepository, .noLicenseService, .noPermissionService, .noEmailService, .noMailClient,
    .noTemplateRenderer, .noLicense, .noVersionInfo, .noResources, .noUser, .noPermission, .invalidId,
    .invalidEmail, .invalidUser, .invalidOrganization, .invalidPermission, .invalidPagination, .noPatchData,
    .userCreate, .userGet, .userGetAll, .userUpdate, .userDelete, .organizationCreate, .organizationGet,
    .organizationGetAll, .organizationUpdate, .organizationDelete, .organizationAddMember,
    .organizationGetMembers, .organizationRemoveMember, .organizationInvite, .permissionCreate,
    .permissionDelete, .emailSend, .licenseGet, .licenseInvalid, .quotaInvalid, .quotaUsageGet, .quotaExceeded,
    .systemHealthCheck]
  label
    | .noLogger => "NoLogger"
    | .noTracer => "NoTracer"
    | .noPermissionRepository => "NoPermissionRepository"
    | .noUserRepository => "NoUserRepository"
    | .noOrganizationRepository => "NoOrganizationRepository"
    | .noLicenseRepository => "NoLicenseRepository"
    | .noLicenseService => "NoLicenseService"
    | .noPermissionService => "NoPermissionService"
    | .noEmailService => "NoEmailService"
    | .noMailClient => "NoSMTPClient"
    | .noTemplateRenderer => "NoTemplateRenderer"
    | .noLicense => "NoLicense"
    | .noVersionInfo => "NoVersionInfo"
    | .noResources => "NoResources"
    | .noUser => "NoUser"
    | .noPermission => "NoPermission"
    | .invalidId => "InvalidId"
    | .invalidEmail => "InvalidEmail"
    | .invalidUser => "InvalidUser"
    | .invalidOrganization => "InvalidOrganization"
    | .invalidPermission => "InvalidPermission"
    | .invalidPagination => "InvalidPaginationParams"
    | .noPatchData => "NoPatchData"
    | .userCreate => "UserCreate"
    | .userGet => "UserGet"
    | .userGetAll => "UserGetAll"
    | .userUpdate => "UserUpdate"
    | .userDelete => "UserDelete"
    | .organizationCreate => "OrganizationCreate"
    | .organizationGet => "OrganizationGet"
    | .organizationGetAll => "OrganizationGetAll"
    | .organizationUpdate => "OrganizationUpdate"
    | .organizationDelete => "OrganizationDelete"
    | .organizationAddMember => "OrganizationAddMember"
    | .organizationGetMembers => "OrganizationGetMembers"
    | .organizationRemoveMember => "OrganizationRemoveMember"
    | .organizationInvite => "OrganizationInvite"
    | .permissionCreate => "PermissionCreate"
    | .permissionDelete => "PermissionDelete"
    | .emailSend => "EmailSend"
    | .licenseGet => "LicenseGet"
    | .licenseInvalid => "LicenseInvalid"
    | .quotaInvalid => "QuotaInvalid"
    | .quotaUsageGet => "QuotaUsageGet"
    | .quotaExceeded => "QuotaExceeded"
    | .systemHealthCheck => "SystemHealthCheck"

/-- The code of a repository error. -/
def RepositoryError.code : RepositoryError → String
  | notFound => "NotFound"
  | alreadyExists => "AlreadyExists"
  | storage _ => "Storage"

/-- The code of an error of a permission lookup. -/
def PermissionError.code : PermissionError → String
  | read => "Read"
  | repository _ => "Repository"

/-- The code of an interruption. -/
def Interruption.code : Interruption → String
  | canceled => "Canceled"
  | deadlineExceeded => "DeadlineExceeded"

/-- The code of a template error. -/
def TemplateError.code : TemplateError → String
  | notFound _ => "NotFound"
  | data _ => "Data"
  | missingVariable _ _ => "MissingVariable"

/-- The code of a delivery error. -/
def DeliveryError.code : DeliveryError → String
  | connection _ => "ConnectionError"
  | authentication _ => "AuthenticationFailed"
  | rejected _ => "SendFailed"
  | configuration _ => "InvalidConfiguration"
  | recipient _ => "InvalidRecipient"
  | interrupted _ => "Interrupted"

namespace Failure

/-- The code of the type of a link. -/
def Family.code : Family → String
  | service => "Error"
  | kind => "ErrorKind"
  | repository => "RepositoryError"
  | permission => "PermissionError"
  | interruption => "ContextError"
  | template => "TemplateError"
  | delivery => "EmailProviderError"
  | message => "Other"
  | invalid => "ValidationErrors"
  | crashed => "JoinError"

/-- The code of a link within its type; nothing for types that have no codes within. -/
def ownCode? : Failure → Option String
  | kind k => some (Labelled.label k)
  | repository e => some e.code
  | permission e => some e.code
  | interruption e => some e.code
  | template e => some e.code
  | delivery e => some e.code
  | message _ => none
  | invalid _ => none
  | crashed => none
  | service k => some (Labelled.label k)
  | joined k _ => some (Labelled.label k)

/-- The code of a link: of its type, and within its type. -/
def code (f : Failure) : String := f.family.code ++ ((f.ownCode?.map ("." ++ ·)).getD "")

/-- The text of a link in a report: broken rules and crashed workers have none there. -/
def reportedText? : Failure → Option String
  | invalid _ => none
  | crashed => none
  | f => some (f.ownText {})

/-- The text of the failure in a report. -/
def reportedText (f : Failure) : String := String.intercalate ": " (f.chain.filterMap reportedText?)

end Failure

/-- The text of the failure in a report. -/
def ServiceError.reportedText (e : ServiceError) : String := e.toFailure.reportedText

/-- A rule that was broken, in JSON. -/
def Rule.toJson (r : Rule) : Json :=
  let bound (name : String) (n : Option Nat) : List (String × Json) :=
    (n.map fun (n : Nat) => (name, Json.integer n)).toList
  let bounds :=
    match r with
    | .length least greatest => bound "min" least ++ bound "max" greatest
    | _ => []
  .object [("code", .string r.code), ("params", .object bounds)]

/-- The broken rules of each field in JSON. -/
def Violations.toJson (v : Violations) : Json :=
  .object (v.map fun (field, rules) => (field, .array (rules.map Rule.toJson)))

/-- A failure in a report. -/
def Failure.report (f : Failure) : Json :=
  .object ([("error", .string (f.ownCode?.getD f.family.code)), ("message", .string f.reportedText),
    ("chain", .array (f.chain.map fun link => .string link.code))] ++
    (f.violations?.map fun v => ("validation", v.toJson)).toList)

end Tenancy
