import Tenancy.Validation

/-!
# Failures and their chains

Every failure of a service is a kind, alone or joined with a cause. A cause is again such a failure, a kind by itself,
or an error of a collaborator. Errors that only wrap another one are one link: the wrapped error is no link of its own.
-/

namespace Tenancy

/-- Where and why a service failed. -/
inductive ErrorKind where
  | noLogger
  | noTracer
  | noPermissionRepository
  | noUserRepository
  | noOrganizationRepository
  | noLicenseRepository
  | noLicenseService
  | noPermissionService
  | noEmailService
  | noMailClient
  | noTemplateRenderer
  | noLicense
  | noVersionInfo
  | noResources
  | noUser
  | noPermission
  | invalidId
  | invalidEmail
  | invalidUser
  | invalidOrganization
  | invalidPermission
  | invalidPagination
  | noPatchData
  | userCreate
  | userGet
  | userGetAll
  | userUpdate
  | userDelete
  | organizationCreate
  | organizationGet
  | organizationGetAll
  | organizationUpdate
  | organizationDelete
  | organizationAddMember
  | organizationGetMembers
  | organizationRemoveMember
  | organizationInvite
  | permissionCreate
  | permissionDelete
  | emailSend
  | licenseGet
  | licenseInvalid
  | quotaInvalid
  | quotaUsageGet
  | quotaExceeded
  | systemHealthCheck
deriving DecidableEq, Repr, Inhabited

/-- The wording of a kind. -/
def ErrorKind.text : ErrorKind → String
  | noLogger => "no logger provided"
  | noTracer => "no tracer provided"
  | noPermissionRepository => "no permission repository provided"
  | noUserRepository => "no user repository provided"
  | noOrganizationRepository => "no organization repository provided"
  | noLicenseRepository => "no license repository provided"
  | noLicenseService => "no license service provided"
  | noPermissionService => "no permission service provided"
  | noEmailService => "no email service provided"
  | noMailClient => "no smtp client provided"
  | noTemplateRenderer => "no template renderer provided"
  | noLicense => "no license provided"
  | noVersionInfo => "no version info provided"
  | noResources => "no resources provided"
  | noUser => "no user in context"
  | noPermission => "no permission"
  | invalidId => "invalid id"
  | invalidEmail => "invalid email"
  | invalidUser => "invalid user"
  | invalidOrganization => "invalid organization"
  | invalidPermission => "invalid permission"
  | invalidPagination => "invalid pagination parameters"
  | noPatchData => "no patch data provided"
  | userCreate => "failed to create user"
  | userGet => "failed to get user"
  | userGetAll => "failed to get users"
  | userUpdate => "failed to update user"
  | userDelete => "failed to delete user"
  | organizationCreate => "failed to create organization"
  | organizationGet => "failed to get organization"
  | organizationGetAll => "failed to get organizations"
  | organizationUpdate => "failed to update organization"
  | organizationDelete => "failed to delete organization"
  | organizationAddMember => "failed to add organization member"
  | organizationGetMembers => "failed to get organization members"
  | organizationRemoveMember => "failed to remove organization member"
  | organizationInvite => "failed to invite organization member"
  | permissionCreate => "failed to create permission"
  | permissionDelete => "failed to delete permission"
  | emailSend => "failed to send email"
  | licenseGet => "failed to get license"
  | licenseInvalid => "license is invalid"
  | quotaInvalid => "invalid quota"
  | quotaUsageGet => "failed to get quota usage"
  | quotaExceeded => "quota exceeded"
  | systemHealthCheck => "system health check failed"

/-- An error of a repository. -/
inductive RepositoryError where
  | notFound
  | alreadyExists
  | storage (detail : String)
deriving DecidableEq, Repr

/-- The wording of a repository error. -/
def RepositoryError.text : RepositoryError → String
  | notFound => "entity not found"
  | alreadyExists => "entity already exists"
  | storage detail => "storage error: " ++ detail

/-- An error of a permission lookup. -/
inductive PermissionError where
  | read
  | repository (cause : RepositoryError)
deriving DecidableEq, Repr

/-- The wording of a lookup error; a wrapped one speaks for itself. -/
def PermissionError.text : PermissionError → String
  | read => "failed to read permission"
  | repository cause => cause.text

/-- Why a context stopped accepting work. -/
inductive Interruption where
  | canceled
  | deadlineExceeded
deriving DecidableEq, Repr

/-- The wording of an interruption. -/
def Interruption.text : Interruption → String
  | canceled => "context canceled"
  | deadlineExceeded => "context deadline exceeded"

/-- An error of rendering a template. -/
inductive TemplateError where
  | notFound (path : String)
  | data (detail : String)
  | missingVariable (path name : String)
deriving DecidableEq, Repr

/-- The wording of a template error. -/
def TemplateError.text : TemplateError → String
  | notFound path => "template not found: " ++ path
  | data detail => "invalid template data: " ++ detail
  | missingVariable path name => "template " ++ path ++ " is missing variable " ++ name

/-- An error of delivering an email. -/
inductive DeliveryError where
  | connection (detail : String)
  | authentication (detail : String)
  | rejected (detail : String)
  | configuration (detail : String)
  | recipient (detail : String)
  | interrupted (cause : Interruption)
deriving DecidableEq, Repr

/-- The wording of a delivery error; a wrapped interruption speaks for itself. -/
def DeliveryError.text : DeliveryError → String
  | connection detail => "Connection error: " ++ detail
  | authentication detail => "Authentication failed: " ++ detail
  | rejected detail => "Send failed: " ++ detail
  | configuration detail => "Invalid configuration: " ++ detail
  | recipient detail => "Invalid recipient: " ++ detail
  | interrupted cause => cause.text

/-- The wording of what is not worded here: the rules that were broken, and the crash of a worker. -/
structure Wording where
  invalid : Violations → String := fun _ => ""
  crashed : String := ""

/-- Any error that can be a link of a chain, with the links below it. -/
inductive Failure where
  | kind (k : ErrorKind)
  | repository (e : RepositoryError)
  | permission (e : PermissionError)
  | interruption (e : Interruption)
  | template (e : TemplateError)
  | delivery (e : DeliveryError)
  | message (text : String)
  | invalid (v : Violations)
  | crashed
  | service (k : ErrorKind)
  | joined (k : ErrorKind) (cause : Failure)
deriving DecidableEq, Repr

namespace Failure

/-- The failure and all links below it, from the outside in. -/
def chain : Failure → List Failure
  | joined k cause => joined k cause :: cause.chain
  | f => [f]

/-- The text that a link contributes of its own. -/
def ownText (w : Wording) : Failure → String
  | kind k => k.text
  | repository e => e.text
  | permission e => e.text
  | interruption e => e.text
  | template e => e.text
  | delivery e => e.text
  | message text => text
  | invalid v => w.invalid v
  | crashed => w.crashed
  | service k => k.text
  | joined k _ => k.text

/-- The text of the failure: a kind, then what it was joined with. -/
def text (w : Wording) : Failure → String
  | joined k cause => k.text ++ ": " ++ cause.text w
  | f => f.ownText w

/-- The error that a wrapper stands for, which is no link of its own. -/
def wrapped? : Failure → Option Failure
  | permission (.repository cause) => some (.repository cause)
  | delivery (.interrupted cause) => some (.interruption cause)
  | _ => none

/-- What a link was joined with. A wrapper passes on what the error it stands for was joined with: nothing. -/
def cause? : Failure → Option Failure
  | joined _ cause => some cause
  | _ => none

/-- The kind that a link names: a failure of a service, or a kind by itself. -/
def kind? : Failure → Option ErrorKind
  | kind k => some k
  | service k => some k
  | joined k _ => some k
  | _ => none

/-- Whether the kind is named on the way from this link inwards. -/
def names (k : ErrorKind) : Failure → Bool
  | joined k' cause => k' == k || cause.names k
  | f => f.kind? == some k

/-- The broken rules of the first link that has some. -/
def violations? (f : Failure) : Option Violations :=
  f.chain.findSome? fun
    | invalid v => some v
    | _ => none

/-- The types of error that can be looked for in a chain. -/
inductive Family where
  | service
  | kind
  | repository
  | permission
  | interruption
  | template
  | delivery
  | message
  | invalid
  | crashed
deriving DecidableEq, Repr

/-- The type of a link. -/
def family : Failure → Family
  | kind _ => .kind
  | repository _ => .repository
  | permission _ => .permission
  | interruption _ => .interruption
  | template _ => .template
  | delivery _ => .delivery
  | message _ => .message
  | invalid _ => .invalid
  | crashed => .crashed
  | service _ => .service
  | joined _ _ => .service

/-- The first link of a type on the way from this link inwards. -/
def find? (sought : Family) : Failure → Option Failure
  | joined k cause => if sought = .service then some (joined k cause) else cause.find? sought
  | f => if f.family = sought then some f else none

end Failure

/-- A failure of a service: its own kind, and the cause joined with it. -/
structure ServiceError where
  kind : ErrorKind
  cause : Option Failure := none
deriving DecidableEq, Repr

namespace ServiceError

/-- A failure of a kind with a cause. -/
def join (kind : ErrorKind) (cause : Failure) : ServiceError := ⟨kind, some cause⟩

/-- The failure as a link of a chain. -/
def toFailure : ServiceError → Failure
  | ⟨k, none⟩ => .service k
  | ⟨k, some cause⟩ => .joined k cause

/-- The wording of the failure and its causes. -/
def text (w : Wording) (e : ServiceError) : String := e.toFailure.text w

/-- The links strictly below the failure. -/
def causes (e : ServiceError) : List Failure := (e.cause.map Failure.chain).getD []

/-- Whether the failure or one of its causes is of the kind. -/
def is (e : ServiceError) (k : ErrorKind) : Bool :=
  e.kind == k || (e.cause.map (Failure.names k)).getD false

/-- The outermost cause of a type. -/
def findCause? (e : ServiceError) (family : Failure.Family) : Option Failure := e.cause.bind (Failure.find? family)

/-- Whether a cause is of a type. -/
def causeIs (e : ServiceError) (family : Failure.Family) : Bool := (e.findCause? family).isSome

/-- Whether the failure is nothing but its kind. -/
def isBare (e : ServiceError) (k : ErrorKind) : Bool := e.cause.isNone && e.kind == k

end ServiceError

instance : Coe ServiceError Failure := ⟨ServiceError.toFailure⟩

end Tenancy
