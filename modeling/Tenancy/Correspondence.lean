import Tenancy.Config
import Tenancy.Operation.Equipment
import Tenancy.Text.Chars

/-!
# Correspondence

The letters that the platform writes to users and to the holder of the license. Each is rendered from a record of its own
and sent once.

A link in a letter is made of the public host name and a path, with exactly one slash between them. A scheme on the host name is
replaced by `https`, slashes at its end and at the beginning of the path are dropped, and so are blanks at the ends of both.
-/

namespace Tenancy

open Time

/-! ## Links -/

namespace Mail.Link

open Text

/-- The text without any number of copies of a marker at its beginning; `fuel` bounds their number. -/
def dropCopies (marker : List Char) : (fuel : Nat) → List Char → List Char
  | 0, cs => cs
  | fuel + 1, cs =>
    match dropMarker? marker cs with
    | some rest => dropCopies marker fuel rest
    | none => cs

/-- The host of a link. -/
def host (hostname : List Char) : List Char :=
  let bare := trim hostname
  let bare := dropCopies "https://".toList bare.length bare
  let bare := dropCopies "http://".toList bare.length bare
  dropEndWhile (· == '/') bare

/-- The path of a link, without slashes at its beginning. -/
def path (p : List Char) : List Char := (trim p).dropWhile (· == '/')

/-- The link to a path on a host. -/
def serverUrl (hostname p : String) : String :=
  let rest := path p.toList
  String.ofList ("https://".toList ++ host hostname.toList ++ if rest.isEmpty then [] else '/' :: rest)

end Mail.Link

/-! ## Letters -/

/-- What renders letters: the built-in templates, or a renderer from outside. -/
inductive Renderer where
  | builtIn
  | supplied (renderer : Endpoint)
deriving DecidableEq, Repr, Inhabited

/-- The service of letters. -/
structure Correspondence where
  equipment : Equipment
  client : Endpoint
  hostname : String
  supportAddress : String
  renderer : Renderer := .builtIn
deriving DecidableEq, Repr

namespace Correspondence

/-- The record of a letter with a link for resetting a password. -/
def passwordResetData (s : Correspondence) (user : User) (path : String) : TemplateData :=
  [("FirstName", user.firstName), ("PasswordResetURL", Mail.Link.serverUrl s.hostname path),
    ("SupportEmail", s.supportAddress), ("Username", user.username)]

/-- The record of an invitation to an organization. -/
def invitationData (s : Correspondence) (organization : Organization) (user : User) (path : String) : TemplateData :=
  [("FirstName", user.firstName), ("InvitationURL", Mail.Link.serverUrl s.hostname path),
    ("OrganizationName", organization.name), ("SupportEmail", s.supportAddress), ("Username", user.username)]

/-- The record of a reminder that the license expires. -/
def licenseExpiryData (s : Correspondence) (id email organization : String) (expiresAt : Instant) : TemplateData :=
  [("LicenseEmail", email), ("LicenseExpiresAt", expiresAt.letterText), ("LicenseID", id),
    ("LicenseOrganization", organization), ("RenewEmail", License.renewEmail),
    ("ServerURL", Mail.Link.serverUrl s.hostname ""), ("SupportEmail", s.supportAddress)]

/-- The record of a welcome. -/
def welcomeData (s : Correspondence) (user : User) : TemplateData :=
  [("FirstName", user.firstName), ("Hostname", s.hostname), ("ServerURL", Mail.Link.serverUrl s.hostname ""),
    ("SupportEmail", s.supportAddress), ("Username", user.username)]

/-- Renders a letter. -/
def render (s : Correspondence) (path : String) (data : TemplateData) : Step RenderedLetter :=
  match s.renderer with
  | .builtIn => ExceptT.mk (pure ((RenderedLetter.ofPath path data).mapError .template))
  | .supplied _ => Step.insist (.render path data)

/-- Renders a letter and sends it. -/
def send (s : Correspondence) (ctx : Context) (name : String) (letter : Letter) (recipient : String)
    (data : TemplateData) : Program (Except ServiceError Unit) :=
  s.equipment.operation ctx name .emailSend do
    let rendered ← s.render letter.path data
    s.equipment.event name "send email"
    Step.ask ctx (.send recipient rendered)
    s.equipment.log .debug (letter.path ++ " email sent")

/-- Sends a user a link for resetting the password. -/
def passwordReset (s : Correspondence) (ctx : Context) (user : User) (path : String) : Program (Except ServiceError Unit) :=
  s.send ctx "service.email/send_auth_password_reset_email" .passwordReset user.email (s.passwordResetData user path)

/-- Sends a user an invitation to an organization. -/
def invitation (s : Correspondence) (ctx : Context) (organization : Organization) (user : User) (path : String) :
    Program (Except ServiceError Unit) :=
  s.send ctx "service.email/send_organization_invitation_email" .organizationInvite user.email
    (s.invitationData organization user path)

/-- Reminds the holder of a license that it expires. -/
def licenseExpiry (s : Correspondence) (ctx : Context) (id email organization : String) (expiresAt : Instant) :
    Program (Except ServiceError Unit) :=
  s.send ctx "service.email/send_system_license_expiry_email" .licenseExpiryReminder email
    (s.licenseExpiryData id email organization expiresAt)

/-- Welcomes a user. -/
def welcome (s : Correspondence) (ctx : Context) (user : User) : Program (Except ServiceError Unit) :=
  s.send ctx "service.email/send_user_welcome_email" .userWelcome user.email (s.welcomeData user)

end Correspondence

end Tenancy
