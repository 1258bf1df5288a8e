import Tenancy.Failure
import Tenancy.Json.Basic
import Tenancy.Template

/-!
# Letters

The four letters that the platform sends, each with a subject, an HTML body and a text body. A letter is rendered from a
data record, which must have a value for every placeholder; values are escaped in the HTML body only. A record in JSON gives
strings as they are, and everything else as its JSON text.
-/

namespace Tenancy

/-- A letter of the platform. -/
inductive Letter where
  | passwordReset
  | organizationInvite
  | licenseExpiryReminder
  | userWelcome
deriving DecidableEq, Repr

namespace Letter

/-- All letters. -/
def all : List Letter := [.passwordReset, .organizationInvite, .licenseExpiryReminder, .userWelcome]

/-- The name that a letter is looked up by. -/
def path : Letter → String
  | passwordReset => "password-reset"
  | organizationInvite => "organization-invite"
  | licenseExpiryReminder => "license-expiry-reminder"
  | userWelcome => "user-welcome"

/-- The letter of a name. -/
def ofPath? (path : String) : Option Letter := all.find? fun l => l.path == path

/-- The subject of a letter. -/
def subject : Letter → String
  | passwordReset => "Reset your password"
  | organizationInvite => "You have been invited to join \x7b\x7bOrganizationName\x7d\x7d"
  | licenseExpiryReminder => "Your license for \x7b\x7bLicenseOrganization\x7d\x7d is about to expire"
  | userWelcome => "Welcome to \x7b\x7bHostname\x7d\x7d"

/-- An HTML page with a title and a content, and the address for questions below it. -/
def page (title content : String) : String :=
  "<!DOCTYPE html>\n" ++
    "<html>\n" ++
    "<head>\n" ++
    "    <meta charset=\"utf-8\">\n" ++
    "    <title>" ++
    title ++
    "</title>\n" ++
    "    <style>\n" ++
    "        body \x7b font-family: Helvetica, Arial, sans-serif; line-height: 1.6; color: #333; " ++
    "background-color: #f5f5f5; \x7d\n" ++
    "        .container \x7b max-width: 600px; margin: 40px auto; padding: 40px; background: #ffffff; " ++
    "border-radius: 8px; \x7d\n" ++
    "        .button \x7b display: inline-block; background-color: #2563eb; color: #ffffff; padding: " ++
    "14px 28px; text-decoration: none; border-radius: 6px; \x7d\n" ++
    "        .footer \x7b font-size: 12px; color: #666; margin-top: 30px; border-top: 1px solid #eee; " ++
    "\x7d\n" ++
    "    </style>\n" ++
    "</head>\n" ++
    "<body>\n" ++
    "    <div class=\"container\">\n" ++
    content ++
    "\n" ++
    "        <div class=\"footer\">\n" ++
    "            <p>Questions? Contact us at <a " ++
    "href=\"mailto:\x7b\x7bSupportEmail\x7d\x7d\">\x7b\x7bSupportEmail\x7d\x7d</a>.</p>\n" ++
    "        </div>\n" ++
    "    </div>\n" ++
    "</body>\n" ++
    "</html>"

/-- The HTML body of a letter. -/
def htmlBody : Letter → String
  | passwordReset =>
    page "Reset your password"
      ("        <h1>Reset your password</h1>\n" ++
        "        <p>Hi \x7b\x7bFirstName\x7d\x7d,</p>\n" ++
        "        <p>We received a request to reset the password of your account " ++
        "<strong>\x7b\x7bUsername\x7d\x7d</strong>.</p>\n" ++
        "        <p style=\"text-align: center; margin: 30px 0;\">\n" ++
        "            <a href=\"\x7b\x7bPasswordResetURL\x7d\x7d\" class=\"button\">Reset password</a>\n" ++
        "        </p>\n" ++
        "        <p>If you didn't request a password reset, you can safely ignore this email.</p>")
  | organizationInvite =>
    page "Invitation"
      ("        <h1>You're invited!</h1>\n" ++
        "        <p>Hi \x7b\x7bFirstName\x7d\x7d,</p>\n" ++
        "        <p>You have been invited to join <strong>\x7b\x7bOrganizationName\x7d\x7d</strong>.</p>\n" ++
        "        <p style=\"text-align: center; margin: 30px 0;\">\n" ++
        "            <a href=\"\x7b\x7bInvitationURL\x7d\x7d\" class=\"button\">Accept invitation</a>\n" ++
        "        </p>\n" ++
        "        <p>If you didn't expect this invitation, you can safely ignore this email.</p>")
  | licenseExpiryReminder =>
    page "License expiry"
      ("        <h1>Your license is about to expire</h1>\n" ++
        "        <p>The license <strong>\x7b\x7bLicenseID\x7d\x7d</strong> issued to " ++
        "\x7b\x7bLicenseOrganization\x7d\x7d (\x7b\x7bLicenseEmail\x7d\x7d) expires on " ++
        "<strong>\x7b\x7bLicenseExpiresAt\x7d\x7d</strong>.</p>\n" ++
        "        <p>Your installation at <a href=\"\x7b\x7bServerURL\x7d\x7d\">\x7b\x7bServerURL\x7d\x7d</a> " ++
        "will stop accepting new resources once the license expires.</p>\n" ++
        "        <p>To renew, write to <a " ++
        "href=\"mailto:\x7b\x7bRenewEmail\x7d\x7d\">\x7b\x7bRenewEmail\x7d\x7d</a>.</p>")
  | userWelcome =>
    page "Welcome"
      ("        <h1>Welcome to \x7b\x7bHostname\x7d\x7d</h1>\n" ++
        "        <p>Hi \x7b\x7bFirstName\x7d\x7d,</p>\n" ++
        "        <p>Your account is ready. Sign in to get started.</p>\n" ++
        "        <p style=\"text-align: center; margin: 30px 0;\">\n" ++
        "            <a href=\"\x7b\x7bServerURL\x7d\x7d\" class=\"button\">Open Elemo</a>\n" ++
        "        </p>")

/-- The text body of a letter. -/
def textBody : Letter → String
  | passwordReset =>
    "Reset your password\n" ++
    "\n" ++
    "Hi \x7b\x7bFirstName\x7d\x7d,\n" ++
    "\n" ++
    "We received a request to reset the password of your account \x7b\x7bUsername\x7d\x7d.\n" ++
    "\n" ++
    "Visit the link below to reset your password:\n" ++
    "\n" ++
    "\x7b\x7bPasswordResetURL\x7d\x7d\n" ++
    "\n" ++
    "If you didn't request a password reset, you can safely ignore this email.\n" ++
    "\n" ++
    "Questions? Contact us at \x7b\x7bSupportEmail\x7d\x7d."
  | organizationInvite =>
    "You're invited!\n" ++
    "\n" ++
    "Hi \x7b\x7bFirstName\x7d\x7d,\n" ++
    "\n" ++
    "You have been invited to join \x7b\x7bOrganizationName\x7d\x7d.\n" ++
    "\n" ++
    "Visit the link below to accept the invitation:\n" ++
    "\n" ++
    "\x7b\x7bInvitationURL\x7d\x7d\n" ++
    "\n" ++
    "If you didn't expect this invitation, you can safely ignore this email.\n" ++
    "\n" ++
    "Questions? Contact us at \x7b\x7bSupportEmail\x7d\x7d."
  | licenseExpiryReminder =>
    "Your license is about to expire\n" ++
    "\n" ++
    "The license \x7b\x7bLicenseID\x7d\x7d issued to \x7b\x7bLicenseOrganization\x7d\x7d " ++
    "(\x7b\x7bLicenseEmail\x7d\x7d) expires on \x7b\x7bLicenseExpiresAt\x7d\x7d.\n" ++
    "\n" ++
    "Your installation at \x7b\x7bServerURL\x7d\x7d will stop accepting new resources once the license " ++
    "expires.\n" ++
    "\n" ++
    "To renew, write to \x7b\x7bRenewEmail\x7d\x7d.\n" ++
    "\n" ++
    "Questions? Contact us at \x7b\x7bSupportEmail\x7d\x7d."
  | userWelcome =>
    "Welcome to \x7b\x7bHostname\x7d\x7d\n" ++
    "\n" ++
    "Hi \x7b\x7bFirstName\x7d\x7d,\n" ++
    "\n" ++
    "Your account is ready. Sign in to get started:\n" ++
    "\n" ++
    "\x7b\x7bServerURL\x7d\x7d\n" ++
    "\n" ++
    "Questions? Contact us at \x7b\x7bSupportEmail\x7d\x7d."

end Letter

/-- The values of a data record, in order of their keys. -/
abbrev TemplateData := List (String × String)

/-- The value of a key. -/
def TemplateData.value? (data : TemplateData) (key : String) : Option String :=
  (data.find? fun entry => entry.1 == key).map Prod.snd

/-- A rendered letter, as it is handed to the sender. -/
structure RenderedLetter where
  path : String
  subject : String
  data : TemplateData
  htmlBody : String
  textBody : String
deriving DecidableEq, Repr

namespace RenderedLetter

/-- A template that must have a value for every placeholder. -/
def complete (path : String) (data : TemplateData) (escape : String → String) (template : String) :
    Except TemplateError String :=
  match Template.expand data.value? escape template.toList with
  | (_, some name) => .error (.missingVariable path name)
  | (text, none) => .ok (String.ofList text)

/-- The letter of a name with the values of a record: subject first, then HTML body, then text body. -/
def ofPath (path : String) (data : TemplateData) : Except TemplateError RenderedLetter :=
  match Letter.ofPath? path with
  | none => .error (.notFound path)
  | some letter => do
    let subject ← complete path data id letter.subject
    let htmlBody ← complete path data Template.escapeHtml letter.htmlBody
    let textBody ← complete path data id letter.textBody
    return { path, subject, data, htmlBody, textBody }

end RenderedLetter

namespace TemplateData

/-- The value that a field of a record gives. -/
def valueText : Json → String
  | .string s => s
  | j => j.render

/-- The values of a record, which must be an object. -/
def ofRecord : Json → Except TemplateError TemplateData
  | .object fields => .ok (fields.map fun (key, value) => (key, valueText value))
  | _ => .error (.data "template data must be an object")

end TemplateData

end Tenancy
