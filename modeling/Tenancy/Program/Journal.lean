import Tenancy.Json.Basic
import Tenancy.Program.Basic

/-!
# Journals

The notes of a run in JSON: what became of spans, what was logged, and which calls were made with which arguments. Unlike
the answers of the platform, calls show passwords.
-/

namespace Tenancy

open Telemetry

/-- A user in JSON with the password. -/
def User.toFullJson (u : User) : Json := .object (u.toFields ++ [("password", .string u.password)])

/-- A patch in JSON with the password. -/
def UserPatch.toFullJson (p : UserPatch) : Json := .object (p.toFields ++ [("password", UserPatch.textJson p.password)])

/-- A data record in JSON. -/
def TemplateData.toJson (data : TemplateData) : Json := .object (data.map fun (key, value) => (key, .string value))

/-- A rendered letter in JSON. -/
def RenderedLetter.toJson (l : RenderedLetter) : Json :=
  .object [("path", .string l.path), ("subject", .string l.subject), ("data", l.data.toJson),
    ("html_body", .string l.htmlBody), ("text_body", .string l.textBody)]

namespace Call

/-- The name of what is called. -/
def name : Call → String
  | .users (.create _) => "users.create"
  | .users (.get _) => "users.get"
  | .users (.getByEmail _) => "users.get_by_email"
  | .users (.getAll _ _) => "users.get_all"
  | .users (.update _ _) => "users.update"
  | .users (.delete _) => "users.delete"
  | .organizations (.create _ _) => "orgs.create"
  | .organizations (.get _) => "orgs.get"
  | .organizations (.getAll _ _) => "orgs.get_all"
  | .organizations (.update _ _) => "orgs.update"
  | .organizations (.delete _) => "orgs.delete"
  | .organizations (.addMember _ _) => "orgs.add_member"
  | .organizations (.removeMember _ _) => "orgs.remove_member"
  | .organizations (.getMembers _) => "orgs.get_members"
  | .permissions (.create _) => "perms.create"
  | .permissions (.get _) => "perms.get"
  | .permissions (.getByTarget _) => "perms.get_by_target"
  | .permissions (.delete _) => "perms.delete"
  | .access (.hasPermission _ _ _) => "perms.has_permission"
  | .access (.hasSystemRole _ _) => "perms.has_any_system_role"
  | .count quota => "license." ++ Labelled.label quota
  | .send _ _ => "sender.send_email"
  | .render _ _ => "renderer.render"

/-- An id as an argument. -/
def idJson (id : Id) : Json := .string id.text

/-- Alternatives as an argument. -/
def labelsJson {α : Type} [Labelled α] (items : List α) : Json :=
  .array (items.map fun a => .string (Labelled.label a))

/-- The arguments of a call. -/
def arguments : Call → List Json
  | .users (.create user) => [user.toFullJson]
  | .users (.get id) => [idJson id]
  | .users (.getByEmail email) => [.string email]
  | .users (.getAll offset limit) => [.integer offset, .integer limit]
  | .users (.update id patch) => [idJson id, patch.toFullJson]
  | .users (.delete id) => [idJson id]
  | .organizations (.create owner organization) => [idJson owner, organization.toJson]
  | .organizations (.get id) => [idJson id]
  | .organizations (.getAll offset limit) => [.integer offset, .integer limit]
  | .organizations (.update id patch) => [idJson id, patch.toJson]
  | .organizations (.delete id) => [idJson id]
  | .organizations (.addMember organization user) => [idJson organization, idJson user]
  | .organizations (.removeMember organization user) => [idJson organization, idJson user]
  | .organizations (.getMembers organization) => [idJson organization]
  | .permissions (.create permission) => [permission.toJson]
  | .permissions (.get id) => [idJson id]
  | .permissions (.getByTarget target) => [idJson target]
  | .permissions (.delete id) => [idJson id]
  | .access (.hasPermission subject target kinds) => [idJson subject, idJson target, labelsJson kinds]
  | .access (.hasSystemRole subject roles) => [idJson subject, labelsJson roles]
  | .count _ => []
  | .send recipient letter => [.string letter.subject, .string recipient, .string letter.path]
  | .render path data => [.string path, data.toJson]

end Call

namespace Telemetry

/-- A moment in the life of a span in JSON. -/
def SpanNote.toJson : SpanNote → Json
  | .started span none => .array [.string "start", .string span, .null]
  | .started span (some principal) => .array [.string "start", .string span, .string principal.text]
  | .event span message => .array [.string "event", .string span, .string message]
  | .ended span => .array [.string "end", .string span]

/-- A telemetry record in JSON. -/
def SpanRecord.toJson : SpanRecord → Json
  | .opened span =>
    .array [.string "span", .string spanName, .string (Labelled.label spanLevel), .object [("name", .string span)]]
  | .acting span principal => .array [.string "record", .string span, .object [("principal", .string principal.text)]]
  | .entry level span message =>
    .array [.string "tracing", .string (Labelled.label level), .string span, .string message]
  | .closed span => .array [.string "close", .string span]

end Telemetry

/-- A note in JSON. -/
def Note.toJson : Note → Json
  | .span n => n.toJson
  | .record r => r.toJson
  | .logged level logger message =>
    .array [.string "log", .string (Labelled.label level), .string logger, .string message]
  | .called c => .array ([.string "call", .string c.name] ++ c.arguments)

end Tenancy
