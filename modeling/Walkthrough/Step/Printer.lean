import Walkthrough.Step.Basic

/-! Checks and steps as documents, with every field under one name. -/
namespace Walkthrough

/-- A number that need not be there. -/
def Json.natOption (o : Option Nat) : Json := Json.intOption (o.map Int.ofNat)

def Check.toJson (c : Check) : Json :=
  .obj [("type", .str c.kind.name), ("selector", .ofOption c.selector),
    ("selector_type", .str c.selectorKind.name), ("index", .natOption c.index), ("data", c.data),
    ("soft", .bool c.soft), ("message", .ofOption c.message),
    ("attribute", .ofOption c.attributeName), ("css_property", .ofOption c.cssProperty),
    ("custom_name", .ofOption c.customName), ("options", .obj c.options)]

namespace FileSource

def path? : FileSource → Option String
  | path p => some p
  | content _ => none

def content? : FileSource → Option String
  | path _ => none
  | content text => some text

end FileSource

def FileEntry.toJson (f : FileEntry) : Json :=
  .obj [("path", .ofOption f.source.path?), ("content", .ofOption f.source.content?),
    ("encoding", .str f.encoding.name), ("name", .ofOption f.name), ("mime_type", .str f.mimeType)]

def UploadPaths.toJson : UploadPaths → Json
  | none => .null
  | one p => .str p
  | many ps => .strings ps

/-- The fields that an action adds to its step. -/
def Action.fields : Action → Members
  | navigate path => [("path", .str path)]
  | fill text | type text | pressKey text => [("data", .str text)]
  | upload u =>
    [("data", u.paths.toJson), ("files", .arr (u.files.map FileEntry.toJson)),
      ("resolve_from_base", .bool u.resolveFromBase), ("clear_first", .bool u.clearFirst)]
  | custom name data => [("custom_name", .str name), ("data", data)]
  | click | hover | wait | unspecified => []

def Step.toJson (s : Step) : Json :=
  .obj ([("action", .str s.actionName), ("step_name", .str s.name),
    ("selector", .ofOption s.selector), ("selector_type", .str s.selectorKind.name),
    ("wait_time_ms", .natOption s.waitTime), ("index", .natOption s.index),
    ("iterate", .bool s.iterate), ("iterative_group_id", .ofOption s.group),
    ("action_options", .obj s.options), ("validations", .arr (s.checks.map Check.toJson))] ++
    s.action.fields)

end Walkthrough
