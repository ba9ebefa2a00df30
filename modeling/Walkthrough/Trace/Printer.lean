import Walkthrough.Trace

/-! The trace as a document: a list for each mark, which begins with the name of its kind. -/
namespace Walkthrough

/-- Bytes are written in hexadecimal digits under a key of their own. -/
def bytesJson (bs : List Nat) : Json :=
  .obj [("$hex", .str (String.ofList (bs.flatMap (Text.hex 2))))]

def UploadFile.toJson : UploadFile → Json
  | path p => .str p
  | content name mimeType bytes =>
    .obj [("name", .ofOption name), ("mimeType", .str mimeType), ("buffer", bytesJson bytes)]

namespace ElementCall

/-- The arguments of a call under their names. -/
def details : ElementCall → Members
  | click options | hover options => [("options", .obj options)]
  | fill value options => [("value", .str value), ("options", .obj options)]
  | pressSequentially text options => [("text", .str text), ("options", .obj options)]
  | press key options => [("key", .str key), ("options", .obj options)]
  | setInputFiles files options =>
    [("files", .arr (files.map UploadFile.toJson)), ("options", .obj options)]
  | describe => []
  | textNodes excluded => [("excluded", .arr excluded)]

end ElementCall

namespace PageCall

/-- The arguments of a call under their names. -/
def details : PageCall → Members
  | goto url options => [("url", .str url), ("options", .obj options)]
  | wait ms => [("ms", .int ms)]
  | keyPress key options => [("args", .arr [.str key]), ("options", .obj options)]
  | mouse call => [("args", .arr call.arguments), ("options", .obj [])]
  | findWord root word nth => [("root", .ofOption root), ("word", word), ("nth", .int nth)]

end PageCall

def ExpectedText.toJson : ExpectedText → Json
  | one s => .str s
  | each ss => .strings ss

namespace Matcher

/-- A pattern is written under a key of its own. -/
def patternJson (source : String) : Json := .obj [("regex", .str source)]

/-- What is expected. -/
def arguments : Matcher → List Json
  | title s | value s => [.str s]
  | url source _ | classes source _ => [patternJson source]
  | visible | hidden => []
  | text e | containsText e => [e.toJson]
  | attributeValue name s | css name s => [.str name, .str s]

end Matcher

namespace BrowserCall

/-- The argument of a call, if it has one. -/
def argument : BrowserCall → Json
  | launch headless => .obj [("headless", .bool headless)]
  | newContext (some base) => .obj [("base_url", .str base)]
  | newContext none => .obj []
  | setTimeout ms | setNavigationTimeout ms => .int ms
  | newPage | closeContext | closeBrowser => .null

end BrowserCall

def Mark.toJson : Mark → Json
  | query key => .strings ["query", key]
  | descend label => .strings ["descend", label]
  | element c name => .arr [.str "call", .str c.name, .str name, .obj c.details]
  | page c => .arr [.str "call", .str c.name, .null, .obj c.details]
  | expect m target name options message =>
    .arr [.str "expect", .str m.name, .str target, .ofOption name, .arr m.arguments,
      .obj options, .ofOption message]
  | browser c => .arr [.str "browser", .str c.name, c.argument]
  | plugin values => .arr (.str "plugin" :: values)
  | softFailure message => .strings ["soft", message]
  | recorder event step status =>
    .arr [.str "recorder", .str event, .ofOption step, .str status]

end Walkthrough
