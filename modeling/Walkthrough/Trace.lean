import Walkthrough.Json.Basic
import Walkthrough.Pattern.Reader

/-! What happened between a run and its surroundings, one mark after the other. -/
namespace Walkthrough

/-- A file handed to an upload: a path, or a name, a media type and the bytes. -/
inductive UploadFile where
  | path (p : String)
  | content (name : Option String) (mimeType : String) (bytes : List Nat)
  deriving DecidableEq, Repr, Inhabited

/-- What can be asked of an element. -/
inductive ElementCall where
  | click (options : Members)
  | hover (options : Members)
  | fill (value : String) (options : Members)
  | pressSequentially (text : String) (options : Members)
  | press (key : String) (options : Members)
  | setInputFiles (files : List UploadFile) (options : Members)
  | describe
  | textNodes (excluded : List Json)
  deriving Inhabited

def ElementCall.name : ElementCall → String
  | click _ => "click"
  | hover _ => "hover"
  | fill _ _ => "fill"
  | pressSequentially _ _ => "press_sequentially"
  | press _ _ => "press"
  | setInputFiles _ _ => "set_input_files"
  | describe => "describe"
  | textNodes _ => "text_nodes"

inductive MouseCall where
  | move (x y : Json)
  | click (x y : Json)
  | dblclick (x y : Json)
  | down
  | up
  deriving Inhabited

namespace MouseCall

def name : MouseCall → String
  | move _ _ => "mouse.move"
  | click _ _ => "mouse.click"
  | dblclick _ _ => "mouse.dblclick"
  | down => "mouse.down"
  | up => "mouse.up"

def arguments : MouseCall → List Json
  | move x y | click x y | dblclick x y => [x, y]
  | down | up => []

end MouseCall

/-- What can be asked of a page. -/
inductive PageCall where
  | goto (url : String) (options : Members)
  | wait (ms : Nat)
  | keyPress (key : String) (options : Members)
  | mouse (call : MouseCall)
  | findWord (root : Option String) (word : Json) (nth : Int)
  deriving Inhabited

def PageCall.name : PageCall → String
  | goto _ _ => "goto"
  | wait _ => "wait_for_timeout"
  | keyPress _ _ => "keyboard.press"
  | mouse call => call.name
  | findWord _ _ _ => "evaluate"

/-- A text that is expected of one element, or one for each of several. -/
inductive ExpectedText where
  | one (s : String)
  | each (ss : List String)
  deriving DecidableEq, Repr, Inhabited

/-- What is expected of a page or an element. Patterns stand beside the text they were read from. -/
inductive Matcher where
  | title (expected : String)
  | url (text : String) (pattern : Pattern)
  | visible
  | hidden
  | text (expected : ExpectedText)
  | containsText (expected : ExpectedText)
  | value (expected : String)
  | attributeValue (name expected : String)
  | css (name expected : String)
  | classes (text : String) (pattern : Pattern)
  deriving Inhabited

def Matcher.name : Matcher → String
  | title _ => "to_have_title"
  | url _ _ => "to_have_url"
  | visible => "to_be_visible"
  | hidden => "to_be_hidden"
  | text _ => "to_have_text"
  | containsText _ => "to_contain_text"
  | value _ => "to_have_value"
  | attributeValue _ _ => "to_have_attribute"
  | css _ _ => "to_have_css"
  | classes _ _ => "to_have_class"

/-- What can be asked of the browser itself. -/
inductive BrowserCall where
  | launch (headless : Bool)
  | newContext (baseUrl : Option String)
  | newPage
  | setTimeout (ms : Int)
  | setNavigationTimeout (ms : Int)
  | closeContext
  | closeBrowser
  deriving DecidableEq, Repr, Inhabited

def BrowserCall.name : BrowserCall → String
  | launch _ => "launch"
  | newContext _ => "new_context"
  | newPage => "new_page"
  | setTimeout _ => "set_default_timeout"
  | setNavigationTimeout _ => "set_default_navigation_timeout"
  | closeContext => "close_context"
  | closeBrowser => "close_browser"

inductive Mark where
  | query (key : String)
  | descend (label : String)
  | element (call : ElementCall) (name : String)
  | page (call : PageCall)
  | expect (matcher : Matcher) (target : String) (element : Option String) (options : Members)
      (message : Option String)
  | browser (call : BrowserCall)
  /-- What a plugin noted of its own accord. -/
  | plugin (values : List Json)
  | softFailure (message : String)
  | recorder (event : String) (step : Option String) (status : String)
  deriving Inhabited

end Walkthrough
