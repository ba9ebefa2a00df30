import Walkthrough.Page.Locator
import Walkthrough.Pattern.Search

/-! Expectations of a page or of elements. -/
namespace Walkthrough

inductive Target where
  | page
  | element (l : Locator)
  deriving DecidableEq, Repr

namespace Target

def label : Target → String
  | page => "page"
  | element l => l.label

def found (p : Page) : Target → List Element
  | page => []
  | element l => l.found p

end Target

/-- Whether one text stands inside another. -/
def containsText (inner outer : String) : Bool := (Text.cutAt? inner.toList outer.toList).isSome

/-- Whether texts are as expected: the first one, or each of them. -/
def ExpectedText.holds (same : String → String → Bool) (texts : List String) : ExpectedText → Bool
  | one s => texts.head?.any (same s)
  | each ss => ss.length == texts.length && (ss.zip texts).all fun x => same x.1 x.2

/-- Whether the expectation is met by the elements of a page. -/
def Matcher.holds (p : Page) (es : List Element) : Matcher → Bool
  | title expected => p.title == expected
  | url _ pattern => pattern.search p.url
  | visible => es.head?.any (·.traits.visible)
  | hidden => !es.head?.any (·.traits.visible)
  | text expected => expected.holds (· == ·) (es.map (·.traits.text))
  | containsText expected => expected.holds Walkthrough.containsText (es.map (·.traits.text))
  | value expected => es.head?.any (·.traits.value == expected)
  | attributeValue name expected => es.head?.any fun e => e.hasAttribute name expected
  | css name expected => es.head?.any fun e =>
      match e.traits.styles.get? name with
      | some (.str s) => s == expected
      | _ => false
  | classes _ pattern => es.head?.any fun e =>
      pattern.search (((e.attribute? "class").getD (.str "")).display)

/-- Expects something of a target. A mark is left first; the message opens the report of a
failure. -/
def expect (target : Target) (m : Matcher) (options : Members) (message : Option String) :
    Play Unit := do
  let p := (← Act.get).page
  let es := target.found p
  Act.mark (.expect m target.label (es.head?.map Element.name) options message)
  match namedValue? p.errors m.name with
  | some refusal => Act.fail (.page refusal)
  | none =>
    if m.holds p es then return ()
    else
      let detail := p.mismatch.getD (m.name ++ " failed on " ++ target.label)
      let opening := message.getD ""
      Act.fail (.assertion (if opening = "" then detail else opening ++ "\n" ++ detail))

end Walkthrough
