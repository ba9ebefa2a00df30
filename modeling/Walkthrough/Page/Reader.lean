import Walkthrough.Page.Basic

/-! Pages read from documents. What a document does not say, or says in a way that cannot be used,
is as on an empty page. -/
namespace Walkthrough

namespace Members

def text (ms : Members) (key default : String) : String :=
  (((ms.get? key).getD .null).asStr?).getD default

def truth (ms : Members) (key : String) (default : Bool) : Bool :=
  ((ms.get? key).map Json.truthy).getD default

def whole (ms : Members) (key : String) (default : Int) : Int :=
  match ms.get? key with
  | some (.int n) => n
  | _ => default

def object (ms : Members) (key : String) : Members :=
  match ms.get? key with
  | some (.obj inner) => inner
  | _ => []

/-- The texts among the members of an object. -/
def texts (ms : Members) (key : String) : List (String × String) :=
  (ms.object key).filterMap fun m => m.2.asStr?.map fun s => (m.1, s)

end Members

/-- The text nodes of an element: those that are given, else its text unless it is empty. -/
def Traits.readTextNodes (ms : Members) : List String :=
  match Members.get? ms "textNodes" with
  | some (.arr vs) => vs.map Json.display
  | _ =>
    let text := Members.text ms "text" ""
    if text = "" then [] else [text]

def Traits.ofMembers (ms : Members) : Traits :=
  { name := Members.text ms "name" "el"
    tag := Members.text ms "tag" "div"
    type := Members.text ms "type" ""
    text := Members.text ms "text" ""
    value := Members.text ms "value" ""
    attributes := Members.object ms "attrs"
    styles := Members.object ms "css"
    visible := Members.truth ms "visible" true
    disabled := Members.truth ms "disabled" false
    readOnly := Members.truth ms "readOnly" false
    textNodes := readTextNodes ms
    errors := Members.texts ms "errors"
    info := Members.get? ms "info"
    nodes := Members.get? ms "nodes" }

def TraitChange.ofMembers? (ms : Members) : Option TraitChange :=
  match Members.text ms "field" "" with
  | "text" => some (.text (Members.text ms "value" ""))
  | "value" => some (.value (Members.text ms "value" ""))
  | "visible" => some (.visible (Members.truth ms "value" false))
  | _ => none

mutual

def Element.ofJson : Json → Element
  | .obj ms => .mk (Traits.ofMembers ms) (Element.childrenIn ms) (Element.reactionsIn ms)
  | _ => default

def Element.childrenIn : List (String × Json) → List Element
  | [] => []
  | (k, v) :: rest => if k = "children" then Element.listOf v else Element.childrenIn rest

def Element.listOf : Json → List Element
  | .arr vs => Element.ofItems vs
  | _ => []

def Element.ofItems : List Json → List Element
  | [] => []
  | v :: rest => Element.ofJson v :: Element.ofItems rest

def Element.reactionsIn : List (String × Json) → List (String × List Mutation)
  | [] => []
  | (k, v) :: rest => if k = "on" then Element.reactionsOf v else Element.reactionsIn rest

def Element.reactionsOf : Json → List (String × List Mutation)
  | .obj ms => Element.reactionsOfMembers ms
  | _ => []

def Element.reactionsOfMembers : List (String × Json) → List (String × List Mutation)
  | [] => []
  | (k, v) :: rest => (k, Mutation.listOf v) :: Element.reactionsOfMembers rest

/-- The changes that a document lists, without those that are none. -/
def Mutation.listOf : Json → List Mutation
  | .arr vs => Mutation.ofItems vs
  | _ => []

def Mutation.ofItems : List Json → List Mutation
  | [] => []
  | v :: rest => (Mutation.ofJson? v).toList ++ Mutation.ofItems rest

def Mutation.ofJson? : Json → Option Mutation
  | .obj ms =>
    let query := Members.text ms "query" ""
    let position := Members.whole ms "at" 0
    match Members.text ms "do" "" with
    | "url" => some (.url (Members.text ms "value" ""))
    | "title" => some (.title (Members.text ms "value" ""))
    | "add" => some (.add query (Mutation.elementIn ms))
    | "clear" => some (.clear query)
    | "remove" => some (.remove query position)
    | "child" => some (.child query position (Mutation.elementIn ms))
    | "set" => (TraitChange.ofMembers? ms).map fun c => .change query position c
    | _ => none
  | _ => none

def Mutation.elementIn : List (String × Json) → Element
  | [] => default
  | (k, v) :: rest => if k = "element" then Element.ofJson v else Mutation.elementIn rest

end

def Page.ofMembers (ms : Members) : Page :=
  Page.enrollAll
    { url := Members.text ms "url" "about:blank"
      title := Members.text ms "title" ""
      elements := (Members.object ms "elements").map fun m => (m.1, Element.listOf m.2)
      redirects := Members.texts ms "redirects"
      foundWord := (Members.get? ms "evaluate").getD .null
      errors := Members.texts ms "errors"
      mismatch := ((Members.get? ms "mismatch").getD .null).asStr? }

/-- A page read from a document; what is no object is an empty page. -/
def Page.ofJson : Json → Page
  | .obj ms => Page.ofMembers ms
  | _ => {}

end Walkthrough
