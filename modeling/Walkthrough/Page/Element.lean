import Walkthrough.Json.Basic
import Walkthrough.Text.LowerCase

/-! Elements of a page, and the changes that calls on them bring about. -/
namespace Walkthrough

/-- What can be seen of an element besides its children. `info` and `nodes` are what scripts find
where that is not what the rest shows; calls whose names are among `errors` are refused. -/
structure Traits where
  id : Nat := 0
  name : String := "el"
  tag : String := "div"
  type : String := ""
  text : String := ""
  value : String := ""
  attributes : Members := []
  styles : Members := []
  visible : Bool := true
  disabled : Bool := false
  readOnly : Bool := false
  textNodes : List String := []
  errors : List (String × String) := []
  info : Option Json := none
  nodes : Option Json := none
  deriving Inhabited

/-- A change of one trait. -/
inductive TraitChange where
  | text (s : String)
  | value (s : String)
  | visible (b : Bool)
  deriving DecidableEq, Repr

def TraitChange.apply : TraitChange → Traits → Traits
  | text s, t => { t with text := s }
  | value s, t => { t with value := s }
  | visible b, t => { t with visible := b }

mutual

/-- An element with its children, and the changes that each call on it brings about. -/
inductive Element where
  | mk (traits : Traits) (children : List Element) (reactions : List (String × List Mutation))

/-- A change of the page. Elements are found by the query that they stand under and their number
there. -/
inductive Mutation where
  | url (value : String)
  | title (value : String)
  | add (query : String) (e : Element)
  | clear (query : String)
  | remove (query : String) (position : Int)
  | change (query : String) (position : Int) (c : TraitChange)
  | child (query : String) (position : Int) (e : Element)

end

instance : Inhabited Element := ⟨.mk {} [] []⟩

instance : Inhabited Mutation := ⟨.url ""⟩

/-- The value under a name. -/
def namedValue? {α : Type} (pairs : List (String × α)) (name : String) : Option α :=
  (pairs.find? (·.1 == name)).map (·.2)

namespace Element

def traits : Element → Traits
  | mk t _ _ => t

def children : Element → List Element
  | mk _ cs _ => cs

def name (e : Element) : String := e.traits.name

def withTraits (f : Traits → Traits) : Element → Element
  | mk t cs rs => mk (f t) cs rs

def addChild (child : Element) : Element → Element
  | mk t cs rs => mk t (cs ++ [child]) rs

/-- The changes that a call brings about. -/
def reactionsTo (call : String) : Element → List Mutation
  | mk _ _ rs => (namedValue? rs call).getD []

mutual

/-- The element and everything in it with numbers of their own from `n` on, and the next number. -/
def numbered (n : Nat) : Element → Element × Nat
  | mk t cs rs =>
    let (cs, next) := numberedAll (n + 1) cs
    (mk { t with id := n } cs rs, next)

def numberedAll (n : Nat) : List Element → List Element × Nat
  | [] => ([], n)
  | e :: rest =>
    let (e, next) := numbered n e
    let (rest, last) := numberedAll next rest
    (e :: rest, last)

end

mutual

/-- Changes the traits of the element with a number, wherever it stands. -/
def updateId (id : Nat) (f : Traits → Traits) : Element → Element
  | mk t cs rs => mk (if t.id = id then f t else t) (updateIdAll id f cs) rs

def updateIdAll (id : Nat) (f : Traits → Traits) : List Element → List Element
  | [] => []
  | e :: rest => updateId id f e :: updateIdAll id f rest

end

mutual

/-- The texts in an element and below it, except those below excluded tags. -/
def textNodes (excluded : List String) : Element → List String
  | mk t cs _ => t.textNodes ++ textNodesBelow excluded cs

def textNodesBelow (excluded : List String) : List Element → List String
  | [] => []
  | mk t cs rs :: rest =>
    (if excluded.contains (Text.lower t.tag) then [] else textNodes excluded (mk t cs rs)) ++
      textNodesBelow excluded rest

end

/-- An attribute; one that is not there reads as empty text. -/
def attribute? (e : Element) (key : String) : Option Json := e.traits.attributes.get? key

def hasAttribute (e : Element) (key expected : String) : Bool :=
  match e.attribute? key with
  | some (.str s) => s == expected
  | _ => false

/-- Whether text can be typed into the element, as far as its tag and attributes show. -/
def looksLikeInput (e : Element) : Bool :=
  e.traits.tag == "input" || e.traits.tag == "textarea" ||
    e.hasAttribute "contenteditable" "true" || e.hasAttribute "role" "textbox"

/-- What a script tells of the element. -/
def description (e : Element) : Json :=
  match e.traits.info with
  | some v => v
  | none =>
    let get := fun key => (e.attribute? key).getD (.str "")
    .obj [("tag", .str e.traits.tag), ("type", .str e.traits.type), ("role", get "role"),
      ("name", get "name"), ("id", get "id"), ("placeholder", get "placeholder"),
      ("disabled", .bool e.traits.disabled), ("readOnly", .bool e.traits.readOnly),
      ("contentEditable", .bool (e.hasAttribute "contenteditable" "true"))]

end Element
end Walkthrough
