import Walkthrough.Json.Printer
import Walkthrough.Schema.Problem

/-! Problems as documents. -/
namespace Walkthrough.Schema

/-- The name under which a kind of problem is reported. -/
def Fault.name : Fault → String
  | missing => "missing"
  | unknownKey => "extra_forbidden"
  | notText => "string_type"
  | notList => "list_type"
  | notObject => "dict_type"
  | notOneOf => "literal_error"
  | belowMinimum => "greater_than_equal"
  | notWhole => "int_type"
  | unreadableWhole => "int_parsing"
  | fractional => "int_from_float"
  | wholeTooLarge => "int_parsing_size"
  | notFinite => "finite_number"
  | notTruth => "bool_type"
  | unreadableTruth => "bool_parsing"
  | notModel => "model_type"
  | notStep => "model_attributes_type"
  | noAction => "union_tag_not_found"
  | unknownAction => "union_tag_invalid"
  | rule _ => "value_error"

def Place.toJson : Place → Json
  | key k => .str k
  | item n => .int n

namespace Problem

def placeJson (p : Problem) : Json := .arr (p.place.map Place.toJson)

/-- A problem with its place; only a rule that was broken has a message. -/
def toJson (p : Problem) : Json :=
  .obj ([("loc", p.placeJson), ("type", .str p.fault.name)] ++
    match p.fault with
    | .rule message => [("msg", .str ("Value error, " ++ message))]
    | _ => [])

/-- The text by which problems are put in order: place first, kind second. -/
def sortKey (p : Problem) : String := (Json.arr [p.placeJson, .str p.fault.name]).render true

def sorted (ps : List Problem) : List Problem :=
  ps.mergeSort fun a b => decide (a.sortKey ≤ b.sortKey)

end Problem
end Walkthrough.Schema
