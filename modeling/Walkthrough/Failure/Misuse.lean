/-! Uses of a value for which its kind is not made. -/
namespace Walkthrough

/-- The use, and the name of the kind where it matters. -/
inductive Misuse where
  | asNumber (kind : String)
  | asPath (kind : String)
  | asTable (kind : String)
  | asSequence (kind : String)
  | asKey (kind : String)
  | asText (kind : String) (position : Nat)
  | lookUp (kind : String)
  | lookUpInText
  | lookUpInList
  | asSliceBound
  | asStep
  | addToText
  | addToList
  | add (kind : String)
  | registerFrom (module : String)
  | relativeModule (module : String)
  deriving DecidableEq, Repr

def Misuse.message : Misuse → String
  | asNumber kind =>
    s!"int() argument must be a string, a bytes-like object or a real number, not '{kind}'"
  | asPath kind => s!"expected str, bytes or os.PathLike object, not {kind}"
  | asTable kind => s!"'{kind}' object is not a mapping"
  | asSequence kind => s!"'{kind}' object is not iterable"
  | asKey kind => s!"unhashable type: '{kind}'"
  | asText kind position => s!"sequence item {position}: expected str instance, {kind} found"
  | lookUp kind => s!"'{kind}' object is not subscriptable"
  | lookUpInText => "string indices must be integers, not 'str'"
  | lookUpInList => "list indices must be integers or slices, not str"
  | asSliceBound => "slice indices must be integers or None or have an __index__ method"
  | asStep => "model must subclass StepBase"
  | addToText => "can only concatenate str (not \"int\") to str"
  | addToList => "can only concatenate list (not \"int\") to list"
  | add kind => s!"unsupported operand type(s) for +: '{kind}' and 'int'"
  | relativeModule module =>
    s!"the 'package' argument is required to perform a relative import for '{module}'"
  | registerFrom module => s!"Plugin module '{module}' does not define register(registry)"

end Walkthrough
