import ImageGate.Constraint.Parser
import ImageGate.Text.Quoted

/-!
# Faults of constraints in words
-/

namespace ImageGate

open Text

def Version.Place.name : Version.Place → String
  | .major => "major version number"
  | .minor => "minor version number"
  | .patch => "patch version number"
  | .pre => "pre-release identifier"
  | .build => "build metadata"

def Version.Fault.message : Version.Fault → String
  | .ends p => "unexpected end of input while parsing " ++ p.name
  | .begins p c => "unexpected character " ++ quotedChar c ++ " while parsing " ++ p.name
  | .expectedComma p c => "expected comma after " ++ p.name ++ ", found " ++ quotedChar c
  | .leadingZero p => "invalid leading zero in " ++ p.name
  | .overflow p => "value of " ++ p.name ++ " exceeds u64::MAX"
  | .emptyIdentifier p => "empty identifier segment in " ++ p.name
  | .wildcardNotAlone c =>
    "wildcard req (" ++ String.singleton c ++
      ") must be the only comparator in the version req"
  | .afterWildcard => "unexpected character after wildcard in version req"
  | .tooManyComparators => "excessive number of version comparators"

def Constraint.Fault.message : Constraint.Fault → String
  | .emptyAlternative text => "empty version constraint '" ++ String.ofList text ++ "'"
  | .danglingOperator operator =>
    "operator '" ++ String.ofList operator ++ "' without a version"
  | .openRange lower => "range '" ++ String.ofList lower ++ " -' without an upper bound"
  | .badRange lower upper =>
    "invalid range '" ++ String.ofList lower ++ " - " ++ String.ofList upper ++ "'"
  | .comparator fault => fault.message

end ImageGate
