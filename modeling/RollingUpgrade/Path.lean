import RollingUpgrade.Text.Blank

namespace RollingUpgrade.Path

def isAbsolute (path : String) : Bool := path.toList.head? == some '/'

-- The components between slashes. Empty ones and single points say nothing.
def components (path : String) : List String :=
  ((Text.splitWhere (· == '/') path.toList).map String.ofList).filter fun c => c != "" && c != "."

def fileName? (path : String) : Option String :=
  (components path).getLast?.filter (· != "..")

def join (base rest : String) : String :=
  if isAbsolute rest || base.isEmpty then rest
  else if base.toList.getLast? == some '/' then base ++ rest
  else base ++ "/" ++ rest

end RollingUpgrade.Path
