import RollingUpgrade.Text.Separator

namespace RollingUpgrade.Charm

-- The text without a revision at its end: a hyphen and at least one digit.
def dropRevision (s : List Char) : List Char :=
  let reversed := s.reverse
  let digits := reversed.takeWhile Char.isDigit
  match digits, reversed.dropWhile Char.isDigit with
  | _ :: _, '-' :: rest => rest.reverse
  | _, _ => s

-- What is left of the last path segment without its revision and without a schema.
def nameChars (url : List Char) : List Char :=
  Text.afterLast ':' (dropRevision (Text.afterLast '/' url))

def name (url : String) : String := .ofList (nameChars url.toList)

end RollingUpgrade.Charm
