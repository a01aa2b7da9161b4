/-!
# Paths

A path is text whose parts are divided by slashes. Empty parts and single dots name nothing of
their own, so the name that a path ends in is its last other part, unless that goes up.
-/

namespace GuardedProxy.Path

/-- The stretches between slashes, empty ones included. -/
def splitSlashes : List Char → List (List Char)
  | [] => [[]]
  | c :: rest =>
    match splitSlashes rest with
    | [] => [[c]]
    | part :: parts => if c = '/' then [] :: part :: parts else (c :: part) :: parts

/-- The parts of a path that name something. -/
def parts (path : String) : List String :=
  ((splitSlashes path.toList).map String.ofList).filter fun part ↦ part ≠ "" ∧ part ≠ "."

def isAbsolute (path : String) : Bool := path.toList.head? = some '/'

/-- The name that a path ends in. -/
def lastName (path : String) : Option String := (parts path).getLast?.filter (· ≠ "..")

/-- The directory that a path ends in, unless the path has but one part. -/
def parent? (path : String) : Option String :=
  match (parts path).dropLast with
  | [] => none
  | front => some ((if isAbsolute path then "/" else "") ++ String.intercalate "/" front)

/-- A name without its extension: the text before the last dot, unless that is empty. -/
def stem (name : String) : String :=
  match (name.toList.reverse.dropWhile (· ≠ '.')).tail with
  | [] => name
  | c :: cs => String.ofList (c :: cs).reverse

/-- The path of `name` seen from `directory`. An absolute name stands for itself. -/
def join (directory name : String) : String :=
  if isAbsolute name then name
  else if directory.toList.getLast?.all (· = '/') then directory ++ name
  else directory ++ "/" ++ name

end GuardedProxy.Path
