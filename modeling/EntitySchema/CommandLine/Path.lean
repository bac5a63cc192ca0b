/-!
# CommandLine/Path — paths as text
-/

namespace EntitySchema.Path

/-- The parts of a path between its slashes. -/
def parts (path : String) : List String := (path.toList.splitOn '/').map String.ofList

/-- A name in a path: there is no slash in it. -/
def IsName (part : String) : Prop := '/' ∉ part.toList

instance (part : String) : Decidable (IsName part) := inferInstanceAs (Decidable (¬ _))

/-- Does the path start at the root? -/
def isAbsolute (path : String) : Bool := path.toList.head? = some '/'

/-- Does the path end in a slash? -/
def endsInSlash (path : String) : Bool := path.toList.getLast? = some '/'

/-- The parts of a path that ends in a slash, up to the folder that holds what it names. -/
def folderParts (path : String) : List String :=
  (((parts path).reverse.dropWhile (· = "")).drop 1).reverse

/-- A path, given backwards, without slashes and `/.` at its end. -/
def trimBackwards : List Char → List Char
  | '/' :: cs => trimBackwards cs
  | '.' :: '/' :: cs => trimBackwards cs
  | cs => cs

/-- The path of the folder that holds a file; empty for a file named without one. -/
def parent (path : String) : String :=
  let folder := trimBackwards ((trimBackwards path.toList.reverse).dropWhile (· ≠ '/'))
  if folder.isEmpty && isAbsolute path then "/" else String.ofList folder.reverse

/-- The path of `name` in the folder of a file. -/
def sibling (path name : String) : String :=
  let folder := parent path
  if folder = "" then name
  else if endsInSlash folder then folder ++ name
  else folder ++ "/" ++ name

end EntitySchema.Path
