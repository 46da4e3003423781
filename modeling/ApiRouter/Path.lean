import ApiRouter.Text.Split

set_option autoImplicit false

/-! # Paths

Paths in the file system as texts. Empty names and single periods between slashes mean nothing. -/

namespace ApiRouter.Path

/-- Whether a path starts at the root. -/
def isAbsolute (path : String) : Bool :=
  path.startsWith "/"

/-- The names on a path. -/
def names (path : String) : List String :=
  ((Text.split '/' path.toList).map String.ofList).filter fun name => name != "" && name != "."

/-- What stands before the first name: two slashes differ from one and from more. -/
def root (path : String) : String :=
  if !isAbsolute path then ""
  else if path.startsWith "//" && !path.startsWith "///" then "//"
  else "/"

/-- The path without what means nothing. -/
def normal (path : String) : String :=
  let s := root path ++ String.intercalate "/" (names path)
  if s.isEmpty then "." else s

/-- The path of a name below a directory. -/
def join (directory name : String) : String :=
  normal (if directory.endsWith "/" then directory ++ name else directory ++ "/" ++ name)

/-- The last name on a path. -/
def lastName (path : String) : String :=
  (names path).getLastD ""

/-- What follows the last period of the last name. A period at either end of the name does not
count. -/
def extension (path : String) : String :=
  let reversed := (lastName path).toList.reverse
  let extension := reversed.takeWhile (· != '.')
  let stem := reversed.drop (extension.length + 1)
  if stem.isEmpty then "" else String.ofList extension.reverse

end ApiRouter.Path
