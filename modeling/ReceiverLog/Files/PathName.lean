import ReceiverLog.Text.Split

namespace ReceiverLog

/-! Names of files: parts with a slash between them. A name that begins with
a slash is looked up from the root. -/

namespace PathName

def separator : Char := '/'

def longestName : Nat := 255

def longestPath : Nat := 4095

def isAbsolute (path : String) : Bool :=
  path.toList.head? == some separator

/-- The name of a file in a directory. An absolute name stands for itself,
and a directory with no name adds nothing. -/
def join (directory path : String) : String :=
  if isAbsolute path || directory.isEmpty then path
  else if directory.toList.getLast? = some separator then directory ++ path
  else directory ++ "/" ++ path

/-- The parts of a path. Between two slashes in a row there is an empty one. -/
def names (path : String) : List String :=
  (Text.split separator path.toList).map String.ofList

def ofNames (names : List String) : String :=
  String.intercalate "/" names

def isIdle (name : String) : Bool :=
  name == "" || name == "."

def withoutIdleEnd (names : List String) : List String :=
  (names.reverse.dropWhile isIdle).reverse

def parent (path : String) : String :=
  let above := ofNames (withoutIdleEnd (withoutIdleEnd (names path)).dropLast)
  if above.isEmpty && isAbsolute path then "/" else above

def fileName? (path : String) : Option String :=
  (withoutIdleEnd (names path)).getLast?.filter (· != "..")

end PathName

end ReceiverLog
