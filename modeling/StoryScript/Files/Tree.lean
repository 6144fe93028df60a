import StoryScript.Files.Fault

/-!
A tree of files below a working directory. The entries are listed in the order of a walk, each
directory before what it holds, and the entries of a directory in the order of their names.
-/

namespace StoryScript

inductive FileEntry
  | directory
  | file (content : ByteArray)

structure FileTree where
  /-- All entries but the working directory itself, by the names that lead to them. -/
  entries : List (List String × FileEntry) := []

namespace FileTree

abbrev Route := List String

def entry? (tree : FileTree) (route : Route) : Option FileEntry :=
  if route.isEmpty then some .directory else tree.entries.lookup route

def precedes : Route → Route → Bool
  | _, [] => false
  | [], _ :: _ => true
  | name :: rest, other :: others => name < other || (name == other && precedes rest others)

def place (route : Route) (entry : FileEntry) : List (Route × FileEntry) → List (Route × FileEntry)
  | [] => [(route, entry)]
  | head :: rest =>
      if head.1 = route then (route, entry) :: rest
      else if precedes route head.1 then (route, entry) :: head :: rest
      else head :: place route entry rest

def put (tree : FileTree) (route : Route) (entry : FileEntry) : FileTree :=
  ⟨place route entry tree.entries⟩

def follow (tree : FileTree) (route : Route) : List String → Except Fault Route
  | [] => .ok route
  | part :: rest =>
      match tree.entry? route with
      | none => .error .notFound
      | some (.file _) => .error .notDirectory
      | some .directory =>
          if part.isEmpty || part = "." then follow tree route rest
          else if part = ".." then follow tree route.dropLast rest
          else if part.utf8ByteSize > 255 then .error .nameTooLong
          else follow tree (route ++ [part]) rest

def parts (path : String) : List String :=
  (path.toList.splitOn '/').map String.ofList

/-- Where the parts of a path lead, whether or not there is an entry. Paths that do not start at the
working directory lead nowhere. -/
def resolve (tree : FileTree) (path : String) (parts : List String) : Except Fault Route :=
  if path.isEmpty then .error .notFound
  else if path.toList.contains '\x00' then .error .nullInPath
  else if path.utf8ByteSize > 4095 then .error .nameTooLong
  else if path.toList.head? = some '/' then .error .notFound
  else tree.follow [] parts

def locate (tree : FileTree) (path : String) : Except Fault Route :=
  tree.resolve path (parts path)

def find (tree : FileTree) (path : String) : Except Fault (Route × FileEntry) := do
  let route ← tree.locate path
  match tree.entry? route with
  | some entry => return (route, entry)
  | none => .error .notFound

def hasEntry (tree : FileTree) (path : String) : Bool :=
  (tree.find path).isOk

def isDirectory (tree : FileTree) (path : String) : Bool :=
  match tree.find path with
  | .ok (_, .directory) => true
  | _ => false

def readBytes (tree : FileTree) (path : String) : Except Fault ByteArray := do
  match ← tree.find path with
  | (_, .file content) => return content
  | (_, .directory) => .error .isDirectory

def readText (tree : FileTree) (path : String) : Except Fault String := do
  decodeText (← tree.readBytes path)

def openFile (tree : FileTree) (path : String) : Except Fault (Route × ByteArray) := do
  let route ← tree.locate path
  match tree.entry? route with
  | some (.file content) => return (route, content)
  | some .directory => .error .isDirectory
  | none => return (route, ByteArray.empty)

def write (tree : FileTree) (path : String) (content : ByteArray) : Except Fault FileTree := do
  let (route, _) ← tree.openFile path
  return tree.put route (.file content)

def append (tree : FileTree) (path : String) (content : ByteArray) : Except Fault FileTree := do
  let (route, before) ← tree.openFile path
  return tree.put route (.file (before ++ content))

/-- Makes one directory. Slashes at the end of its path do not count. -/
def makeDirectory (tree : FileTree) (path : String) : Except Fault FileTree := do
  let route ← tree.resolve path ((parts path).reverse.dropWhile String.isEmpty).reverse
  match tree.entry? route with
  | some _ => .error .exists
  | none => return tree.put route .directory

/-- Whether a part of a path, other than its first one, leads nowhere. -/
def isIdle (part : String) : Bool :=
  part.isEmpty || part = "."

def dropIdle : List String → List String
  | [] => []
  | part :: rest => if isIdle part && !rest.isEmpty then dropIdle rest else part :: rest

def pathsAbove : List String → List String
  | [] => []
  | part :: rest =>
      if isIdle part && !rest.isEmpty then pathsAbove rest
      else "/".intercalate (dropIdle rest).reverse :: pathsAbove rest

def ancestors (path : String) : List String :=
  (path :: pathsAbove (parts path).reverse).filter fun path => !path.isEmpty

def join (path : String) (route : Route) : String :=
  route.foldl (fun path name =>
    if path.toList.getLast? = some '/' then path ++ name else path ++ "/" ++ name) path

inductive Found
  | file (path : String) (content : Except Fault String)
  | fault (path : String) (fault : Fault)

def walk (tree : FileTree) (path : String) : List Found :=
  match tree.find path with
  | .error fault => [.fault path fault]
  | .ok (_, .file content) => [.file path (decodeText content)]
  | .ok (route, .directory) =>
      tree.entries.filterMap fun (name, entry) =>
        match entry, route.isPrefixOf? name with
        | .file content, some below => some (.file (join path below) (decodeText content))
        | _, _ => none

end FileTree

end StoryScript
