import StoryScript.Files.Tree

/-!
What a program does with files, be they those of a system or those of a tree.
-/

namespace StoryScript

structure Files (m : Type → Type) where
  hasEntry : String → m Bool
  isDirectory : String → m Bool
  readText : String → m (Except Fault String)
  write : String → String → m (Except Fault Unit)
  makeDirectory : String → m (Except Fault Unit)
  append : String → String → m (Except Fault Unit)
  walk : String → m (List FileTree.Found)

namespace Files

variable {m : Type → Type} [Monad m]

/-- Makes the first of some directories, each of which is in the next one. Those that are missing
are made from the last one on, and stay where one before them cannot be made. -/
def makeFirst (files : Files m) : List String → m (Except Fault Unit)
  | [] => return .ok ()
  | path :: above => do
      let orPresent (fault : Fault) : m (Except Fault Unit) :=
        return if ← files.isDirectory path then .ok () else .error fault
      match ← files.makeDirectory path with
      | .ok () => return .ok ()
      | .error .notFound =>
          match ← makeFirst files above with
          | .error fault => return .error fault
          | .ok () =>
              match ← files.makeDirectory path with
              | .ok () => return .ok ()
              | .error fault => orPresent fault
      | .error fault => orPresent fault

def createDirectories (files : Files m) (path : String) : m (Except Fault Unit) :=
  files.makeFirst (FileTree.ancestors path)

end Files

namespace FileTree

def attempt (change : FileTree → Except Fault FileTree) : StateM FileTree (Except Fault Unit) := do
  match change (← get) with
  | .ok tree =>
      set tree
      return .ok ()
  | .error fault => return .error fault

def files : Files (StateM FileTree) where
  hasEntry path := return (← get).hasEntry path
  isDirectory path := return (← get).isDirectory path
  readText path := return (← get).readText path
  write path text := attempt fun tree => tree.write path text.toUTF8
  makeDirectory path := attempt fun tree => tree.makeDirectory path
  append path text := attempt fun tree => tree.append path text.toUTF8
  walk path := return (← get).walk path

def withDirectory (tree : FileTree) (path : String) : Except Fault FileTree :=
  let (outcome, tree) := (files.createDirectories path).run tree
  outcome.map fun () => tree

def withFile (tree : FileTree) (path : String) (content : ByteArray) : Except Fault FileTree := do
  let tree ← tree.withDirectory ((ancestors path)[1]?.getD "")
  tree.write path content

end FileTree

end StoryScript
