/-!
A directory of texts that is read by path, and why a text cannot be read. A path may go through the
directories below it and around it; of those around it nothing is known but that they are there, and
the null device.
-/

set_option autoImplicit false
set_option relaxedAutoImplicit false

/-! ### Failures -/

namespace SceneRenderer

inductive ReadFailure
  | noSuchFile
  /-- The path goes on behind a file. -/
  | notDirectory
  | isDirectory
  | nameTooLong
  /-- The path holds a character that ends every name. -/
  | nulCharacter
  | other (reason : String)
deriving Repr, DecidableEq, Inhabited

namespace ReadFailure

/-- The reason that a system gives, with its number. -/
def systemMessage (reason : String) (code : Nat) : String :=
  reason ++ " (os error " ++ toString code ++ ")"

def message : ReadFailure → String
  | noSuchFile => systemMessage "No such file or directory" 2
  | notDirectory => systemMessage "Not a directory" 20
  | isDirectory => systemMessage "Is a directory" 21
  | nameTooLong => systemMessage "File name too long" 36
  | nulCharacter => "file name contained an unexpected NUL byte"
  | other reason => reason

end ReadFailure

/-- What came of reading a file. -/
abbrev ReadResult := Except ReadFailure String

end SceneRenderer

/-! ### Folders -/

namespace SceneRenderer

/-- Texts by the names on the way to them. -/
structure Folder where
  files : List (List String × String)
deriving Repr, DecidableEq, Inhabited

/-- Where a path leads. -/
inductive Place
  /-- A directory of the folder, by the names on the way to it. -/
  | inside (names : List String)
  /-- A directory around the folder. -/
  | around
  | file (text : String)
deriving Repr, DecidableEq, Inhabited

namespace Folder

/-- The names of a path. -/
def pathNames (path : String) : List String := path.splitOn "/"

def ofFiles (files : List (String × String)) : Folder :=
  ⟨files.map fun f => ((pathNames f.1).filter fun n => n != "" && n != ".", f.2)⟩

/-- What has a name in a directory. -/
def child (folder : Folder) (names : List String) (name : String) : Except ReadFailure Place :=
  let path := names ++ [name]
  match folder.files.lookup path with
  | some text => .ok (.file text)
  | none =>
    if folder.files.any fun f => path.isPrefixOf f.1 then .ok (.inside path)
    else .error .noSuchFile

/-- One step of a path. Only a directory has a next step. -/
def step (folder : Folder) (place : Place) (name : String) : Except ReadFailure Place :=
  match place with
  | .file _ => .error .notDirectory
  | .around =>
    if name = "" ∨ name = "." ∨ name = ".." then .ok .around
    else if 255 < name.utf8ByteSize then .error .nameTooLong
    else .error .noSuchFile
  | .inside names =>
    if name = "" ∨ name = "." then .ok (.inside names)
    else if name = ".." then .ok (if names.isEmpty then .around else .inside names.dropLast)
    else if 255 < name.utf8ByteSize then .error .nameTooLong
    else folder.child names name

/-- The device that reads as an empty text. -/
def nullDevice : String := "/dev/null"

/-- The text at a path, which starts in the folder or, with a slash, around it. -/
def read (folder : Folder) (path : String) : ReadResult :=
  if path.contains (Char.ofNat 0) then .error .nulCharacter
  else if path.isEmpty then .error .noSuchFile
  else if 4096 ≤ path.utf8ByteSize then .error .nameTooLong
  else if path = nullDevice then .ok ""
  else
    match (pathNames path).foldlM folder.step (if path.startsWith "/" then .around else .inside [])
      with
    | .ok (.file text) => .ok text
    | .ok _ => .error .isDirectory
    | .error failure => .error failure

end Folder

end SceneRenderer
