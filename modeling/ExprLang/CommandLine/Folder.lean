/-!
Reading a file of a folder. A path goes from the folder along its names: an empty name or a dot
stays, two dots go up, and any other name has to be there. Only a folder can be gone into, and only
a file can be read. Nothing is known of what lies outside the folder but that it is a folder itself.
-/
set_option autoImplicit false

namespace ExprLang.CommandLine

/-- Why a file cannot be read. -/
inductive ReadError
  | notFound
  | notDirectory
  | isDirectory
  | notText
  | other (reason : String)
deriving DecidableEq, Repr

/-- The reason in words. -/
def ReadError.message : ReadError → String
  | .notFound => "No such file or directory (os error 2)"
  | .notDirectory => "Not a directory (os error 20)"
  | .isDirectory => "Is a directory (os error 21)"
  | .notText => "stream did not contain valid UTF-8"
  | .other reason => reason

/-- Something in a folder. -/
inductive FolderEntry
  | file (bytes : ByteArray)
  | folder

/-- A folder: its entries by name. -/
abbrev Folder := List (String × FolderEntry)

/-- Where a path has come to. -/
inductive Place
  | here
  | outside
  | inside (entry : FolderEntry)

namespace Place

/-- One name further along a path. -/
def step (folder : Folder) (place : Place) (name : String) : Except ReadError Place :=
  match place with
  | .inside (.file _) => .error .notDirectory
  | .here =>
    if name = "" ∨ name = "." then .ok .here
    else if name = ".." then .ok .outside
    else
      match folder.lookup name with
      | some entry => .ok (.inside entry)
      | none => .error .notFound
  | .inside .folder =>
    if name = "" ∨ name = "." then .ok place
    else if name = ".." then .ok .here
    else .error .notFound
  | .outside =>
    if name = "" ∨ name = "." ∨ name = ".." then .ok .outside else .error .notFound

end Place

/-- The bytes of the file at a path. -/
def Folder.read (folder : Folder) (path : String) : Except ReadError ByteArray := do
  let start : Place := if path.startsWith "/" then .outside else .here
  match ← (path.splitOn "/").foldlM (Place.step folder) start with
  | .inside (.file bytes) => .ok bytes
  | _ => .error .isDirectory

end ExprLang.CommandLine
