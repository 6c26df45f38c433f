import ManagedSwitch.Table
import ManagedSwitch.Text.Quoted
import ManagedSwitch.Text.Split
import ManagedSwitch.Number.Integer

/-!
# Files

A path is kept in its shortest spelling that names the same file without looking at the disk: no
empty parts and no parts that name the folder they stand in.  Opening a path gives the bytes of a
file or the reason why there are none.
-/

namespace ManagedSwitch
namespace File

section Paths

def parts (path : List Char) : List (List Char) :=
  (Text.splitOn '/' path).filter fun p => !p.isEmpty && p != ['.']

/-- The beginning of a path that starts at the root; two slashes are not the same as one. -/
def rootOf : List Char → List Char
  | '/' :: '/' :: '/' :: _ => ['/']
  | '/' :: '/' :: _ => ['/', '/']
  | '/' :: _ => ['/']
  | _ => []

/-- The shortest spelling of a path. -/
def normalPath (path : String) : String :=
  let cs := path.toList
  let body := ['/'].intercalate (parts cs)
  match rootOf cs ++ body with
  | [] => "."
  | cs => String.ofList cs

end Paths

section Opening

/-- What opening a path gives. -/
inductive Found
  /-- The bytes of a file. -/
  | content (bytes : Bytes)
  /-- No file, with the number and the text of the reason. -/
  | refused (code : Nat) (reason : String)
  /-- The path cannot be the name of anything. -/
  | notName

def refusalText
    (code : Nat)
    (reason path : String) :
    String :=
  "[Errno " ++ Number.natText code ++ "] " ++ reason ++ ": " ++ Text.quote path

/-- Files in one folder, by their names. -/
abbrev Folder := Table String Bytes

/-- Where a path has led so far: to the folder itself, or to another one, of which nothing is
known but that it is not inside the folder. -/
inductive Spot
  | here
  | elsewhere
deriving DecidableEq

def follow
    (folder : Folder)
    (spot : Spot) :
    List (List Char) → Found
  | [] => .refused 21 "Is a directory"
  | part :: rest =>
    if part = ['.', '.'] then
      follow folder .elsewhere rest
    else if 255 < Text.Utf8.size (String.ofList part) then
      .refused 36 "File name too long"
    else
      match spot, folder.get? (String.ofList part) with
      | .here, some bytes =>
        if rest.isEmpty then .content bytes else .refused 20 "Not a directory"
      | _, _ => .refused 2 "No such file or directory"

/-- The number of bytes from which on a path is too long to be looked up. -/
def pathLimit : Nat := 4096

def Folder.openPath
    (folder : Folder)
    (path : String) :
    Found :=
  let cs := path.toList
  if cs.contains '\x00' then
    .notName
  else if pathLimit ≤ Text.Utf8.size path then
    .refused 36 "File name too long"
  else
    follow folder (if (rootOf cs).isEmpty then .here else .elsewhere) (parts cs)

end Opening

end File
end ManagedSwitch
