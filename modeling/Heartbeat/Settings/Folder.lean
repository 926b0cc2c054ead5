import Heartbeat.Settings.Store

/-!
# Settings in files

`Store.loadFile` loads settings from the file with a path, or else from the file with that path and
`.ini` at the end of its last name. What a path holds is a parameter, so that files on disk and
files held in memory serve alike; `Folder` is the second kind: `Folder.insert` puts a file at the end
of a path and `Folder.read?` follows a path to a file.
-/

set_option autoImplicit false
set_option relaxedAutoImplicit false

namespace Heartbeat.Settings

/-! ### Paths -/

/-- The names in a path between its slashes. -/
def pathNames (path : String) : List String :=
  path.splitOn "/"

/-- A path from its last character to its first, without slashes and single dots at its end. -/
def withoutEmptyEnd : List Char → List Char
  | '/' :: rest => withoutEmptyEnd rest
  | '.' :: '/' :: rest => withoutEmptyEnd rest
  | reversed => reversed

/-- A path with `.ini` at the end of its last name, if it has a last name. -/
def withExtension? (path : String) : Option String :=
  let reversed := withoutEmptyEnd path.toList.reverse
  let last := String.ofList (reversed.takeWhile (· != '/')).reverse
  if last = "" ∨ last = "." ∨ last = ".." then none
  else some (String.ofList reversed.reverse ++ ".ini")

/-- A path as messages show it: without empty names and single dots. -/
def shownPath (path : String) : String :=
  let names := (pathNames path).filter fun name ↦ name != "" && name != "."
  (if path.startsWith "/" then "/" else "") ++ "/".intercalate names

/-! ### Loading -/

/-- The paths that are tried for a path, in order. -/
def candidates (path : String) : List String :=
  path :: (withExtension? path).toList

/-- The store of the settings in the file with a path; `read` gives the bytes of the file that a
path leads to, if it leads to one. -/
def Store.loadFile (read : String → Option ByteArray) (path : String) : Except Fault Loading :=
  let found? := (candidates path).findSome? fun candidate ↦
    (read candidate).map fun bytes ↦ (candidate, bytes)
  let loading : Except Fault Loading := match found? with
    | none => .ok ⟨[], .error (.load (.notFound path))⟩
    | some (candidate, bytes) =>
      match String.fromUTF8? bytes with
      | none => .ok ⟨[], .error (.load .notUnicode)⟩
      | some text => Store.ofText text (some (shownPath candidate))
  loading.map fun loaded ↦ { loaded with notices := .reading path :: loaded.notices }

/-! ### Files in memory -/

/-- Files with their bytes, and folders, each at the place that names from the top lead to. The
folders on the way to an item exist as well, and of two files at one place the first is there. -/
structure Folder where
  items : List (List String × Option ByteArray)

namespace Folder

/-- The folder with nothing in it. -/
def empty : Folder := ⟨[]⟩

/-- The place that a name leads to from a place, if it does not leave the top. A name that is empty
or a dot stays, and two dots go back. -/
def follow? (place : List String) (name : String) : Option (List String) :=
  if name = "" ∨ name = "." then some place
  else if name = ".." then if place = [] then none else some place.dropLast
  else some (place ++ [name])

/-- The places that names lead through from a place, from that place to the last one. -/
def route? (place : List String) : List String → Option (List (List String))
  | [] => some [place]
  | name :: names =>
    (follow? place name).bind fun next ↦ (route? next names).map (place :: ·)

/-- The folder after a file with some bytes, or a folder, was put at the end of a path. All that the
path leads through becomes a folder, and a path that leaves the top changes nothing. -/
def insert (folder : Folder) (path : String) (content : Option ByteArray) : Folder :=
  match (route? [] (pathNames path)).map List.reverse with
  | some (place :: passed) => ⟨(place, content) :: passed.map (·, none) ++ folder.items⟩
  | _ => folder

/-- Whether names lead to a folder. -/
def holdsFolder (folder : Folder) (names : List String) : Bool :=
  names == [] || folder.items.any fun item ↦
    names.isPrefixOf item.1 && (item.2.isNone || item.1.length != names.length)

/-- The bytes of the file that a path leads to, where all that it leads through are folders. -/
def read? (folder : Folder) (path : String) : Option ByteArray :=
  if path.startsWith "/" then none
  else match (route? [] (pathNames path)).map List.reverse with
    | some (place :: passed) =>
      if passed.all folder.holdsFolder then
        (folder.items.find? fun item ↦ item.1 == place && item.2.isSome).bind Prod.snd
      else none
    | _ => none

end Folder

end Heartbeat.Settings
