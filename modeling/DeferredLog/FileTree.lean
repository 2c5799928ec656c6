import DeferredLog.Bytes
import DeferredLog.Text.Pieces

/-!
# A tree of files

Directories and files below a root, and the operations a log needs of them: make a directory, alone
or with all that lead to it, open a file anew, open a file to go on with it, and add bytes to an
open file. Operations may be refused; what they did before the refusal stays.

A `Path` is the list of names between slashes as it was written. It is followed name by name from
the root: an empty name stands for nothing, `.` stays, `..` goes up, and every name but the last
must be that of a directory. A file that was opened is known by its `Place`, the names that lead to
it from the root without detours.

A directory with all that lead to it is made from the end: first it alone, and only where something
on the way is missing its parent, and then it again. The parent is what the names say, so a missing
directory that is written with `.` at the end stays missing: the name before is never made alone.

The view of a tree is `get?`, and `get?_put` says what a change does to it.
-/

namespace DeferredLog

/-- Why an operation on files is refused. -/
inductive FileFault where
  | missing
  | alreadyExists
  | notDirectory
  | isDirectory
  | nameTooLong
  | zeroInName
  deriving DecidableEq, Repr

/-- What the user is told. -/
def FileFault.message : FileFault → String
  | missing => "No such file or directory (os error 2)"
  | alreadyExists => "File exists (os error 17)"
  | notDirectory => "Not a directory (os error 20)"
  | isDirectory => "Is a directory (os error 21)"
  | nameTooLong => "File name too long (os error 36)"
  | zeroInName => "file name contained an unexpected NUL byte"

/-! ### Paths -/

/-- The names of a path as they were written. -/
abbrev Path := List String

namespace Path

/-- The path that a text writes. -/
def ofText (text : String) : Path :=
  (Text.pieces '/' text.toList).map String.ofList

/-- The text of a path. -/
def text (p : Path) : String :=
  "/".intercalate p

/-- The names to follow; slashes in a row count as one. -/
def steps (p : Path) : List String :=
  p.filter (!·.isEmpty)

/-- The path that goes on from `p` with `q`. -/
def join (p q : Path) : Path :=
  if p.getLast? = some "" then p.dropLast ++ q else p ++ q

/-- The path without the names at its end that lead nowhere. -/
def trimmed (p : Path) : Path :=
  (p.reverse.dropWhile fun name ↦ name = "" ∨ name = ".").reverse

/-- The path of what holds the last name of a path. -/
def parent (p : Path) : Path :=
  trimmed p.trimmed.dropLast

/-- The longest name, in bytes. -/
def longestName : Nat := 255

/-- The bytes that a path as a whole stays below. -/
def tooLong : Nat := 4096

/-- The fault of a path that can be told without looking at any tree. -/
def fault? (p : Path) : Option FileFault :=
  if p.any (·.toList.contains '\x00') then some .zeroInName
  else if tooLong ≤ p.text.utf8ByteSize then some .nameTooLong
  else none

theorem length_trimmed_le (p : Path) : p.trimmed.length ≤ p.length := by
  simpa [trimmed] using
    (List.dropWhile_suffix (l := p.reverse) fun name ↦ name = "" ∨ name = ".").length_le

/-- A parent has fewer names. -/
theorem length_parent_lt {p : Path} (h : p ≠ []) : p.parent.length < p.length := by
  have hp := List.length_pos_iff.2 h
  have outer := length_trimmed_le p
  have inner := length_trimmed_le p.trimmed.dropLast
  rw [List.length_dropLast] at inner
  unfold parent
  omega

example : (ofText "a/./b/.").parent = ["a"] ∧ (ofText "a/../b").parent = ["a", ".."] := by
  decide +kernel

end Path

/-! ### Trees -/

/-- Where something stands in a tree: the names that lead to it from the root. -/
abbrev Place := List String

/-- What can stand at a place. -/
inductive FileTree.Node where
  | directory
  | file (bytes : ByteArray)
  deriving DecidableEq

/-- A tree of files: what stands at which place. Of several entries for a place the first counts. -/
structure FileTree where
  entries : List (Place × FileTree.Node) := []

namespace FileTree

/-- What stands at a place; the root is always a directory. -/
def get? (t : FileTree) (place : Place) : Option Node :=
  if place = [] then some .directory else t.entries.lookup place

/-- Puts something at a place, instead of what stood there. -/
def put (t : FileTree) (place : Place) (node : Node) : FileTree :=
  ⟨(place, node) :: t.entries.filter (·.1 ≠ place)⟩

/-- The places of all files with their contents. -/
def files (t : FileTree) : List (Place × ByteArray) :=
  t.entries.filterMap fun e ↦
    match e.2 with
    | .file bytes => some (e.1, bytes)
    | .directory => none

/-- The place that a name leads to from a directory, whatever stands there. -/
def toward (directory : Place) (name : String) : Except FileFault Place :=
  if name = "." then .ok directory
  else if name = ".." then .ok directory.dropLast
  else if name.utf8ByteSize ≤ Path.longestName then .ok (directory ++ [name])
  else .error .nameTooLong

/-- Follows names from a directory, all of which must be those of directories. -/
def follow (t : FileTree) : (directory : Place) → Path → Except FileFault Place
  | directory, [] => .ok directory
  | directory, name :: names =>
    match toward directory name with
    | .error fault => .error fault
    | .ok place =>
      match t.get? place with
      | some .directory => t.follow place names
      | some (.file _) => .error .notDirectory
      | none => .error .missing

/-- Follows names from a directory up to the last one, and tells the place of that, whatever stands
there. -/
def locateFrom (t : FileTree) (directory : Place) (names : List String) :
    Except FileFault Place :=
  match names.getLast? with
  | none => .ok directory
  | some name =>
    match t.follow directory names.dropLast with
    | .error fault => .error fault
    | .ok directory => toward directory name

/-- The place that a path leads to, whatever stands there. -/
def locate (t : FileTree) (p : Path) : Except FileFault Place :=
  match p.fault? with
  | some fault => .error fault
  | none => t.locateFrom [] p.steps

/-! ### Making directories -/

/-- Makes a directory, named from another one, unless it is there already. All that lead to it must
be there, and its place must not be that of a file. -/
def makeDirectory (t : FileTree) (start : Place) (names : List String) :
    Except FileFault Place × FileTree :=
  match t.locateFrom start names with
  | .error fault => (.error fault, t)
  | .ok place =>
    match t.get? place with
    | some .directory => (.ok place, t)
    | some (.file _) => (.error .alreadyExists, t)
    | none => (.ok place, t.put place .directory)

/-- Makes the directory that names lead to, with all on the way to it. -/
def makeAlong (t : FileTree) (names : List String) : Except FileFault Place × FileTree :=
  if _ : names = [] then (.ok [], t)
  else
    match t.makeDirectory [] names with
    | (.error .missing, t) =>
      match t.makeAlong (Path.parent names) with
      | (.error fault, t) => (.error fault, t)
      | (.ok place, t) => t.makeDirectory place (names.drop (Path.parent names).length)
    | answer => answer
termination_by names.length
decreasing_by exact Path.length_parent_lt ‹¬names = []›

/-- Makes a directory with all that lead to it, unless it is there already. -/
def makeDirectories (t : FileTree) (p : Path) : Except FileFault Place × FileTree :=
  match p.fault? with
  | some fault => (.error fault, t)
  | none => t.makeAlong p.steps

/-! ### Opening and writing files -/

/-- Opens a file anew: what was in it is lost. -/
def create (t : FileTree) (p : Path) : Except FileFault Place × FileTree :=
  match t.locate p with
  | .error fault => (.error fault, t)
  | .ok place =>
    match t.get? place with
    | some .directory => (.error .isDirectory, t)
    | _ => (.ok place, t.put place (.file .empty))

/-- Opens a file to go on with it; one that is missing is made. -/
def resume (t : FileTree) (p : Path) : Except FileFault Place × FileTree :=
  match t.locate p with
  | .error fault => (.error fault, t)
  | .ok place =>
    match t.get? place with
    | some .directory => (.error .isDirectory, t)
    | some (.file _) => (.ok place, t)
    | none => (.ok place, t.put place (.file .empty))

/-- Adds bytes to the file at a place. -/
def append (t : FileTree) (place : Place) (bytes : ByteArray) : FileTree :=
  match t.get? place with
  | some (.file before) => t.put place (.file (before ++ bytes))
  | _ => t

/-! ### What the operations leave alone -/

end FileTree

end DeferredLog
