import Steward.Text.Lines
import Steward.Text.Quoted

/-! The directory in which a bot works, and its environment variables. -/

namespace Steward

/-! ## Environment -/

abbrev Environment := List (String × String)

namespace Environment

def get? (environment : Environment) (name : String) : Option String := environment.lookup name

def nonEmpty? (environment : Environment) (name : String) : Option String :=
  (environment.get? name).filter (· ≠ "")

/-- Sets variables; of two values of one name the newer counts. -/
def extend (environment : Environment) (more : List (String × String)) : Environment :=
  more.reverse ++ environment

end Environment

/-! ## Paths -/

inductive FileFault where
  | missing (path : String)
  | isDirectory (path : String)
  | notDirectory (path : String)
  | tooLong (path : String)
deriving DecidableEq, Repr

def FileFault.message : FileFault → String
  | .missing path => s!"[Errno 2] No such file or directory: {Text.quoted path}"
  | .isDirectory path => s!"[Errno 21] Is a directory: {Text.quoted path}"
  | .notDirectory path => s!"[Errno 20] Not a directory: {Text.quoted path}"
  | .tooLong path => s!"[Errno 36] File name too long: {Text.quoted path}"

abbrev Place := List String

/-- The working directory. Its own name is unknown; no path spells the empty one. -/
def workingDirectory : Place := ["tmp", ""]

/-- The null device, which is always empty and takes everything. -/
def nullDevice : Place := ["dev", "null"]

namespace Path

def isRelative (path : String) : Bool := path.toList.head? != some '/'

def start (path : String) : Place := if isRelative path then workingDirectory else []

def steps (path : String) : List String :=
  ((Text.pieces '/' path.toList).filter (!·.isEmpty)).map String.ofList

def movingSteps (path : String) : List String := (steps path).filter (· ≠ ".")

example : movingSteps "./a//b/" = ["a", "b"] := by decide +kernel

def endsAsDirectory (path : String) : Bool := path.toList.getLast? == some '/'

/-- The slashes in front of a path; more than two are no more than one. -/
def rootMark (path : String) : String :=
  match (path.toList.takeWhile (· = '/')).length with
  | 0 => ""
  | 2 => "//"
  | _ => "/"

def plain (path : String) : String :=
  let text := rootMark path ++ "/".intercalate (movingSteps path)
  if text = "" then "." else text

example : plain ".//a/./b/" = "a/b" := by decide +kernel

def greatestName : Nat := 255

def greatestLength : Nat := 4096

def isTooLong (path : String) : Bool := greatestLength ≤ path.utf8ByteSize

def place (path : String) : Place :=
  (movingSteps path).foldl
    (fun place name => if name = ".." then place.dropLast else place ++ [name]) (start path)

end Path

/-! ## Files -/

/-- Files by place. A directory exists where a file lies below it. -/
abbrev Files := List (Place × List UInt8)

inductive Found where
  | file (place : Place) (content : List UInt8)
  | nullDevice
  | directory (place : Place)
  | belowFile
  | tooLong
  | nothing
deriving DecidableEq, Repr

namespace Files

def ofList (files : List (String × List UInt8)) : Files :=
  files.map fun file => (Path.place file.1, file.2)

def standingPlaces : List Place := [workingDirectory, nullDevice]

def atPlace (files : Files) (place : Place) : Found :=
  match files.lookup place with
  | some content => .file place content
  | none =>
      if place = nullDevice then .nullDevice
      else if (standingPlaces ++ files.map Prod.fst).any place.isPrefixOf then .directory place
      else .nothing

/-- Goes on by one step. Above the outermost directory is that directory itself. -/
def step (files : Files) (found : Found) (name : String) : Found :=
  match found with
  | .directory place =>
      if name = "." then found
      else if name = ".." then files.atPlace place.dropLast
      else if Path.greatestName < name.utf8ByteSize then .tooLong
      else files.atPlace (place ++ [name])
  | .file .. | .nullDevice => .belowFile
  | other => other

def walk (files : Files) (start : Place) (names : List String) : Found :=
  names.foldl files.step (files.atPlace start)

/-- What a path leads to. The empty path leads nowhere. -/
def find (files : Files) (path : String) : Found :=
  if Path.isTooLong path then .tooLong
  else if path = "" then .nothing
  else files.walk (Path.start path) (Path.steps path)

def read (files : Files) (path : String) : Except FileFault (List UInt8) :=
  let content (bytes : List UInt8) :=
    if Path.endsAsDirectory path then .error (.notDirectory path) else .ok bytes
  match files.find path with
  | .file _ bytes => content bytes
  | .nullDevice => content []
  | .directory _ => .error (.isDirectory path)
  | .belowFile => .error (.notDirectory path)
  | .tooLong => .error (.tooLong path)
  | .nothing => .error (.missing path)

def file? (files : Files) (path : String) : Option (List UInt8) :=
  match files.find path with
  | .file _ content => if Path.endsAsDirectory path then none else some content
  | _ => none

/-- The content of a file that need not be there. How the path ends, and where it stays, does not
matter here; but a path that is too long is a fault. -/
def optional (files : Files) (path : String) : Except FileFault (Option (List UInt8)) :=
  let path := Path.plain path
  match files.find path with
  | .tooLong => .error (.tooLong path)
  | _ => .ok (files.file? path)

def put (files : Files) (place : Place) (content : List UInt8) : Files :=
  match files with
  | [] => [(place, content)]
  | (other, old) :: rest =>
      if other = place then (place, content) :: rest else (other, old) :: put rest place content

def appendIn (files : Files) (directory : Place) (name path : String) (content : List UInt8) :
    Except FileFault Files :=
  match files.step (.directory directory) name with
  | .file place old => .ok (files.put place (old ++ content))
  | .nullDevice => .ok files
  | .directory _ => .error (.isDirectory path)
  | .belowFile => .error (.notDirectory path)
  | .tooLong => .error (.tooLong path)
  | .nothing => .ok (files.put (directory ++ [name]) content)

/-- Appends to a file. A path that ends as that of a directory is refused as such as soon as the
directory around it is found. -/
def append (files : Files) (path : String) (content : List UInt8) : Except FileFault Files :=
  let names := Path.steps path
  if Path.isTooLong path then .error (.tooLong path)
  else if path = "" then .error (.missing path)
  else
    match files.walk (Path.start path) names.dropLast, names.getLast? with
    | .directory directory, some name =>
        if Path.endsAsDirectory path then .error (.isDirectory path)
        else files.appendIn directory name path content
    | .directory _, none => .error (.isDirectory path)
    | .file .., _ | .nullDevice, _ | .belowFile, _ => .error (.notDirectory path)
    | .tooLong, _ => .error (.tooLong path)
    | .nothing, _ => .error (.missing path)

end Files

end Steward
