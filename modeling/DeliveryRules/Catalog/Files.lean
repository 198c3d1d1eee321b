import DeliveryRules.Text.Line
import DeliveryRules.Text.Quoted

/-! Files by name, the texts in them, and why one cannot be read. -/

namespace DeliveryRules

/-- Files with their bytes, each under its name relative to the working directory. -/
abbrev Files := List (String × ByteArray)

/-- Why a file cannot be read. -/
inductive FileError
  | notFound (name : String)
  | isDirectory (name : String)
  | notDirectory (name : String)
  | nameTooLong (name : String)
  -- A name with a NUL in it, which no file can have.
  | unusableName (name : String)
  -- Bytes that are not in UTF-8.
  | notText (name : String)
deriving DecidableEq

namespace FileError

/-- The reason as the operating system tells it: its number, its phrase and the name. -/
def text : FileError → String
  | .notFound name => "[Errno 2] No such file or directory: " ++ quoted name
  | .isDirectory name => "[Errno 21] Is a directory: " ++ quoted name
  | .notDirectory name => "[Errno 20] Not a directory: " ++ quoted name
  | .nameTooLong name => "[Errno 36] File name too long: " ++ quoted name
  | .unusableName name => "[Errno 22] Invalid argument: " ++ quoted name
  | .notText name => "[Errno 84] Invalid or incomplete character: " ++ quoted name

/-- Whether the operating system is what refuses a file, which readers of files are prepared for. -/
def isForeseen : FileError → Bool
  | .unusableName _ | .notText _ => false
  | _ => true

end FileError

/-- The root that a name starts from: none, one slash, or two where it begins with just two. -/
def nameRoot (name : String) : String :=
  match (name.toList.takeWhile (· = '/')).length with
  | 0 => ""
  | 2 => "//"
  | _ => "/"

/-- The steps of a name between its slashes, without the empty ones and single dots. -/
def nameSteps (name : String) : List String :=
  (name.splitToList (· = '/')).filter fun step => step != "" && step != "."

/-- A name in its shortest spelling; the working directory itself is a dot. -/
def cleanName (name : String) : String :=
  let spelled := nameRoot name ++ "/".intercalate (nameSteps name)
  if spelled = "" then "." else spelled

/-- The ending of a name from its last dot on, unless that dot comes first or last. -/
def nameSuffix (name : String) : String :=
  let last := ((nameSteps name).getLast?.getD "").toList.reverse
  let ending := last.takeWhile (· != '.')
  let stem := (last.dropWhile (· != '.')).drop 1
  if ending.isEmpty || stem.isEmpty then "" else String.ofList ('.' :: ending.reverse)

/-- ASCII letters in lower case, every other character as it is. -/
def lowerAscii (text : String) : String := text.map Char.toLower

/-- Whether a file is read as JSON by its name. -/
def isJsonName (name : String) : Bool := lowerAscii (nameSuffix name) == ".json"

/-- The most bytes that one step of a name may take. -/
def longestStep : Nat := 255

/-- The most bytes that a whole name may take. -/
def longestName : Nat := 4095

/-- A directory: one in the working directory, by the steps that lead there, or one around it. -/
inductive Directory
  | inner (steps : List String)
  | outer
deriving DecidableEq

/-- The directory that a directory is in. -/
def Directory.parent : Directory → Directory
  | .inner [] | .outer => .outer
  | .inner steps => .inner steps.dropLast

namespace Files

/-- The bytes of the file that some steps lead to from the working directory. -/
def atSteps? (files : Files) (steps : List String) : Option ByteArray :=
  (files.map fun file => (nameSteps file.1, file.2)).lookup steps

/-- Whether some steps lead to a directory, which is one that a file is in. -/
def hasDirectory (files : Files) (steps : List String) : Bool :=
  files.any fun file =>
    let other := nameSteps file.1
    steps.isPrefixOf other && steps.length < other.length

/-- The bytes found by steps taken one after the other; the name is the one errors speak of. -/
def walk (files : Files) (name : String) : Directory → List String → Except FileError ByteArray
  | _, [] => .error (.isDirectory name)
  | place, step :: rest =>
    if step = ".." then files.walk name place.parent rest
    else if longestStep < step.utf8ByteSize then .error (.nameTooLong name)
    else match place with
      -- Around the working directory there are no files.
      | .outer => .error (.notFound name)
      | .inner steps =>
        let next := steps ++ [step]
        match files.atSteps? next with
        | some octets => if rest.isEmpty then .ok octets else .error (.notDirectory name)
        | none =>
          if files.hasDirectory next then files.walk name (.inner next) rest
          else .error (.notFound name)

/-- The bytes of a file. -/
def bytesOf (files : Files) (name : String) : Except FileError ByteArray :=
  let clean := cleanName name
  if clean.contains '\x00' then .error (.unusableName clean)
  else if longestName < clean.utf8ByteSize then .error (.nameTooLong clean)
  else files.walk clean (if nameRoot name = "" then .inner [] else .outer) (nameSteps name)

end Files

/-- The text that bytes in UTF-8 are read as, with line feeds at the ends of its lines. -/
def decodeText (octets : ByteArray) : Option String :=
  (String.fromUTF8? octets).map fun text =>
    String.ofList (withLineFeeds (fun _ => false) text.toList)

/-- The text that the bytes of a file are read as; the name is the one that errors speak of. -/
def decodeFile (name : String) (octets : ByteArray) : Except FileError String :=
  match decodeText octets with
  | some text => .ok text
  | none => .error (.notText name)

/-- The text of a file. -/
def Files.read (files : Files) (name : String) : Except FileError String :=
  files.bytesOf name >>= decodeFile (cleanName name)

end DeliveryRules
