import TagQuery.Text.Utf8

/-!
# Files

The files that a command line can read, as far as reading them goes: a directory of named files,
and the reasons why a path cannot be read. A directory in memory answers a path as a directory on
disk does.
-/

namespace TagQuery.CommandLine

/-- Why a path cannot be read as a text. -/
inductive FileFault where
  | notFound
  | notDirectory
  | isDirectory
  | nameTooLong
  | invalidText
  /-- Another fault that the system reports. -/
  | system (message : Text)
deriving DecidableEq

/-- The wording of a fault. -/
def FileFault.message : FileFault → Text
  | .notFound => "No such file or directory (os error 2)".toList
  | .notDirectory => "Not a directory (os error 20)".toList
  | .isDirectory => "Is a directory (os error 21)".toList
  | .nameTooLong => "File name too long (os error 36)".toList
  | .invalidText => "stream did not contain valid UTF-8".toList
  | .system message => message

/-- A directory without further directories in it, which is where paths start. -/
structure Directory where
  files : List (Text × Bytes)

namespace Directory

/-- A directory of which no files are known. -/
def unknown : Directory := ⟨[]⟩

/-- Follows the segments of a path from the directory itself. An empty segment and a dot stay
where they are, and two dots lead out of the directory, where no files are known. A name has at
most 255 bytes. -/
def follow (directory : Directory) : List Text → Except FileFault Bytes
  | [] => .error .isDirectory
  | segment :: rest =>
    if segment = [] ∨ segment = ['.'] then follow directory rest
    else if segment = ['.', '.'] then follow unknown rest
    else if 255 < Text.utf8Length segment then .error .nameTooLong
    else
      match directory.files.lookup segment with
      | none => .error .notFound
      | some content => if rest.isEmpty then .ok content else .error .notDirectory

/-- The content of the file at a path, which has fewer than 4096 bytes. No files are known at the
root. -/
def read (directory : Directory) (path : Text) : Except FileFault Bytes :=
  if 4096 ≤ Text.utf8Length path then .error .nameTooLong
  else
    match path with
    | [] => .error .notFound
    | '/' :: rest => unknown.follow (Text.splitWhere (· == '/') rest)
    | _ => directory.follow (Text.splitWhere (· == '/') path)

end Directory

end TagQuery.CommandLine
