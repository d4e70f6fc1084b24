import ApiBlueprint.Path.Basic

/-! Why a file could not be read, written or listed. -/

namespace ApiBlueprint

inductive FileFault where
  | unregistered
  | notFound
  | isFolder
  | notFolder
  | alreadyExists
  | tooManyLinks
  | nameTooLong
  /-- The path ends where nothing can be put, such as at `..`. -/
  | busy
  | zeroCharacter
  | notUtf8
  | walking (path : Path) (fault : FileFault)
  deriving DecidableEq, Repr

namespace FileFault

def message : FileFault → Text
  | unregistered => "no such file".toList
  | notFound => "No such file or directory (os error 2)".toList
  | isFolder => "Is a directory (os error 21)".toList
  | notFolder => "Not a directory (os error 20)".toList
  | alreadyExists => "File exists (os error 17)".toList
  | tooManyLinks => "Too many levels of symbolic links (os error 40)".toList
  | nameTooLong => "File name too long (os error 36)".toList
  | busy => "Device or resource busy (os error 16)".toList
  | zeroCharacter => "file name contained an unexpected NUL byte".toList
  | notUtf8 => "stream did not contain valid UTF-8".toList
  | walking path fault =>
    "IO error for operation on ".toList ++ path.text ++ ": ".toList ++ fault.message

end FileFault
end ApiBlueprint
