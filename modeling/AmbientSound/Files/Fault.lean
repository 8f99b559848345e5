/-!
Why a file cannot be read or written.
-/
namespace AmbientSound

inductive FileFault where
  | missing
  | exists
  | notDirectory
  | isDirectory
  /-- A name, or the whole path, has more bytes than one can have. -/
  | nameTooLong
  /-- A path that no file can have, because of a zero byte in it. -/
  | unspellable
  | notText
  | refused (reason : String)
  deriving DecidableEq, Repr

namespace FileFault

def text : FileFault → String
  | .missing => "No such file or directory (os error 2)"
  | .exists => "File exists (os error 17)"
  | .notDirectory => "Not a directory (os error 20)"
  | .isDirectory => "Is a directory (os error 21)"
  | .nameTooLong => "File name too long (os error 36)"
  | .unspellable => "file name contained an unexpected NUL byte"
  | .notText => "stream did not contain valid UTF-8"
  | .refused reason => reason

end FileFault

end AmbientSound
