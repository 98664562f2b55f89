/-!
# `FlowGraph.Storage.Basic`: reading and writing files

What the library asks of the place where files are kept: reading the bytes under a path and
writing a text to one. `Storage` gives both for a monad, so that the same program runs on
the files of a machine and on a tree of files that is a value.
-/

set_option autoImplicit false

namespace FlowGraph

/-- Why a file cannot be read or written. -/
inductive FileFault where
  | noSuchFile
  | isDirectory
  | notDirectory
  /-- The path, or a name on it, has more bytes than the machine allows. -/
  | tooLong
  /-- The path holds the character zero, with which the machine ends a text. -/
  | zeroInPath
  /-- The bytes of the file are no text. -/
  | notText
  /-- Any other reason, in the words of the machine. -/
  | other (reason : String)
deriving DecidableEq

/-- The reason in the words of the machine. -/
def FileFault.message : FileFault → String
  | noSuchFile => "No such file or directory (os error 2)"
  | isDirectory => "Is a directory (os error 21)"
  | notDirectory => "Not a directory (os error 20)"
  | tooLong => "File name too long (os error 36)"
  | zeroInPath => "file name contained an unexpected NUL byte"
  | notText => "stream did not contain valid UTF-8"
  | other reason => reason

/-- A place where files are kept. -/
class Storage (m : Type → Type) where
  /-- The bytes of the file under a path. -/
  read : String → m (Except FileFault ByteArray)
  /-- Makes a text the content of the file under a path, which is created if need be. -/
  write : String → String → m (Except FileFault Unit)

end FlowGraph
