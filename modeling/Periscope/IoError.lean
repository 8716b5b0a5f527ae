import Periscope.Json.Decoder

/-!
# Errors of the operating system

An error has a kind, which programs look at, and a text, which people read. It comes
with a number from the system, with a kind alone, with a text of its own, or from a
document that could not be decoded.
-/

namespace Periscope

/-- The classes of errors. -/
inductive IoErrorKind where
  | notFound
  | permissionDenied
  | connectionRefused
  | connectionReset
  | connectionAborted
  | notConnected
  | addrInUse
  | addrNotAvailable
  | brokenPipe
  | alreadyExists
  | wouldBlock
  | notADirectory
  | isADirectory
  | directoryNotEmpty
  | invalidInput
  | invalidData
  | timedOut
  | writeZero
  | storageFull
  | invalidFilename
  | tooManyOpenFiles
  | interrupted
  | unsupported
  | unexpectedEof
  | outOfMemory
  | other
  | uncategorized
  deriving Repr, DecidableEq

namespace IoErrorKind

/-- The name of a kind. -/
def name : IoErrorKind → String
  | .notFound => "NotFound"
  | .permissionDenied => "PermissionDenied"
  | .connectionRefused => "ConnectionRefused"
  | .connectionReset => "ConnectionReset"
  | .connectionAborted => "ConnectionAborted"
  | .notConnected => "NotConnected"
  | .addrInUse => "AddrInUse"
  | .addrNotAvailable => "AddrNotAvailable"
  | .brokenPipe => "BrokenPipe"
  | .alreadyExists => "AlreadyExists"
  | .wouldBlock => "WouldBlock"
  | .notADirectory => "NotADirectory"
  | .isADirectory => "IsADirectory"
  | .directoryNotEmpty => "DirectoryNotEmpty"
  | .invalidInput => "InvalidInput"
  | .invalidData => "InvalidData"
  | .timedOut => "TimedOut"
  | .writeZero => "WriteZero"
  | .storageFull => "StorageFull"
  | .invalidFilename => "InvalidFilename"
  | .tooManyOpenFiles => "TooManyOpenFiles"
  | .interrupted => "Interrupted"
  | .unsupported => "Unsupported"
  | .unexpectedEof => "UnexpectedEof"
  | .outOfMemory => "OutOfMemory"
  | .other => "Other"
  | .uncategorized => "Uncategorized"

/-- The text of an error of which only the kind is known. -/
def text : IoErrorKind → String
  | .notFound => "entity not found"
  | .permissionDenied => "permission denied"
  | .connectionRefused => "connection refused"
  | .connectionReset => "connection reset"
  | .connectionAborted => "connection aborted"
  | .notConnected => "not connected"
  | .addrInUse => "address in use"
  | .addrNotAvailable => "address not available"
  | .brokenPipe => "broken pipe"
  | .alreadyExists => "entity already exists"
  | .wouldBlock => "operation would block"
  | .notADirectory => "not a directory"
  | .isADirectory => "is a directory"
  | .directoryNotEmpty => "directory not empty"
  | .invalidInput => "invalid input parameter"
  | .invalidData => "invalid data"
  | .timedOut => "timed out"
  | .writeZero => "write zero"
  | .storageFull => "no storage space"
  | .invalidFilename => "invalid filename"
  | .tooManyOpenFiles => "too many open files"
  | .interrupted => "operation interrupted"
  | .unsupported => "unsupported"
  | .unexpectedEof => "unexpected end of file"
  | .outOfMemory => "out of memory"
  | .other => "other error"
  | .uncategorized => "uncategorized error"

/-- All kinds. -/
def all : List IoErrorKind :=
  [.notFound, .permissionDenied, .connectionRefused, .connectionReset, .connectionAborted,
    .notConnected, .addrInUse, .addrNotAvailable, .brokenPipe, .alreadyExists, .wouldBlock,
    .notADirectory, .isADirectory, .directoryNotEmpty, .invalidInput, .invalidData, .timedOut,
    .writeZero, .storageFull, .invalidFilename, .tooManyOpenFiles, .interrupted, .unsupported,
    .unexpectedEof, .outOfMemory, .other, .uncategorized]

/-- The kind with a name. -/
def ofName? (name : String) : Option IoErrorKind := all.find? (·.name = name)

end IoErrorKind

/-- Kind and text of the errors that the system numbers. -/
def systemError (number : Nat) : IoErrorKind × String :=
  match number with
  | 1 => (.permissionDenied, "Operation not permitted")
  | 2 => (.notFound, "No such file or directory")
  | 4 => (.interrupted, "Interrupted system call")
  | 5 => (.uncategorized, "Input/output error")
  | 9 => (.uncategorized, "Bad file descriptor")
  | 11 => (.wouldBlock, "Resource temporarily unavailable")
  | 12 => (.outOfMemory, "Cannot allocate memory")
  | 13 => (.permissionDenied, "Permission denied")
  | 17 => (.alreadyExists, "File exists")
  | 20 => (.notADirectory, "Not a directory")
  | 21 => (.isADirectory, "Is a directory")
  | 22 => (.invalidInput, "Invalid argument")
  | 24 => (.tooManyOpenFiles, "Too many open files")
  | 28 => (.storageFull, "No space left on device")
  | 32 => (.brokenPipe, "Broken pipe")
  | 36 => (.invalidFilename, "File name too long")
  | 39 => (.directoryNotEmpty, "Directory not empty")
  | 110 => (.timedOut, "Connection timed out")
  | n => (.uncategorized, "Unknown error " ++ toString n)

/-- An error of an input or output operation. -/
inductive IoError where
  /-- An error with a number of the system. -/
  | system (number : Nat)
  /-- An error of which only the kind is known. -/
  | plain (kind : IoErrorKind)
  /-- An error with a text of its own. -/
  | described (kind : IoErrorKind) (message : String)
  /-- A document that could not be decoded. -/
  | document (cause : JsonError)
  deriving Repr, DecidableEq

namespace IoError

/-- The kind of an error. A document that ended too early is an early end of file. -/
def kind : IoError → IoErrorKind
  | .system number => (systemError number).1
  | .plain kind => kind
  | .described kind _ => kind
  | .document .ended => .unexpectedEof
  | .document _ => .invalidData

/-- The text of an error. -/
def message : IoError → String
  | .system number => (systemError number).2 ++ " (os error " ++ toString number ++ ")"
  | .plain kind => kind.text
  | .described _ message => message
  | .document cause => cause.message

/-- Nothing has the wanted name. -/
def noEntry : IoError := .system 2

/-- A name in the middle of a path is not a directory. -/
def notDirectory : IoError := .system 20

/-- A directory cannot be read as a file. -/
def isDirectory : IoError := .system 21

/-- The operation does not suit its argument. -/
def invalidArgument : IoError := .system 22

/-- A name is longer than the file system allows. -/
def nameTooLong : IoError := .system 36

/-- The file's bytes are not a text. -/
def notText : IoError := .described .invalidData "stream did not contain valid UTF-8"

/-- The path has a NUL character. -/
def nulInPath : IoError := .described .invalidInput "file name contained an unexpected NUL byte"

end IoError

end Periscope
