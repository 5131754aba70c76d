import ServiceStack.Failure.Errno

/-!
The kinds of io failures. A kind is what a program can react to: several error numbers share one,
and those without a kind of their own are `uncategorized`.
-/

namespace ServiceStack

inductive IoKind where
  | notFound | permissionDenied | connectionRefused | connectionReset | hostUnreachable
  | networkUnreachable | connectionAborted | notConnected | addrInUse | addrNotAvailable
  | networkDown | brokenPipe | alreadyExists | wouldBlock | notADirectory | isADirectory
  | directoryNotEmpty | readOnlyFilesystem | filesystemLoop | staleNetworkFileHandle
  | invalidInput | invalidData | timedOut | writeZero | storageFull | notSeekable | quotaExceeded
  | fileTooLarge | resourceBusy | executableFileBusy | deadlock | crossesDevices | tooManyLinks
  | invalidFilename | argumentListTooLong | interrupted | unsupported | unexpectedEof
  | outOfMemory | inProgress | inputOutputError | tooManyOpenFiles | other | uncategorized
deriving DecidableEq, Repr

namespace IoKind

def all : List IoKind := [
  .notFound, .permissionDenied, .connectionRefused, .connectionReset, .hostUnreachable,
  .networkUnreachable, .connectionAborted, .notConnected, .addrInUse, .addrNotAvailable,
  .networkDown, .brokenPipe, .alreadyExists, .wouldBlock, .notADirectory, .isADirectory,
  .directoryNotEmpty, .readOnlyFilesystem, .filesystemLoop, .staleNetworkFileHandle,
  .invalidInput, .invalidData, .timedOut, .writeZero, .storageFull, .notSeekable, .quotaExceeded,
  .fileTooLarge, .resourceBusy, .executableFileBusy, .deadlock, .crossesDevices, .tooManyLinks,
  .invalidFilename, .argumentListTooLong, .interrupted, .unsupported, .unexpectedEof,
  .outOfMemory, .inProgress, .inputOutputError, .tooManyOpenFiles, .other, .uncategorized]

def name : IoKind → String
  | notFound => "NotFound"
  | permissionDenied => "PermissionDenied"
  | connectionRefused => "ConnectionRefused"
  | connectionReset => "ConnectionReset"
  | hostUnreachable => "HostUnreachable"
  | networkUnreachable => "NetworkUnreachable"
  | connectionAborted => "ConnectionAborted"
  | notConnected => "NotConnected"
  | addrInUse => "AddrInUse"
  | addrNotAvailable => "AddrNotAvailable"
  | networkDown => "NetworkDown"
  | brokenPipe => "BrokenPipe"
  | alreadyExists => "AlreadyExists"
  | wouldBlock => "WouldBlock"
  | notADirectory => "NotADirectory"
  | isADirectory => "IsADirectory"
  | directoryNotEmpty => "DirectoryNotEmpty"
  | readOnlyFilesystem => "ReadOnlyFilesystem"
  | filesystemLoop => "FilesystemLoop"
  | staleNetworkFileHandle => "StaleNetworkFileHandle"
  | invalidInput => "InvalidInput"
  | invalidData => "InvalidData"
  | timedOut => "TimedOut"
  | writeZero => "WriteZero"
  | storageFull => "StorageFull"
  | notSeekable => "NotSeekable"
  | quotaExceeded => "QuotaExceeded"
  | fileTooLarge => "FileTooLarge"
  | resourceBusy => "ResourceBusy"
  | executableFileBusy => "ExecutableFileBusy"
  | deadlock => "Deadlock"
  | crossesDevices => "CrossesDevices"
  | tooManyLinks => "TooManyLinks"
  | invalidFilename => "InvalidFilename"
  | argumentListTooLong => "ArgumentListTooLong"
  | interrupted => "Interrupted"
  | unsupported => "Unsupported"
  | unexpectedEof => "UnexpectedEof"
  | outOfMemory => "OutOfMemory"
  | inProgress => "InProgress"
  | inputOutputError => "InputOutputError"
  | tooManyOpenFiles => "TooManyOpenFiles"
  | other => "Other"
  | uncategorized => "Uncategorized"

/-- The text of a failure of which only the kind is known. -/
def description : IoKind → String
  | notFound => "entity not found"
  | permissionDenied => "permission denied"
  | connectionRefused => "connection refused"
  | connectionReset => "connection reset"
  | hostUnreachable => "host unreachable"
  | networkUnreachable => "network unreachable"
  | connectionAborted => "connection aborted"
  | notConnected => "not connected"
  | addrInUse => "address in use"
  | addrNotAvailable => "address not available"
  | networkDown => "network down"
  | brokenPipe => "broken pipe"
  | alreadyExists => "entity already exists"
  | wouldBlock => "operation would block"
  | notADirectory => "not a directory"
  | isADirectory => "is a directory"
  | directoryNotEmpty => "directory not empty"
  | readOnlyFilesystem => "read-only filesystem or storage medium"
  | filesystemLoop => "filesystem loop or indirection limit (e.g. symlink loop)"
  | staleNetworkFileHandle => "stale network file handle"
  | invalidInput => "invalid input parameter"
  | invalidData => "invalid data"
  | timedOut => "timed out"
  | writeZero => "write zero"
  | storageFull => "no storage space"
  | notSeekable => "seek on unseekable file"
  | quotaExceeded => "quota exceeded"
  | fileTooLarge => "file too large"
  | resourceBusy => "resource busy"
  | executableFileBusy => "executable file busy"
  | deadlock => "deadlock"
  | crossesDevices => "cross-device link or rename"
  | tooManyLinks => "too many links"
  | invalidFilename => "invalid filename"
  | argumentListTooLong => "argument list too long"
  | interrupted => "operation interrupted"
  | unsupported => "unsupported"
  | unexpectedEof => "unexpected end of file"
  | outOfMemory => "out of memory"
  | inProgress => "in progress"
  | inputOutputError => "input/output error"
  | tooManyOpenFiles => "too many open files"
  | other => "other error"
  | uncategorized => "uncategorized error"

def ofName? (s : String) : Option IoKind := all.find? (·.name == s)

def ofErrno : Errno → IoKind
  | .E2BIG => argumentListTooLong
  | .EADDRINUSE => addrInUse
  | .EADDRNOTAVAIL => addrNotAvailable
  | .EBUSY => resourceBusy
  | .ECONNABORTED => connectionAborted
  | .ECONNREFUSED => connectionRefused
  | .ECONNRESET => connectionReset
  | .EDEADLK => deadlock
  | .EDQUOT => quotaExceeded
  | .EEXIST => alreadyExists
  | .EFBIG => fileTooLarge
  | .EHOSTUNREACH => hostUnreachable
  | .EINTR => interrupted
  | .EINVAL => invalidInput
  | .EIO => inputOutputError
  | .EISDIR => isADirectory
  | .ELOOP => filesystemLoop
  | .EMFILE => tooManyOpenFiles
  | .ENFILE => tooManyOpenFiles
  | .ENOENT => notFound
  | .ENOMEM => outOfMemory
  | .ENOSPC => storageFull
  | .ENOSYS => unsupported
  | .EMLINK => tooManyLinks
  | .ENAMETOOLONG => invalidFilename
  | .ENETDOWN => networkDown
  | .ENETUNREACH => networkUnreachable
  | .ENOTCONN => notConnected
  | .ENOTDIR => notADirectory
  | .ENOTEMPTY => directoryNotEmpty
  | .EPIPE => brokenPipe
  | .EROFS => readOnlyFilesystem
  | .ESPIPE => notSeekable
  | .ESTALE => staleNetworkFileHandle
  | .ETIMEDOUT => timedOut
  | .ETXTBSY => executableFileBusy
  | .EXDEV => crossesDevices
  | .EINPROGRESS => inProgress
  | .EOPNOTSUPP => unsupported
  | .EACCES => permissionDenied
  | .EPERM => permissionDenied
  | .EAGAIN => wouldBlock
  | _ => uncategorized

def ofCode (n : Int) : IoKind := ofErrno (Errno.ofCode n)

end IoKind

end ServiceStack
