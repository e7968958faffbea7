/-! Failures of input and output. A failure is either described by whoever reports it, with a kind and a
    message, or it carries a code of the host, which settles both. -/

namespace AnsibleStaging

inductive IoErrorKind where
  | notFound
  | permissionDenied
  | connectionRefused
  | connectionReset
  | hostUnreachable
  | networkUnreachable
  | connectionAborted
  | notConnected
  | addrInUse
  | addrNotAvailable
  | networkDown
  | brokenPipe
  | alreadyExists
  | wouldBlock
  | notADirectory
  | isADirectory
  | directoryNotEmpty
  | readOnlyFilesystem
  | staleNetworkFileHandle
  | invalidInput
  | invalidData
  | timedOut
  | writeZero
  | storageFull
  | notSeekable
  | quotaExceeded
  | fileTooLarge
  | resourceBusy
  | executableFileBusy
  | deadlock
  | crossesDevices
  | tooManyLinks
  | invalidFilename
  | argumentListTooLong
  | interrupted
  | unsupported
  | unexpectedEof
  | outOfMemory
  | other
  | uncategorized
deriving DecidableEq, Inhabited

namespace IoErrorKind

def name : IoErrorKind → String
  | notFound => "NotFound"
  | permissionDenied => "PermissionDenied"
  | connectionRefused => "ConnectionRefused"
  | connectionReset => "ConnectionReset"
  | hostUnreachable => "HostUnreachable"
  | networkUnreachable => "NetworkUnreachable"
  | connectionAborted => "ConnectionAborted"
  | notConnected => "NotConnected"
  | addrInUse => "AddrInUse"
  | addrNotAvailable => "AddrNotAvailable"
  | networkDown => "NetworkDown"
  | brokenPipe => "BrokenPipe"
  | alreadyExists => "AlreadyExists"
  | wouldBlock => "WouldBlock"
  | notADirectory => "NotADirectory"
  | isADirectory => "IsADirectory"
  | directoryNotEmpty => "DirectoryNotEmpty"
  | readOnlyFilesystem => "ReadOnlyFilesystem"
  | staleNetworkFileHandle => "StaleNetworkFileHandle"
  | invalidInput => "InvalidInput"
  | invalidData => "InvalidData"
  | timedOut => "TimedOut"
  | writeZero => "WriteZero"
  | storageFull => "StorageFull"
  | notSeekable => "NotSeekable"
  | quotaExceeded => "QuotaExceeded"
  | fileTooLarge => "FileTooLarge"
  | resourceBusy => "ResourceBusy"
  | executableFileBusy => "ExecutableFileBusy"
  | deadlock => "Deadlock"
  | crossesDevices => "CrossesDevices"
  | tooManyLinks => "TooManyLinks"
  | invalidFilename => "InvalidFilename"
  | argumentListTooLong => "ArgumentListTooLong"
  | interrupted => "Interrupted"
  | unsupported => "Unsupported"
  | unexpectedEof => "UnexpectedEof"
  | outOfMemory => "OutOfMemory"
  | other => "Other"
  | uncategorized => "Uncategorized"

def all : List IoErrorKind :=
  [notFound, permissionDenied, connectionRefused, connectionReset, hostUnreachable, networkUnreachable,
    connectionAborted, notConnected, addrInUse, addrNotAvailable, networkDown, brokenPipe, alreadyExists,
    wouldBlock, notADirectory, isADirectory, directoryNotEmpty, readOnlyFilesystem, staleNetworkFileHandle,
    invalidInput, invalidData, timedOut, writeZero, storageFull, notSeekable, quotaExceeded, fileTooLarge,
    resourceBusy, executableFileBusy, deadlock, crossesDevices, tooManyLinks, invalidFilename,
    argumentListTooLong, interrupted, unsupported, unexpectedEof, outOfMemory, other]

def ofName? (name : String) : Option IoErrorKind := all.find? fun k => k.name == name

end IoErrorKind

/-- The codes with which the host refuses a call. --/
inductive HostCode where
  | noEntry
  | execFormat
  | accessDenied
  | busy
  | taken
  | notDirectory
  | isDirectory
  | invalidArgument
  | nameTooLong
deriving DecidableEq

namespace HostCode

def number : HostCode → Nat
  | noEntry => 2
  | execFormat => 8
  | accessDenied => 13
  | busy => 16
  | taken => 17
  | notDirectory => 20
  | isDirectory => 21
  | invalidArgument => 22
  | nameTooLong => 36

def text : HostCode → String
  | noEntry => "No such file or directory"
  | execFormat => "Exec format error"
  | accessDenied => "Permission denied"
  | busy => "Device or resource busy"
  | taken => "File exists"
  | notDirectory => "Not a directory"
  | isDirectory => "Is a directory"
  | invalidArgument => "Invalid argument"
  | nameTooLong => "File name too long"

def kind : HostCode → IoErrorKind
  | noEntry => .notFound
  | execFormat => .uncategorized
  | accessDenied => .permissionDenied
  | busy => .resourceBusy
  | taken => .alreadyExists
  | notDirectory => .notADirectory
  | isDirectory => .isADirectory
  | invalidArgument => .invalidInput
  | nameTooLong => .invalidFilename

end HostCode

inductive IoError where
  | reported (kind : IoErrorKind) (message : String)
  | host (code : HostCode)
deriving DecidableEq

namespace IoError

def kind : IoError → IoErrorKind
  | reported k _ => k
  | host c => c.kind

def message : IoError → String
  | reported _ m => m
  | host c => c.text ++ " (os error " ++ toString c.number ++ ")"

end IoError
end AnsibleStaging
