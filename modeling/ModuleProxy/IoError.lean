namespace ModuleProxy

inductive IoErrorKind where
  | notFound
  | permissionDenied
  | connectionRefused
  | connectionReset
  | connectionAborted
  | notConnected
  | hostUnreachable
  | networkUnreachable
  | networkDown
  | addrInUse
  | addrNotAvailable
  | brokenPipe
  | alreadyExists
  | wouldBlock
  | notADirectory
  | isADirectory
  | directoryNotEmpty
  | readOnlyFilesystem
  | staleNetworkFileHandle
  | invalidInput
  | invalidData
  | invalidFilename
  | timedOut
  | writeZero
  | storageFull
  | notSeekable
  | quotaExceeded
  | fileTooLarge
  | resourceBusy
  | executableFileBusy
  | deadlock
  | crossesDevices
  | tooManyLinks
  | argumentListTooLong
  | interrupted
  | unsupported
  | unexpectedEof
  | outOfMemory
  | other
  deriving DecidableEq, Repr

namespace IoErrorKind

def name : IoErrorKind → String
  | .notFound => "NotFound"
  | .permissionDenied => "PermissionDenied"
  | .connectionRefused => "ConnectionRefused"
  | .connectionReset => "ConnectionReset"
  | .connectionAborted => "ConnectionAborted"
  | .notConnected => "NotConnected"
  | .hostUnreachable => "HostUnreachable"
  | .networkUnreachable => "NetworkUnreachable"
  | .networkDown => "NetworkDown"
  | .addrInUse => "AddrInUse"
  | .addrNotAvailable => "AddrNotAvailable"
  | .brokenPipe => "BrokenPipe"
  | .alreadyExists => "AlreadyExists"
  | .wouldBlock => "WouldBlock"
  | .notADirectory => "NotADirectory"
  | .isADirectory => "IsADirectory"
  | .directoryNotEmpty => "DirectoryNotEmpty"
  | .readOnlyFilesystem => "ReadOnlyFilesystem"
  | .staleNetworkFileHandle => "StaleNetworkFileHandle"
  | .invalidInput => "InvalidInput"
  | .invalidData => "InvalidData"
  | .invalidFilename => "InvalidFilename"
  | .timedOut => "TimedOut"
  | .writeZero => "WriteZero"
  | .storageFull => "StorageFull"
  | .notSeekable => "NotSeekable"
  | .quotaExceeded => "QuotaExceeded"
  | .fileTooLarge => "FileTooLarge"
  | .resourceBusy => "ResourceBusy"
  | .executableFileBusy => "ExecutableFileBusy"
  | .deadlock => "Deadlock"
  | .crossesDevices => "CrossesDevices"
  | .tooManyLinks => "TooManyLinks"
  | .argumentListTooLong => "ArgumentListTooLong"
  | .interrupted => "Interrupted"
  | .unsupported => "Unsupported"
  | .unexpectedEof => "UnexpectedEof"
  | .outOfMemory => "OutOfMemory"
  | .other => "Other"

def all : List IoErrorKind :=
  [.notFound, .permissionDenied, .connectionRefused, .connectionReset, .connectionAborted,
    .notConnected, .hostUnreachable, .networkUnreachable, .networkDown, .addrInUse,
    .addrNotAvailable, .brokenPipe, .alreadyExists, .wouldBlock, .notADirectory, .isADirectory,
    .directoryNotEmpty, .readOnlyFilesystem, .staleNetworkFileHandle, .invalidInput, .invalidData,
    .invalidFilename, .timedOut, .writeZero, .storageFull, .notSeekable, .quotaExceeded,
    .fileTooLarge, .resourceBusy, .executableFileBusy, .deadlock, .crossesDevices, .tooManyLinks,
    .argumentListTooLong, .interrupted, .unsupported, .unexpectedEof, .outOfMemory, .other]

def ofName? (name : String) : Option IoErrorKind :=
  all.find? (·.name == name)

end IoErrorKind

structure IoError where
  kind : IoErrorKind
  text : String
  deriving DecidableEq, Repr

namespace IoError

def ofOs (kind : IoErrorKind) (text : String) (number : Nat) : IoError :=
  ⟨kind, text ++ " (os error " ++ toString number ++ ")"⟩

def notFound : IoError := ofOs .notFound "No such file or directory" 2

def wouldBlock : IoError := ofOs .wouldBlock "Resource temporarily unavailable" 11

def alreadyExists : IoError := ofOs .alreadyExists "File exists" 17

def notADirectory : IoError := ofOs .notADirectory "Not a directory" 20

def isADirectory : IoError := ofOs .isADirectory "Is a directory" 21

def invalidArgument : IoError := ofOs .invalidInput "Invalid argument" 22

def brokenPipe : IoError := ofOs .brokenPipe "Broken pipe" 32

def nameTooLong : IoError := ofOs .invalidFilename "File name too long" 36

def addressInUse : IoError := ofOs .addrInUse "Address already in use" 98

def connectionRefused : IoError := ofOs .connectionRefused "Connection refused" 111

def nulInPath : IoError := ⟨.invalidInput, "file name contained an unexpected NUL byte"⟩

def zeroTimeout : IoError := ⟨.invalidInput, "cannot set a 0 duration timeout"⟩

end IoError

end ModuleProxy
