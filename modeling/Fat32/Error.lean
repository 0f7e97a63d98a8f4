/-!
The ways in which a device refuses a read, the reasons for which an operation
on a volume fails, and what is said about each.
-/

namespace Fat32

inductive DeviceError where
  | notReady
  | invalidAddress
  | readError
  | timeout
  | dataError
  | deviceRemoved
  | ioError
  deriving DecidableEq, Repr

def DeviceError.message : DeviceError → String
  | .notReady => "device not ready"
  | .invalidAddress => "block address out of range"
  | .readError => "read error"
  | .timeout => "device timed out"
  | .dataError => "data error"
  | .deviceRemoved => "device removed"
  | .ioError => "I/O error"

inductive Error where
  | device (cause : DeviceError)
  | invalidVolume
  | noPartition
  | notFound
  | notAFile
  /-- The cluster chain of a file ends before the size of the file is reached. -/
  | incompleteRead
  /-- A cluster chain leaves the volume or never ends. -/
  | corruptChain
  | bufferTooSmall
  | tooManyOpenFiles
  | nameTooLong
  | invalidPath
  | badHandle
  /-- A read starts at or behind the end of the file. -/
  | endOfFile
  deriving DecidableEq, Repr

def Error.message : Error → String
  | .device cause => "device error: " ++ cause.message
  | .invalidVolume => "not a valid FAT32 volume"
  | .noPartition => "no FAT32 partition found"
  | .notFound => "no such file or directory"
  | .notAFile => "is a directory"
  | .incompleteRead => "file is shorter on disk than its size"
  | .corruptChain => "corrupt cluster chain"
  | .bufferTooSmall => "buffer too small"
  | .tooManyOpenFiles => "too many open files"
  | .nameTooLong => "name too long"
  | .invalidPath => "invalid path"
  | .badHandle => "bad file handle"
  | .endOfFile => "end of file"

end Fat32
