/-!
# Causes of failed system calls

A cause is an error number of the operating system, bytes that are no text where text is needed, a
zero byte where there can be none, or something else that has only a text. Numbers are shown with the system's text for them.
-/

namespace DevServer.Failure

/-- The system's texts for error numbers, by number; an empty one marks a number without text. -/
def systemTexts : Array String :=
  #["Success", "Operation not permitted", "No such file or directory", "No such process",
    "Interrupted system call", "Input/output error", "No such device or address",
    "Argument list too long", "Exec format error", "Bad file descriptor", "No child processes",
    "Resource temporarily unavailable", "Cannot allocate memory", "Permission denied",
    "Bad address", "Block device required", "Device or resource busy", "File exists",
    "Invalid cross-device link", "No such device", "Not a directory", "Is a directory",
    "Invalid argument", "Too many open files in system", "Too many open files",
    "Inappropriate ioctl for device", "Text file busy", "File too large", "No space left on device",
    "Illegal seek", "Read-only file system", "Too many links", "Broken pipe",
    "Numerical argument out of domain", "Numerical result out of range",
    "Resource deadlock avoided", "File name too long", "No locks available",
    "Function not implemented", "Directory not empty", "Too many levels of symbolic links", "",
    "No message of desired type", "Identifier removed", "Channel number out of range",
    "Level 2 not synchronized", "Level 3 halted", "Level 3 reset", "Link number out of range",
    "Protocol driver not attached", "No CSI structure available", "Level 2 halted",
    "Invalid exchange", "Invalid request descriptor", "Exchange full", "No anode",
    "Invalid request code", "Invalid slot", "", "Bad font file format", "Device not a stream",
    "No data available", "Timer expired", "Out of streams resources",
    "Machine is not on the network", "Package not installed", "Object is remote",
    "Link has been severed", "Advertise error", "Srmount error", "Communication error on send",
    "Protocol error", "Multihop attempted", "RFS specific error", "Bad message",
    "Value too large for defined data type", "Name not unique on network",
    "File descriptor in bad state", "Remote address changed",
    "Can not access a needed shared library", "Accessing a corrupted shared library",
    ".lib section in a.out corrupted", "Attempting to link in too many shared libraries",
    "Cannot exec a shared library directly", "Invalid or incomplete multibyte or wide character",
    "Interrupted system call should be restarted", "Streams pipe error", "Too many users",
    "Socket operation on non-socket", "Destination address required", "Message too long",
    "Protocol wrong type for socket", "Protocol not available", "Protocol not supported",
    "Socket type not supported", "Operation not supported", "Protocol family not supported",
    "Address family not supported by protocol", "Address already in use",
    "Cannot assign requested address", "Network is down", "Network is unreachable",
    "Network dropped connection on reset", "Software caused connection abort",
    "Connection reset by peer", "No buffer space available",
    "Transport endpoint is already connected", "Transport endpoint is not connected",
    "Cannot send after transport endpoint shutdown", "Too many references: cannot splice",
    "Connection timed out", "Connection refused", "Host is down", "No route to host",
    "Operation already in progress", "Operation now in progress", "Stale file handle",
    "Structure needs cleaning", "Not a XENIX named type file", "No XENIX semaphores available",
    "Is a named type file", "Remote I/O error", "Disk quota exceeded", "No medium found",
    "Wrong medium type", "Operation canceled", "Required key not available", "Key has expired",
    "Key has been revoked", "Key was rejected by service", "Owner died", "State not recoverable",
    "Operation not possible due to RF-kill", "Memory page has hardware error"]

/-- Why a call on the system failed. -/
inductive Cause where
  | errno (number : Int)
  | notText
  | zeroByte
  | other (text : String)
  deriving DecidableEq, Repr

namespace Cause

def notFound : Cause := errno 2

def notPermitted : Cause := errno 13

/-- What nobody may do. -/
def notAllowed : Cause := errno 1

def notDirectory : Cause := errno 20

def isDirectory : Cause := errno 21

def alreadyThere : Cause := errno 17

def badDescriptor : Cause := errno 9

def wrongFormat : Cause := errno 8

def invalid : Cause := errno 22

def brokenPipe : Cause := errno 32

def nameTooLong : Cause := errno 36

def notEmpty : Cause := errno 39

def linkLoop : Cause := errno 40

def busy : Cause := errno 16

def noProcess : Cause := errno 3

def noSpace : Cause := errno 28

/-- The system's text for a number; a number without one is named as unknown. -/
def systemText (number : Int) : String :=
  match number with
  | .ofNat n =>
    match systemTexts[n]? with
    | some "" | none => s!"Unknown error {number}"
    | some text => text
  | .negSucc _ => s!"Unknown error {number}"

def message : Cause → String
  | errno n => s!"{systemText n} (os error {n})"
  | notText => "stream did not contain valid UTF-8"
  | zeroByte => "file name contained an unexpected NUL byte"
  | other text => text

/-- The kind of a cause, in one word. -/
def kind : Cause → String
  | errno 1 | errno 13 => "PermissionDenied"
  | errno 2 => "NotFound"
  | errno 17 => "AlreadyExists"
  | errno 20 => "NotADirectory"
  | errno 21 => "IsADirectory"
  | errno 22 => "InvalidInput"
  | errno 36 => "InvalidFilename"
  | errno 40 => "FilesystemLoop"
  | errno _ => "Uncategorized"
  | notText => "InvalidData"
  | zeroByte => "InvalidInput"
  | other _ => "Other"

end Cause

end DevServer.Failure
