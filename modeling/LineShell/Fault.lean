import LineShell.Text.Decimal

/-!
# Faults

A *fault* is the reason why something asked of the outside failed: an error of the operating
system, known by its number, or a request that never got as far as the system.

The kernel of the library only ever compares faults and hands them on. Their wording is decided in
one place, `Fault.message`, and the wording of system errors is data (`SystemError.texts`).
-/

namespace LineShell

/-! ## Errors of the operating system -/

/-- An error of the operating system, named by its number. -/
structure SystemError where
  /-- The number of the error. The system's own are positive, but any number of 32 bits is one. -/
  code : Int
  deriving DecidableEq, Repr

namespace SystemError

/-- Nothing is there. -/
def noEntry : SystemError := ⟨2⟩
/-- The arguments of a program take too many bytes. -/
def tooManyArguments : SystemError := ⟨7⟩
/-- The file is of no kind that can be run. -/
def notRunnable : SystemError := ⟨8⟩
/-- The mode of the file forbids it. -/
def denied : SystemError := ⟨13⟩
/-- Something is there already. -/
def alreadyThere : SystemError := ⟨17⟩
/-- A path leads through something that is no directory. -/
def notDirectory : SystemError := ⟨20⟩
/-- The path leads to a directory where a file is needed. -/
def isDirectory : SystemError := ⟨21⟩
/-- A program that is open for writing cannot be run. -/
def fileBusy : SystemError := ⟨26⟩
/-- There is no room for what is written. -/
def noSpace : SystemError := ⟨28⟩
/-- The path, or a name in it, is too long. -/
def nameTooLong : SystemError := ⟨36⟩
/-- The path leads through more symbolic links than may be followed. -/
def tooManyLinks : SystemError := ⟨40⟩

/-- The texts of the system's errors by number, starting at 0; two numbers are unused. -/
def texts : List String :=
  ["Success", "Operation not permitted", "No such file or directory", "No such process",
    "Interrupted system call", "Input/output error", "No such device or address",
    "Argument list too long", "Exec format error", "Bad file descriptor", "No child processes",
    "Resource temporarily unavailable", "Cannot allocate memory", "Permission denied",
    "Bad address", "Block device required", "Device or resource busy", "File exists",
    "Invalid cross-device link", "No such device", "Not a directory", "Is a directory",
    "Invalid argument", "Too many open files in system", "Too many open files",
    "Inappropriate ioctl for device", "Text file busy", "File too large", "No space left on device",
    "Illegal seek", "Read-only file system", "Too many links", "Broken pipe",
    "Numerical argument out of domain", "Numerical result out of range",
    "Resource deadlock avoided", "File name too long", "No locks available",
    "Function not implemented", "Directory not empty", "Too many levels of symbolic links", "",
    "No message of desired type", "Identifier removed", "Channel number out of range",
    "Level 2 not synchronized", "Level 3 halted", "Level 3 reset", "Link number out of range",
    "Protocol driver not attached", "No CSI structure available", "Level 2 halted",
    "Invalid exchange", "Invalid request descriptor", "Exchange full", "No anode",
    "Invalid request code", "Invalid slot", "", "Bad font file format", "Device not a stream",
    "No data available", "Timer expired", "Out of streams resources",
    "Machine is not on the network", "Package not installed", "Object is remote",
    "Link has been severed", "Advertise error", "Srmount error", "Communication error on send",
    "Protocol error", "Multihop attempted", "RFS specific error", "Bad message",
    "Value too large for defined data type", "Name not unique on network",
    "File descriptor in bad state", "Remote address changed",
    "Can not access a needed shared library", "Accessing a corrupted shared library",
    ".lib section in a.out corrupted", "Attempting to link in too many shared libraries",
    "Cannot exec a shared library directly", "Invalid or incomplete multibyte or wide character",
    "Interrupted system call should be restarted", "Streams pipe error", "Too many users",
    "Socket operation on non-socket", "Destination address required", "Message too long",
    "Protocol wrong type for socket", "Protocol not available", "Protocol not supported",
    "Socket type not supported", "Operation not supported", "Protocol family not supported",
    "Address family not supported by protocol", "Address already in use",
    "Cannot assign requested address", "Network is down", "Network is unreachable",
    "Network dropped connection on reset", "Software caused connection abort",
    "Connection reset by peer", "No buffer space available",
    "Transport endpoint is already connected", "Transport endpoint is not connected",
    "Cannot send after transport endpoint shutdown", "Too many references: cannot splice",
    "Connection timed out", "Connection refused", "Host is down", "No route to host",
    "Operation already in progress", "Operation now in progress", "Stale file handle",
    "Structure needs cleaning", "Not a XENIX named type file", "No XENIX semaphores available",
    "Is a named type file", "Remote I/O error", "Disk quota exceeded", "No medium found",
    "Wrong medium type", "Operation canceled", "Required key not available", "Key has expired",
    "Key has been revoked", "Key was rejected by service", "Owner died", "State not recoverable",
    "Operation not possible due to RF-kill", "Memory page has hardware error"]

/-- The text of a number in the table, if it stands there. -/
def known? : Int → Option String
  | .ofNat n => texts[n]?.filter (· ≠ "")
  | .negSucc _ => none

/-- The system's own text for an error. -/
def text (e : SystemError) : Text :=
  match known? e.code with
  | none => "Unknown error ".toList ++ Decimal.ofInt e.code
  | some t => t.toList

/-- The text of an error with its number. -/
def message (e : SystemError) : Text :=
  e.text ++ " (os error ".toList ++ Decimal.ofInt e.code ++ [')']

end SystemError

/-! ## Faults -/

/-- Why a request to the outside failed. -/
inductive Fault where
  /-- The operating system refused it. -/
  | system (error : SystemError)
  /-- A path holds a NUL byte, so it names nothing. -/
  | nulInPath
  /-- An argument of a program holds a NUL byte, so it cannot be handed over. -/
  | nulInArgument
  /-- A writer that takes a limited number of bytes is full. -/
  | full
  /-- A source of bytes failed with a text of its own. -/
  | other (text : Text)
  deriving DecidableEq, Repr

/-- The wording of a fault. -/
def Fault.message : Fault → Text
  | .system e => e.message
  | .nulInPath => "file name contained an unexpected NUL byte".toList
  | .nulInArgument => "nul byte found in provided data".toList
  | .full => "sink full".toList
  | .other text => text

end LineShell
