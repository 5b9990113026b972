import SparseFixture.ErrorKind

/-!
# Error numbers

The operating system names an error by a number. A table gives the description and the kind of the
numbers from 0 to 133; every other number is unknown.
-/

namespace SparseFixture.Errno

/-! ### The numbers that files and paths give rise to -/

def notPermitted : Int := 1
def noEntry : Int := 2
def noDevice : Int := 6
def badDescriptor : Int := 9
def accessDenied : Int := 13
def alreadyThere : Int := 17
def notDirectory : Int := 20
def isDirectory : Int := 21
def invalid : Int := 22
def tooManyOpen : Int := 24
def tooLarge : Int := 27
def noSpace : Int := 28
def illegalSeek : Int := 29
def nameTooLong : Int := 36
def notEmpty : Int := 39
def linkLoop : Int := 40
def addressInUse : Int := 98

/-! ### Descriptions and kinds -/

/-- The descriptions and kinds of the known error numbers, in order from 0 on. -/
def table : List (String × ErrorKind) :=
  [
    ("Success", .uncategorized),
    ("Operation not permitted", .permissionDenied),
    ("No such file or directory", .notFound),
    ("No such process", .uncategorized),
    ("Interrupted system call", .interrupted),
    ("Input/output error", .inputOutputError),
    ("No such device or address", .uncategorized),
    ("Argument list too long", .argumentListTooLong),
    ("Exec format error", .uncategorized),
    ("Bad file descriptor", .uncategorized),
    ("No child processes", .uncategorized),
    ("Resource temporarily unavailable", .wouldBlock),
    ("Cannot allocate memory", .outOfMemory),
    ("Permission denied", .permissionDenied),
    ("Bad address", .uncategorized),
    ("Block device required", .uncategorized),
    ("Device or resource busy", .resourceBusy),
    ("File exists", .alreadyExists),
    ("Invalid cross-device link", .crossesDevices),
    ("No such device", .uncategorized),
    ("Not a directory", .notADirectory),
    ("Is a directory", .isADirectory),
    ("Invalid argument", .invalidInput),
    ("Too many open files in system", .tooManyOpenFiles),
    ("Too many open files", .tooManyOpenFiles),
    ("Inappropriate ioctl for device", .uncategorized),
    ("Text file busy", .executableFileBusy),
    ("File too large", .fileTooLarge),
    ("No space left on device", .storageFull),
    ("Illegal seek", .notSeekable),
    ("Read-only file system", .readOnlyFilesystem),
    ("Too many links", .tooManyLinks),
    ("Broken pipe", .brokenPipe),
    ("Numerical argument out of domain", .uncategorized),
    ("Numerical result out of range", .uncategorized),
    ("Resource deadlock avoided", .deadlock),
    ("File name too long", .invalidFilename),
    ("No locks available", .uncategorized),
    ("Function not implemented", .unsupported),
    ("Directory not empty", .directoryNotEmpty),
    ("Too many levels of symbolic links", .filesystemLoop),
    ("Unknown error 41", .uncategorized),
    ("No message of desired type", .uncategorized),
    ("Identifier removed", .uncategorized),
    ("Channel number out of range", .uncategorized),
    ("Level 2 not synchronized", .uncategorized),
    ("Level 3 halted", .uncategorized),
    ("Level 3 reset", .uncategorized),
    ("Link number out of range", .uncategorized),
    ("Protocol driver not attached", .uncategorized),
    ("No CSI structure available", .uncategorized),
    ("Level 2 halted", .uncategorized),
    ("Invalid exchange", .uncategorized),
    ("Invalid request descriptor", .uncategorized),
    ("Exchange full", .uncategorized),
    ("No anode", .uncategorized),
    ("Invalid request code", .uncategorized),
    ("Invalid slot", .uncategorized),
    ("Unknown error 58", .uncategorized),
    ("Bad font file format", .uncategorized),
    ("Device not a stream", .uncategorized),
    ("No data available", .uncategorized),
    ("Timer expired", .uncategorized),
    ("Out of streams resources", .uncategorized),
    ("Machine is not on the network", .uncategorized),
    ("Package not installed", .uncategorized),
    ("Object is remote", .uncategorized),
    ("Link has been severed", .uncategorized),
    ("Advertise error", .uncategorized),
    ("Srmount error", .uncategorized),
    ("Communication error on send", .uncategorized),
    ("Protocol error", .uncategorized),
    ("Multihop attempted", .uncategorized),
    ("RFS specific error", .uncategorized),
    ("Bad message", .uncategorized),
    ("Value too large for defined data type", .uncategorized),
    ("Name not unique on network", .uncategorized),
    ("File descriptor in bad state", .uncategorized),
    ("Remote address changed", .uncategorized),
    ("Can not access a needed shared library", .uncategorized),
    ("Accessing a corrupted shared library", .uncategorized),
    (".lib section in a.out corrupted", .uncategorized),
    ("Attempting to link in too many shared libraries", .uncategorized),
    ("Cannot exec a shared library directly", .uncategorized),
    ("Invalid or incomplete multibyte or wide character", .uncategorized),
    ("Interrupted system call should be restarted", .uncategorized),
    ("Streams pipe error", .uncategorized),
    ("Too many users", .uncategorized),
    ("Socket operation on non-socket", .uncategorized),
    ("Destination address required", .uncategorized),
    ("Message too long", .uncategorized),
    ("Protocol wrong type for socket", .uncategorized),
    ("Protocol not available", .uncategorized),
    ("Protocol not supported", .uncategorized),
    ("Socket type not supported", .uncategorized),
    ("Operation not supported", .unsupported),
    ("Protocol family not supported", .uncategorized),
    ("Address family not supported by protocol", .uncategorized),
    ("Address already in use", .addrInUse),
    ("Cannot assign requested address", .addrNotAvailable),
    ("Network is down", .networkDown),
    ("Network is unreachable", .networkUnreachable),
    ("Network dropped connection on reset", .uncategorized),
    ("Software caused connection abort", .connectionAborted),
    ("Connection reset by peer", .connectionReset),
    ("No buffer space available", .uncategorized),
    ("Transport endpoint is already connected", .uncategorized),
    ("Transport endpoint is not connected", .notConnected),
    ("Cannot send after transport endpoint shutdown", .uncategorized),
    ("Too many references: cannot splice", .uncategorized),
    ("Connection timed out", .timedOut),
    ("Connection refused", .connectionRefused),
    ("Host is down", .uncategorized),
    ("No route to host", .hostUnreachable),
    ("Operation already in progress", .uncategorized),
    ("Operation now in progress", .inProgress),
    ("Stale file handle", .staleNetworkFileHandle),
    ("Structure needs cleaning", .uncategorized),
    ("Not a XENIX named type file", .uncategorized),
    ("No XENIX semaphores available", .uncategorized),
    ("Is a named type file", .uncategorized),
    ("Remote I/O error", .uncategorized),
    ("Disk quota exceeded", .quotaExceeded),
    ("No medium found", .uncategorized),
    ("Wrong medium type", .uncategorized),
    ("Operation canceled", .uncategorized),
    ("Required key not available", .uncategorized),
    ("Key has expired", .uncategorized),
    ("Key has been revoked", .uncategorized),
    ("Key was rejected by service", .uncategorized),
    ("Owner died", .uncategorized),
    ("State not recoverable", .uncategorized),
    ("Operation not possible due to RF-kill", .uncategorized),
    ("Memory page has hardware error", .uncategorized)
  ]

/-- The table's row for a number. -/
def row? (n : Int) : Option (String × ErrorKind) := if 0 ≤ n then table[n.toNat]? else none

/-- The description of an error number. -/
def description (n : Int) : String :=
  match row? n with
  | some (s, _) => s
  | none => "Unknown error " ++ toString n

/-- The kind of an error number. -/
def kind (n : Int) : ErrorKind :=
  match row? n with
  | some (_, k) => k
  | none => .uncategorized

end SparseFixture.Errno
