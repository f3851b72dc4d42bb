import Mathlib.Data.Int.Bitwise

/-!
# Posix sockets: the data model

The object `katla::PosixSocket` of `posix-socket.cpp` and the OS it talks to. The object holds its descriptor `_fd`
(`-1` when it holds none), its configuration and `_url`. The OS hands out fresh descriptors and answers every call;
what it answers is an argument (`Answers`), so a statement over every `Answers` is over every OS outcome. Each OS
call is appended, with its answer, to the trace `Os.calls`. A descriptor is released by a successful `close()` only
(`Syscall.releases`): the ledger results (`life_closes_owned_once`, `life_releases_each_once`) count releases so, and
do not cover Linux freeing the number on a failed `close()`, after which the destructor's retry may close a
descriptor handed out again.

The portable enumerations map to the Linux constants (`mapProtocolDomain`, `mapType`). A value of an enum's
underlying `int` that names no enumerator maps to the sentinel `-1`, the fallback after each switch.
-/

namespace Katla

/-- A `std::string` or a byte buffer. -/
abbrev Bytes := List UInt8

/-- `PosixSocket::ProtocolDomain`; `other v` is a value of the underlying `int` that names no enumerator. -/
inductive ProtocolDomain where
  | unix | ipv4 | ipv6 | packet | can | bluetooth | vsock
  | other (v : Int)
  deriving DecidableEq, Repr

/-- `PosixSocket::Type`; `other v` is a value of the underlying `int` that names no enumerator. -/
inductive SocketType where
  | stream | datagram | sequencedPacket | raw
  | other (v : Int)
  deriving DecidableEq, Repr

/-- `PosixSocket::mapProtocolDomain`: the Linux address family, or `-1`. -/
def mapProtocolDomain : ProtocolDomain → Int
  | .unix => 1
  | .ipv4 => 2
  | .ipv6 => 10
  | .packet => 17
  | .can => 29
  | .bluetooth => 31
  | .vsock => 40
  | .other _ => -1

/-- `PosixSocket::mapType`: the Linux socket type, or `-1`. -/
def mapType : SocketType → Int
  | .stream => 1
  | .datagram => 2
  | .sequencedPacket => 5
  | .raw => 3
  | .other _ => -1

/-- `SOCK_NONBLOCK`. -/
def sockNonblock : Int := 2048

/-- `htons` on a little-endian host. -/
def htons (x : UInt16) : UInt16 := (x <<< 8) ||| (x >>> 8)

/-- `static_cast<int>` of a wider integer: the low 32 bits, two's complement. -/
def toCInt (x : Int) : Int := x.bmod (2 ^ 32)

/-- `PosixErrorCodes`, the errors of `PosixErrorCategory`. -/
inductive PosixErrorCodes where
  | invalidDomain | invalidType | unixSocketPathTooLong | operationNotSupported
  deriving DecidableEq, Repr

/-- The errors a method returns: a `PosixErrorCodes`, or `std::make_error_code(static_cast<std::errc>(errno))`. -/
inductive PosixError where
  | posix (c : PosixErrorCodes)
  | errc (errno : Nat)
  deriving DecidableEq, Repr

/-- The object: `_fd`, the configuration and `_url`. -/
structure PosixSocket where
  fd : Int
  protocolDomain : ProtocolDomain
  type : SocketType
  frameType : UInt16
  nonBlocking : Bool
  url : Bytes
  deriving DecidableEq, Repr

namespace PosixSocket

/-- `PosixSocket(protocolDomain, type, frameType, nonBlocking)`: configuration only, no descriptor. -/
def configOnly (protocolDomain : ProtocolDomain) (type : SocketType) (frameType : UInt16) (nonBlocking : Bool) :
    PosixSocket :=
  ⟨-1, protocolDomain, type, frameType, nonBlocking, []⟩

/-- `PosixSocket(protocolDomain, type, frameType, nonBlocking, fd)`: built around a descriptor. -/
def ofFd (protocolDomain : ProtocolDomain) (type : SocketType) (frameType : UInt16) (nonBlocking : Bool) (fd : Int) :
    PosixSocket :=
  ⟨fd, protocolDomain, type, frameType, nonBlocking, []⟩

end PosixSocket

/-- The address a call is given: `sockaddr_ll` (protocol, interface index, packet type, hardware address length and
bytes) or the `sun_path` of a `sockaddr_un`. -/
inductive SockAddr where
  | ll (protocol : UInt16) (ifindex : Int) (pkttype halen : Nat) (addr : Bytes)
  | un (path : Bytes)
  deriving DecidableEq, Repr

/-- One OS call with its answer. -/
inductive Syscall where
  | socket (domain type protocol : Int) (ret : Int)
  | socketpair (domain type : Int) (ret : Option (Int × Int))
  | ifNametoindex (name : Bytes) (ret : Nat)
  | bind (fd : Int) (addr : SockAddr) (ok : Bool)
  | setsockopt (fd : Int) (ifindex : Int) (ok : Bool)
  | connect (fd : Int) (addr : SockAddr) (ok : Bool)
  | sendto (fd : Int) (len : Nat) (addr : SockAddr) (ret : Int)
  | recvfrom (fd : Int) (len flags : Nat) (ret : Int)
  | write (fd : Int) (len : Nat) (ret : Int)
  | poll (fd : Int) (events : Nat) (timeout : Int) (ret : Int)
  | close (fd : Int) (ok : Bool)
  deriving DecidableEq, Repr

namespace Syscall

/-- The descriptor a call takes, if it takes one. -/
def fd? : Syscall → Option Int
  | bind fd .. | setsockopt fd .. | connect fd .. | sendto fd .. | recvfrom fd .. | write fd .. | poll fd ..
  | close fd .. => some fd
  | _ => none

/-- The descriptor a call hands out: a successful `socket()`. -/
def obtains : Syscall → Option Int
  | socket _ _ _ ret => if ret = -1 then none else some ret
  | _ => none

/-- The descriptor a call releases: a successful `close()`. A failed one is taken to keep it, as `PosixSocket::close`
does when it keeps `_fd`; on Linux it is freed all the same unless the error is `EBADF`. -/
def releases : Syscall → Option Int
  | close fd true => some fd
  | _ => none

/-- `recvfrom`, `write` and `poll`: the calls the I/O methods issue on `_fd` as it is. -/
def onFdAsIs : Syscall → Bool
  | recvfrom .. | write .. | poll .. => true
  | _ => false

/-- A successful `::bind`. -/
def bindOk : Syscall → Bool
  | bind _ _ true => true
  | _ => false

/-- A call that neither obtains nor releases a descriptor. -/
def Quiet (c : Syscall) : Prop := c.obtains = none ∧ c.releases = none

theorem releases_eq_some {c : Syscall} {d : Int} : c.releases = some d ↔ c = close d true := by
  cases c with
  | close fd ok => cases ok <;> simp [releases, eq_comm]
  | _ => simp [releases]

end Syscall

/-- What the OS answers to the calls of one method call. Each method makes each kind of call at most once and
returns at its first failure, so one `errno` serves all of them. -/
structure Answers where
  socket : Bool
  ifIndex : Nat
  bind : Bool
  setsockopt : Bool
  connect : Bool
  sendto : Int
  recvfrom : Int
  write : Int
  poll : Int
  revents : Nat
  close : Bool
  errno : Nat
  deriving DecidableEq, Repr

/-- Every call succeeds; `if_nametoindex` finds interface 1 and the counts are 0. -/
def Answers.allOk : Answers := ⟨true, 1, true, true, true, 0, 0, 0, 0, 0, true, 0⟩

/-- The OS: the next fresh descriptor, and every call issued so far, oldest first. -/
structure Os where
  next : Nat
  calls : List Syscall
  deriving DecidableEq, Repr

/-- Issue a call. -/
def Os.issue (os : Os) (c : Syscall) : Os := { os with calls := os.calls ++ [c] }

@[simp] theorem Os.issue_next (os : Os) (c : Syscall) : (os.issue c).next = os.next := rfl

@[simp] theorem Os.issue_calls (os : Os) (c : Syscall) : (os.issue c).calls = os.calls ++ [c] := rfl

/-- The object and the OS. -/
structure World where
  sock : PosixSocket
  os : Os
  deriving DecidableEq, Repr

namespace World

/-- Issue a call on behalf of the object. -/
def issue (w : World) (c : Syscall) : World := { w with os := w.os.issue c }

/-- Store `_fd`. -/
def setFd (w : World) (fd : Int) : World := { w with sock := { w.sock with fd := fd } }

/-- Store `_url`. -/
def setUrl (w : World) (url : Bytes) : World := { w with sock := { w.sock with url := url } }

/-- `_fd = socket(...)` when `socket()` succeeds: the next fresh descriptor, and the call in the trace. -/
def socketOk (w : World) (domain type protocol : Int) : World :=
  ⟨{ w.sock with fd := w.os.next }, ⟨w.os.next + 1, w.os.calls ++ [.socket domain type protocol w.os.next]⟩⟩

@[simp] theorem socketOk_sock (w : World) (domain type protocol : Int) :
    (w.socketOk domain type protocol).sock = { w.sock with fd := w.os.next } := rfl

@[simp] theorem socketOk_os (w : World) (domain type protocol : Int) :
    (w.socketOk domain type protocol).os = ⟨w.os.next + 1, w.os.calls ++ [.socket domain type protocol w.os.next]⟩ :=
  rfl

@[simp] theorem issue_sock (w : World) (c : Syscall) : (w.issue c).sock = w.sock := rfl

@[simp] theorem issue_os (w : World) (c : Syscall) : (w.issue c).os = w.os.issue c := rfl

@[simp] theorem setFd_os (w : World) (fd : Int) : (w.setFd fd).os = w.os := rfl

@[simp] theorem setFd_sock (w : World) (fd : Int) : (w.setFd fd).sock = { w.sock with fd := fd } := rfl

@[simp] theorem setUrl_os (w : World) (url : Bytes) : (w.setUrl url).os = w.os := rfl

@[simp] theorem setUrl_sock (w : World) (url : Bytes) : (w.setUrl url).sock = { w.sock with url := url } := rfl

end World

end Katla
