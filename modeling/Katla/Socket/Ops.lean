import Katla.Socket.Basic

/-!
# Posix sockets: the methods

Each method of `PosixSocket` as a function of its arguments, the OS's answers and the world, returning its result and
the world after it. A failing method returns its error with the world as the failure left it: nothing is rolled back,
so `_fd` stays overwritten by `create()` and `_url` stays set after a failed membership join. The diagnostics that
`bind` and `sendTo` print are left out.
-/

namespace Katla
namespace PosixSocket

/-! ## Addresses and readiness -/

/-- `strncpy(dst, src, n)`: the bytes of `src` before its first NUL, padded with NUL bytes to `n`, over the first `n`
bytes of `dst`. -/
def strncpy (dst src : Bytes) (n : Nat) : Bytes :=
  ((src.takeWhile (· != 0)) ++ List.replicate n 0).take n ++ dst.drop n

/-- The `sun_path` that `bind` and `connect` build: 108 zero bytes, then
`strncpy(sun_path, url.c_str(), url.length() + 1)`. -/
def sunPath (url : Bytes) : Bytes :=
  strncpy (List.replicate 108 0) (url ++ [0]) (url.length + 1)

/-- `PACKET_MULTICAST`. -/
def packetMulticast : Nat := 2

/-- `POLLIN`, `POLLPRI`, `POLLOUT`, `POLLERR`, `POLLHUP`, `POLLNVAL` and `POLLRDHUP`. -/
def pollIn : Nat := 0x1
def pollPri : Nat := 0x2
def pollOut : Nat := 0x4
def pollErr : Nat := 0x8
def pollHup : Nat := 0x10
def pollNval : Nat := 0x20
def pollRdHup : Nat := 0x2000

/-- `MSG_DONTWAIT`. -/
def msgDontwait : Nat := 0x40

/-- `EAGAIN` and `EWOULDBLOCK`, both 11 on Linux. -/
def eagain : Nat := 11
def ewouldblock : Nat := 11

/-- `PosixSocket::WaitResult`. -/
structure WaitResult where
  dataToRead : Bool
  urgentDataToRead : Bool
  writingWillNotBlock : Bool
  readHangup : Bool
  writeHangup : Bool
  error : Bool
  invalid : Bool
  deriving DecidableEq, Repr

/-- The `WaitResult` that `poll` reads off `revents`. -/
def WaitResult.ofRevents (r : Nat) : WaitResult :=
  ⟨r &&& pollIn != 0 || r &&& pollPri != 0, r &&& pollPri != 0, r &&& pollOut != 0, r &&& pollRdHup != 0,
    r &&& pollHup != 0, r &&& pollErr != 0, r &&& pollNval != 0⟩

/-! ## Creation -/

/-- `if (!result) return result.error();` after `create()`: stop at its error, else go on. -/
def andThen {α : Type} (r : Except PosixError Unit × World) (k : World → Except PosixError α × World) :
    Except PosixError α × World :=
  match r with
  | (.error e, w) => (.error e, w)
  | (.ok (), w) => k w

@[simp] theorem andThen_error {α : Type} (e : PosixError) (w : World) (k : World → Except PosixError α × World) :
    andThen (.error e, w) k = (.error e, w) := rfl

@[simp] theorem andThen_ok {α : Type} (w : World) (k : World → Except PosixError α × World) :
    andThen (.ok (), w) k = k w := rfl

/-- `PosixSocket::create`: `_fd = socket(...)`, overwriting whatever `_fd` held. -/
def create (a : Answers) (w : World) : Except PosixError Unit × World :=
  let domain := mapProtocolDomain w.sock.protocolDomain
  if domain = -1 then (.error (.posix .invalidDomain), w) else
  let mappedType := mapType w.sock.type
  if mappedType = -1 then (.error (.posix .invalidType), w) else
  let mappedType := if w.sock.nonBlocking then mappedType.lor sockNonblock else mappedType
  let frameType : UInt16 := if w.sock.type = .raw then htons 0 else 0
  if a.socket then (.ok (), w.socketOk domain mappedType frameType.toNat)
  else
    (.error (.errc a.errno), (w.setFd (-1)).issue (.socket domain mappedType frameType.toNat (-1)))

/-- `PosixSocket::createUnnamedPair`: two objects around the two ends of one `socketpair()`. The source builds
`InvalidDomain` and `InvalidType` on a `PosixErrorCategory` local to the function; they are given here as the posix
category's codes. -/
def createUnnamedPair (protocolDomain : ProtocolDomain) (type : SocketType) (frameType : UInt16)
    (nonBlocking : Bool) (a : Answers) (os : Os) : Except PosixError (PosixSocket × PosixSocket) × Os :=
  let mappedDomain := mapProtocolDomain protocolDomain
  if mappedDomain = -1 then (.error (.posix .invalidDomain), os) else
  let mappedType := mapType type
  if mappedType = -1 then (.error (.posix .invalidType), os) else
  let mappedType := if nonBlocking then mappedType.lor sockNonblock else mappedType
  if a.socket then
    (.ok (ofFd protocolDomain type frameType nonBlocking os.next,
        ofFd protocolDomain type frameType nonBlocking (os.next + 1)),
      ⟨os.next + 2, os.calls ++ [.socketpair mappedDomain mappedType (some (os.next, os.next + 1))]⟩)
  else (.error (.errc a.errno), os.issue (.socketpair mappedDomain mappedType none))

/-! ## Bind and connect -/

/-- `PosixSocket::bind`. -/
def bind (url : Bytes) (a : Answers) (w : World) : Except PosixError Unit × World :=
  if w.sock.protocolDomain = .packet ∧ w.sock.type = .raw then
    andThen (create a w) fun w =>
      let w := w.issue (.ifNametoindex url a.ifIndex)
      if a.ifIndex = 0 then (.error (.errc a.errno), w) else
      let ifindex := toCInt a.ifIndex
      let w := w.issue (.bind w.sock.fd (.ll (htons w.sock.frameType) ifindex packetMulticast 0 (List.replicate 8 0))
        a.bind)
      if a.bind then
        let w := w.setUrl url
        let w := w.issue (.setsockopt w.sock.fd ifindex a.setsockopt)
        if a.setsockopt then (.ok (), w) else (.error (.errc a.errno), w)
      else (.error (.errc a.errno), w)
  else if w.sock.protocolDomain = .unix then
    andThen (create a w) fun w =>
      if url.length ≥ 108 then (.error (.posix .unixSocketPathTooLong), w) else
      let w := w.issue (.bind w.sock.fd (.un (sunPath url)) a.bind)
      if a.bind then (.ok (), w) else (.error (.errc a.errno), w)
  else (.error (.posix .operationNotSupported), w)

/-- `PosixSocket::connect`. -/
def connect (url : Bytes) (a : Answers) (w : World) : Except PosixError Unit × World :=
  if w.sock.protocolDomain = .unix then
    andThen (create a w) fun w =>
      if url.length ≥ 108 then (.error (.posix .unixSocketPathTooLong), w) else
      let w := w.issue (.connect w.sock.fd (.un (sunPath url)) a.connect)
      if a.connect then (.ok (), w) else (.error (.errc a.errno), w)
  else (.error (.posix .operationNotSupported), w)

/-! ## Readiness and I/O -/

/-- `PosixSocket::poll`. -/
def poll (timeout : Int) (writePending : Bool) (a : Answers) (w : World) : Except PosixError WaitResult × World :=
  let events := pollIn ||| pollPri ||| pollRdHup
  let events := if writePending then events ||| pollOut else events
  let w := w.issue (.poll w.sock.fd events (toCInt timeout) a.poll)
  if a.poll = -1 then (.error (.errc a.errno), w) else (.ok (WaitResult.ofRevents a.revents), w)

/-- `PosixSocket::receiveFrom` into a buffer of `len` bytes. -/
def receiveFrom (len : Nat) (a : Answers) (w : World) : Except PosixError Int × World :=
  let flags := if w.sock.nonBlocking then msgDontwait else 0
  let w := w.issue (.recvfrom w.sock.fd len flags a.recvfrom)
  if a.recvfrom = -1 then
    if w.sock.nonBlocking ∧ (a.errno = eagain ∨ a.errno = ewouldblock) then (.ok 0, w)
    else (.error (.errc a.errno), w)
  else (.ok a.recvfrom, w)

/-- `PosixSocket::read`. -/
def read (len : Nat) (a : Answers) (w : World) : Except PosixError Int × World :=
  receiveFrom len a w

/-- `PosixSocket::write` of a buffer of `len` bytes. -/
def write (len : Nat) (a : Answers) (w : World) : Except PosixError Int × World :=
  let w := w.issue (.write w.sock.fd len a.write)
  if a.write = -1 then (.error (.errc a.errno), w) else (.ok a.write, w)

/-- `PosixSocket::sendTo` of a buffer of `len` bytes. `return nbytes;` comes before the check of `nbytes == -1`,
which is never reached. -/
def sendTo (url : Bytes) (len : Nat) (a : Answers) (w : World) : Except PosixError Int × World :=
  if w.sock.protocolDomain = .packet ∧ w.sock.type = .raw then
    andThen (create a w) fun w =>
      let w := w.issue (.ifNametoindex url a.ifIndex)
      if a.ifIndex = 0 then (.error (.errc a.errno), w) else
      let addr := SockAddr.ll (htons w.sock.frameType) (toCInt a.ifIndex) 0 6 [1, 1, 5, 4, 0, 0, 0, 0]
      (.ok a.sendto, w.issue (.sendto w.sock.fd len addr a.sendto))
  else (.error (.posix .operationNotSupported), w)

/-! ## Release -/

/-- `PosixSocket::close`: a failed `close()` keeps `_fd`. -/
def close (a : Answers) (w : World) : Except PosixError Unit × World :=
  if w.sock.fd = -1 then (.ok (), w) else
  let w := w.issue (.close w.sock.fd a.close)
  if a.close then (.ok (), w.setFd (-1)) else (.error (.errc a.errno), w)

/-- `PosixSocket::~PosixSocket`: an unchecked `close()` of `_fd` when it is not `-1`. -/
def destroy (a : Answers) (w : World) : World :=
  if w.sock.fd = -1 then w else w.issue (.close w.sock.fd a.close)

end PosixSocket
end Katla
