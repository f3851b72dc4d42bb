import Katla.Socket.Ledger

/-!
# Posix sockets: results and error paths

A failed send: `sendTo` returns `sendto()`'s answer as a success, whatever it is: its `return nbytes;` comes before
the error check, so a failed send reads as success `-1` (`sendTo_failed_sendto_is_success`).

Early errors: a mapping error or `OperationNotSupported` leaves the world as it was, no OS call issued
(`bind_posix_error`, `connect_posix_error`, `sendTo_posix_error`, `createUnnamedPair_error`). `UnixSocketPathTooLong`
comes only after `create()` has issued `socket()` and stored its descriptor in `_fd` (the same lemmas, gathered in
`early_errors_leave_world`).
-/

namespace Katla
namespace PosixSocket

variable {a : Answers} {w : World} {len : Nat}

/-! ## A failed send -/

/-- A failed `sendto()` on a Packet/Raw socket: `sendTo` returns success `-1`. -/
theorem sendTo_failed_sendto_is_success :
    (sendTo [101, 116, 104, 48] 64 { Answers.allOk with sendto := -1, errno := 19 }
      ⟨configOnly .packet .raw 0 false, ⟨3, []⟩⟩).1 = .ok (-1) :=
  rfl

/-! ## Early errors -/

/-- A `PosixErrorCodes` error from `bind`: `UnixSocketPathTooLong` comes after a successful `socket()` and nothing
else, every other one before any OS call. -/
theorem bind_posix_error {url : Bytes} {c : PosixErrorCodes} (h : (bind url a w).1 = .error (.posix c)) :
    if c = .unixSocketPathTooLong then ∃ dom ty pr, (bind url a w).2 = w.socketOk dom ty pr
    else (bind url a w).2 = w := by
  obtain ⟨r, w', hb⟩ : ∃ r w', bind url a w = (r, w') := ⟨_, _, rfl⟩
  rw [hb] at h ⊢
  subst h
  rcases create_cases a w with ⟨c', hc', he⟩ | ⟨dom, ty, pr, -, he⟩ | ⟨dom, ty, pr, -, he⟩ <;>
    simp only [bind, he, andThen_error, andThen_ok] at hb <;> split_ifs at hb <;>
    simp only [Prod.mk.injEq, Except.error.injEq, PosixError.posix.injEq, reduceCtorEq, false_and] at hb <;>
    obtain ⟨rfl, rfl⟩ := hb
  all_goals first | exact ⟨_, _, _, rfl⟩ | (rcases hc' with rfl | rfl <;> rfl) | rfl

/-- A `PosixErrorCodes` error from `connect`: as for `bind`. -/
theorem connect_posix_error {url : Bytes} {c : PosixErrorCodes} (h : (connect url a w).1 = .error (.posix c)) :
    if c = .unixSocketPathTooLong then ∃ dom ty pr, (connect url a w).2 = w.socketOk dom ty pr
    else (connect url a w).2 = w := by
  obtain ⟨r, w', hb⟩ : ∃ r w', connect url a w = (r, w') := ⟨_, _, rfl⟩
  rw [hb] at h ⊢
  subst h
  rcases create_cases a w with ⟨c', hc', he⟩ | ⟨dom, ty, pr, -, he⟩ | ⟨dom, ty, pr, -, he⟩ <;>
    simp only [connect, he, andThen_error, andThen_ok] at hb <;> split_ifs at hb <;>
    simp only [Prod.mk.injEq, Except.error.injEq, PosixError.posix.injEq, reduceCtorEq, false_and] at hb <;>
    obtain ⟨rfl, rfl⟩ := hb
  all_goals first | exact ⟨_, _, _, rfl⟩ | (rcases hc' with rfl | rfl <;> rfl) | rfl

/-- A `PosixErrorCodes` error from `sendTo` comes before any OS call. -/
theorem sendTo_posix_error {url : Bytes} {c : PosixErrorCodes} (h : (sendTo url len a w).1 = .error (.posix c)) :
    (sendTo url len a w).2 = w := by
  obtain ⟨r, w', hb⟩ : ∃ r w', sendTo url len a w = (r, w') := ⟨_, _, rfl⟩
  rw [hb] at h ⊢
  subst h
  rcases create_cases a w with ⟨c', hc', he⟩ | ⟨dom, ty, pr, -, he⟩ | ⟨dom, ty, pr, -, he⟩ <;>
    simp only [sendTo, he, andThen_error, andThen_ok] at hb <;> split_ifs at hb <;>
    simp only [Prod.mk.injEq, Except.error.injEq, PosixError.posix.injEq, reduceCtorEq, false_and] at hb <;>
    exact hb.2.symm

/-- `createUnnamedPair` fails with a `PosixErrorCodes` error only at a mapping, before `socketpair()`. -/
theorem createUnnamedPair_error {protocolDomain : ProtocolDomain} {type : SocketType} {frameType : UInt16}
    {nonBlocking : Bool} {os : Os} {c : PosixErrorCodes}
    (h : (createUnnamedPair protocolDomain type frameType nonBlocking a os).1 = .error (.posix c)) :
    (createUnnamedPair protocolDomain type frameType nonBlocking a os).2 = os := by
  rcases createUnnamedPair_cases protocolDomain type frameType nonBlocking a os with
    ⟨_, -, he⟩ | ⟨_, _, he⟩ | ⟨_, _, he⟩ <;> rw [he] at h ⊢ <;> cases h

/-- The errors detected before any OS call leave the world as it was: no call issued, `_fd` and `_url` unchanged.
`UnixSocketPathTooLong` is detected after `create()`: `socket()` was issued and succeeded, `_fd` holds the fresh
descriptor, `_url` is unchanged, and no `bind()` or `connect()` was issued. -/
theorem early_errors_leave_world (url : Bytes) (len : Nat) (a : Answers) (w : World)
    (protocolDomain : ProtocolDomain) (type : SocketType) (frameType : UInt16) (nonBlocking : Bool) (os : Os) :
    (∀ c, c ≠ .unixSocketPathTooLong →
      ((bind url a w).1 = .error (.posix c) → (bind url a w).2 = w) ∧
      ((connect url a w).1 = .error (.posix c) → (connect url a w).2 = w) ∧
      ((sendTo url len a w).1 = .error (.posix c) → (sendTo url len a w).2 = w) ∧
      ((createUnnamedPair protocolDomain type frameType nonBlocking a os).1 = .error (.posix c) →
        (createUnnamedPair protocolDomain type frameType nonBlocking a os).2 = os)) ∧
    ((bind url a w).1 = .error (.posix .unixSocketPathTooLong) →
      ∃ dom ty pr, (bind url a w).2 = w.socketOk dom ty pr) ∧
    ((connect url a w).1 = .error (.posix .unixSocketPathTooLong) →
      ∃ dom ty pr, (connect url a w).2 = w.socketOk dom ty pr) :=
  ⟨fun _ hc => ⟨fun h => by simpa only [if_neg hc] using bind_posix_error h,
      fun h => by simpa only [if_neg hc] using connect_posix_error h, sendTo_posix_error, createUnnamedPair_error⟩,
    fun h => by simpa only [if_pos rfl] using bind_posix_error h,
    fun h => by simpa only [if_pos rfl] using connect_posix_error h⟩

/-- `bind` and `connect` on a config-only object whose type maps to no Linux type, and on an IPv4 one, and
`createUnnamedPair` of such a type: each fails before any OS call and leaves the world as it was. -/
theorem early_errors_leave_world_invalid_type :
    (bind [97] Answers.allOk ⟨configOnly .unix (.other 9) 0 false, ⟨3, []⟩⟩ =
      (.error (.posix .invalidType), ⟨configOnly .unix (.other 9) 0 false, ⟨3, []⟩⟩)) ∧
    (connect [97] Answers.allOk ⟨configOnly .unix (.other 9) 0 false, ⟨3, []⟩⟩ =
      (.error (.posix .invalidType), ⟨configOnly .unix (.other 9) 0 false, ⟨3, []⟩⟩)) ∧
    (bind [97] Answers.allOk ⟨configOnly .ipv4 .stream 0 false, ⟨3, []⟩⟩ =
      (.error (.posix .operationNotSupported), ⟨configOnly .ipv4 .stream 0 false, ⟨3, []⟩⟩)) ∧
    (connect [97] Answers.allOk ⟨configOnly .ipv4 .stream 0 false, ⟨3, []⟩⟩ =
      (.error (.posix .operationNotSupported), ⟨configOnly .ipv4 .stream 0 false, ⟨3, []⟩⟩)) ∧
    (createUnnamedPair .unix (.other 9) 0 false Answers.allOk ⟨3, []⟩ = (.error (.posix .invalidType), ⟨3, []⟩)) := by
  have h₁ := (early_errors_leave_world [97] 0 Answers.allOk ⟨configOnly .unix (.other 9) 0 false, ⟨3, []⟩⟩ .unix
    (.other 9) 0 false ⟨3, []⟩).1 .invalidType (by decide)
  have h₂ := (early_errors_leave_world [97] 0 Answers.allOk ⟨configOnly .ipv4 .stream 0 false, ⟨3, []⟩⟩ .unix
    (.other 9) 0 false ⟨3, []⟩).1 .operationNotSupported (by decide)
  exact ⟨Prod.ext rfl (h₁.1 rfl), Prod.ext rfl (h₁.2.1 rfl), Prod.ext rfl (h₂.1 rfl), Prod.ext rfl (h₂.2.1 rfl),
    Prod.ext rfl (h₁.2.2.2 rfl)⟩

/-- `bind` of a 108-byte path on a config-only Unix object: `socket()` is issued and `_fd` overwritten before the
length check fails. -/
theorem bind_long_path_issues_socket :
    bind (List.replicate 108 47) Answers.allOk ⟨configOnly .unix .stream 0 false, ⟨3, []⟩⟩ =
      (.error (.posix .unixSocketPathTooLong),
        ⟨{ configOnly .unix .stream 0 false with fd := 3 }, ⟨4, [.socket 1 1 0 3]⟩⟩) :=
  rfl

end PosixSocket
end Katla
