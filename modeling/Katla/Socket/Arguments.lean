import Katla.Socket.Ledger

/-!
# Posix sockets: what the OS is given

Two arguments the methods compute before an OS call.

* **The poll timeout.** `poll` passes `static_cast<int>(timeout.count())`, the low 32 bits of the 64-bit count
  (`poll_calls`). A count arrives unchanged exactly when it fits in an `int` (`toCInt_eq_self_iff`); a larger finite
  count arrives negative, an indefinite wait, exactly when its residue modulo `2^32` is at least `2^31`
  (`toCInt_neg_iff`), and a multiple of `2^32` arrives as 0 (`poll_timeout_wraps`).
* **The Unix address.** `bind` and `connect` build `sun_path` with `strncpy`, which stops at the first NUL of the url.
  For a url under 108 bytes it is 108 bytes that read back, up to their first NUL, as the url up to its first NUL;
  two such urls give the same address exactly when they agree up to their first NUL (`sunPath_reads_url`), so
  `"a\0b"` and `"a"` share one (`sunPath_embedded_nul`). Every Unix address along every life of a built object is
  one of these (`life_unix_paths`).
-/

namespace Katla

/-- The `sun_path` a call is given, when it is given a Unix address. -/
def Syscall.unPath? : Syscall → Option Bytes
  | .bind _ (.un p) _ | .connect _ (.un p) _ | .sendto _ _ (.un p) _ => some p
  | _ => none

namespace PosixSocket

variable {w : World}

/-! ## The poll timeout -/

/-- `static_cast<int>` keeps a count that fits in an `int`, and only such a count. -/
theorem toCInt_eq_self_iff {t : Int} : toCInt t = t ↔ -2 ^ 31 ≤ t ∧ t < 2 ^ 31 := by
  unfold toCInt Int.bmod
  push_cast
  split_ifs <;> omega

/-- `static_cast<int>` gives a negative `int` exactly when the low 32 bits have the sign bit set. -/
theorem toCInt_neg_iff {t : Int} : toCInt t < 0 ↔ 2 ^ 31 ≤ t % 2 ^ 32 := by
  unfold toCInt Int.bmod
  push_cast
  split_ifs <;> omega

/-- `poll` issues one `::poll` on `_fd`, with the timeout cast to `int`. -/
theorem poll_calls (t : Int) (writePending : Bool) (a : Answers) (w : World) :
    ∃ events, (poll t writePending a w).2.os.calls = w.os.calls ++ [.poll w.sock.fd events (toCInt t) a.poll] := by
  unfold poll
  split_ifs <;> exact ⟨_, rfl⟩

/-- Finite timeouts of `2^31` ms (about 24.8 days) and `±2^32` ms, all 64-bit counts: `::poll` is given `-2^31`,
an indefinite wait, and `0`, no wait at all. -/
theorem poll_timeout_wraps (writePending : Bool) (a : Answers) (w : World) :
    (∃ events,
        (poll (2 ^ 31) writePending a w).2.os.calls = w.os.calls ++ [.poll w.sock.fd events (-2 ^ 31) a.poll]) ∧
      (∃ events, (poll (2 ^ 32) writePending a w).2.os.calls = w.os.calls ++ [.poll w.sock.fd events 0 a.poll]) ∧
      ∃ events, (poll (-2 ^ 32) writePending a w).2.os.calls = w.os.calls ++ [.poll w.sock.fd events 0 a.poll] := by
  have h₁ : toCInt (2 ^ 31) = -2 ^ 31 := by decide
  have h₂ : toCInt (2 ^ 32) = 0 := by decide
  have h₃ : toCInt (-2 ^ 32) = 0 := by decide
  exact ⟨h₁ ▸ poll_calls _ writePending a w, h₂ ▸ poll_calls _ writePending a w, h₃ ▸ poll_calls _ writePending a w⟩

/-! ## The Unix address -/

/-- A byte string read as a C string: its bytes before the first NUL. -/
def cString (p : Bytes) : Bytes := p.takeWhile (· != 0)

theorem cString_length_le (u : Bytes) : (cString u).length ≤ u.length :=
  (List.takeWhile_prefix _).length_le

/-- `url.c_str()` read as a C string is `url` read as one. -/
theorem cString_append_zero (u : Bytes) : cString (u ++ [0]) = cString u := by
  induction u with
  | nil => rfl
  | cons x u ih => by_cases hx : x = 0 <;> simp_all [cString, List.takeWhile_cons]

/-- A C string followed by a NUL reads back as itself. -/
theorem cString_append_zero_cons (u r : Bytes) : cString (cString u ++ 0 :: r) = cString u := by
  induction u with
  | nil => rfl
  | cons x u ih => by_cases hx : x = 0 <;> simp_all [cString, List.takeWhile_cons]

theorem cString_eq_self_iff {u : Bytes} : cString u = u ↔ 0 ∉ u := by
  simp only [cString, List.takeWhile_eq_self_iff, bne_iff_ne, ne_eq]
  exact ⟨fun h h0 => h 0 h0 rfl, fun h x hx hx0 => h (hx0 ▸ hx)⟩

/-- `strncpy` writes the C string of `src`, then NUL bytes up to `n`, when the C string fits in `n`. -/
theorem strncpy_eq {dst src : Bytes} {n : Nat} (h : (cString src).length ≤ n) :
    strncpy dst src n = cString src ++ List.replicate (n - (cString src).length) 0 ++ dst.drop n := by
  unfold cString at h ⊢
  rw [strncpy, List.take_append_eq_append_take, List.take_of_length_le h, List.take_replicate,
    Nat.min_eq_left (Nat.sub_le n _)]

/-- The `sun_path` of a url under 108 bytes: the url up to its first NUL, then NUL bytes up to 108. -/
theorem sunPath_eq {url : Bytes} (h : url.length < 108) :
    sunPath url = cString url ++ List.replicate (108 - (cString url).length) 0 := by
  have hl := cString_length_le url
  rw [sunPath, strncpy_eq (by rw [cString_append_zero]; omega), cString_append_zero, List.drop_replicate,
    List.append_assoc, List.append_replicate_replicate]
  congr 2
  omega

theorem cString_sunPath {url : Bytes} (h : url.length < 108) : cString (sunPath url) = cString url := by
  obtain ⟨k, hk⟩ : ∃ k, 108 - (cString url).length = k + 1 :=
    ⟨_, (Nat.succ_pred_eq_of_pos (by have := cString_length_le url; omega)).symm⟩
  rw [sunPath_eq h, hk, List.replicate_succ, cString_append_zero_cons]

/-- For every url under 108 bytes, the `sun_path` that `bind` and `connect` build has 108 bytes, none written past
it; read up to its first NUL it is the url up to its first NUL, which is the url itself exactly when the url has no
NUL byte; and two such urls give the same address exactly when they agree up to their first NUL. -/
theorem sunPath_reads_url {u v : Bytes} (hu : u.length < 108) (hv : v.length < 108) :
    (sunPath u).length = 108 ∧ cString (sunPath u) = cString u ∧ (cString u = u ↔ 0 ∉ u) ∧
      (sunPath u = sunPath v ↔ cString u = cString v) := by
  refine ⟨?_, cString_sunPath hu, cString_eq_self_iff, ?_, fun h => by rw [sunPath_eq hu, sunPath_eq hv, h]⟩
  · have := cString_length_le u
    rw [sunPath_eq hu, List.length_append, List.length_replicate]
    omega
  · intro h
    rw [← cString_sunPath hu, h, cString_sunPath hv]

theorem sunPath_reads_url_ab :
    ([97] : Bytes).length < 108 ∧ ([98] : Bytes).length < 108 ∧
      ((sunPath [97]).length = 108 ∧ cString (sunPath [97]) = cString [97] ∧
        (cString [97] = [97] ↔ 0 ∉ ([97] : Bytes)) ∧ (sunPath [97] = sunPath [98] ↔ cString [97] = cString [98])) :=
  ⟨by decide, by decide, sunPath_reads_url (v := [98]) (by decide) (by decide)⟩

/-- `"a\0b"` and `"a"`, both under 108 bytes, give the same address, which reads back as `"a"`. -/
theorem sunPath_embedded_nul :
    sunPath [97, 0, 98] = sunPath [97] ∧ cString (sunPath [97, 0, 98]) = [97] :=
  ⟨by decide, by decide⟩

/-! ## Every Unix address of a life -/

/-- Every Unix address in the trace is the `sun_path` of a url under 108 bytes. -/
def PathsOk (calls : List Syscall) : Prop :=
  ∀ c ∈ calls, ∀ p ∈ c.unPath?, ∃ url, url.length < 108 ∧ p = sunPath url

@[simp] theorem pathsOk_nil : PathsOk [] := by simp [PathsOk]

@[simp] theorem pathsOk_cons {c : Syscall} {calls : List Syscall} :
    PathsOk (c :: calls) ↔ (∀ p ∈ c.unPath?, ∃ url, url.length < 108 ∧ p = sunPath url) ∧ PathsOk calls := by
  simp [PathsOk]

theorem pathsOk_append {calls calls' : List Syscall} :
    PathsOk (calls ++ calls') ↔ PathsOk calls ∧ PathsOk calls' := by
  simp only [PathsOk, List.mem_append, or_imp, forall_and]

theorem create_pathsOk (h : PathsOk w.os.calls) (a : Answers) : PathsOk (create a w).2.os.calls := by
  rcases create_cases a w with ⟨_, -, he⟩ | ⟨_, _, _, -, he⟩ | ⟨_, _, _, -, he⟩ <;> rw [he] <;>
    simp [pathsOk_append, h, Syscall.unPath?]

/-- One method call adds only Unix addresses built from a url under 108 bytes. -/
theorem step_pathsOk (h : PathsOk w.os.calls) (op : Op) : PathsOk (step op w).os.calls := by
  have hc : ∀ a, PathsOk (create a w).2.os.calls := create_pathsOk h
  cases op <;> simp only [step, bind, connect, sendTo, read, receiveFrom, write, poll, close] <;> split_ifs
  -- the branches without `create()`, then those after it, where the only Unix address is a short url's `sun_path`
  all_goals first
    | (simp [pathsOk_append, h, Syscall.unPath?]; done)
    | refine andThen_keeps (P := fun w => PathsOk w.os.calls) (Q := fun w => PathsOk w.os.calls)
        ⟨hc _, fun _ => hc _⟩ fun w hw => ?_
      simp [pathsOk_append, hw, Syscall.unPath?]
      try exact ⟨_, by omega, rfl⟩

theorem run_pathsOk : ∀ (ops : List Op) {w : World}, PathsOk w.os.calls → PathsOk (run ops w).os.calls
  | [], _, h => h
  | op :: ops, _, h => run_pathsOk ops (step_pathsOk h op)

/-- Along every life of a built object, every Unix address given to the OS is the `sun_path` of a url under 108
bytes, so has 108 bytes and reads back as that url up to its first NUL (`sunPath_reads_url`). -/
theorem life_unix_paths {w : World} (hw : Built w) (ops : List Op) (a : Answers) :
    PathsOk (life ops a w).os.calls := by
  have h0 : PathsOk w.os.calls := by
    rcases built_cases hw with ⟨-, hc⟩ | ⟨c, hc, hfd, -⟩ <;> rw [hc]
    · exact pathsOk_nil
    · have : c.unPath? = none := by cases c <;> simp_all [Syscall.fd?, Syscall.unPath?]
      simp [this]
  have h := run_pathsOk ops h0
  unfold life destroy
  split_ifs
  · exact h
  · simp [pathsOk_append, h, Syscall.unPath?]

/-- A config-only Unix object binds, connects and sends. -/
theorem life_unix_paths_bind_connect :
    PathsOk (life [.bind [97] Answers.allOk, .connect [98] Answers.allOk, .sendTo [99] 4 Answers.allOk] Answers.allOk
      ⟨configOnly .unix .stream 0 false, ⟨3, []⟩⟩).os.calls :=
  life_unix_paths (.configOnly .unix .stream 0 false 3) _ _

end PosixSocket
end Katla
