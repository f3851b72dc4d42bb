import Katla.Socket.Ledger

/-!
# Posix sockets: descriptor ownership

Along every life of a built object, each call that takes a descriptor takes one the object holds; only `recvfrom`,
`write` and `poll` take `_fd` as it is, which is `-1` on an object that holds none, and `read`, `write` and `poll`,
which issue them, create no descriptor (`life_fd_calls_held`). So the object closes only descriptors it obtained, and
none twice (`life_closes_owned_once`).

What fails is the converse: `create()` stores `socket()`'s answer in `_fd` without looking at what `_fd` held. A
second `bind` leaks the first descriptor (`bind_twice_leaks_first_fd`). Callers that never call `bind`, `connect` or
`sendTo` while the object holds a descriptor (`CreatesFresh`) keep every descriptor accounted for (`Accounted`) along
the run, and a destructor whose `close()` succeeds then releases each exactly once (`life_releases_each_once`).

Both results count releases as the trace does: only a successful `close()` releases (`Syscall.releases`). On Linux a
`close()` that fails with anything but `EBADF` has already freed the number, so after a failed `PosixSocket::close()`,
which keeps `_fd`, the destructor's second `close()` may close a descriptor the OS has since handed out again; the
model does not see that reuse.
-/

namespace Katla
namespace PosixSocket

variable {fd0 : Int} {w : World}

/-! ## Calls on descriptors -/

/-- Every call on a descriptor, along every life of every built object, uses a descriptor the object holds, except
that `recvfrom`, `write` and `poll` may take `-1`; and the methods that issue those, `read`, `write` and `poll`,
create no descriptor: each leaves the object as it was and issues exactly one call, on `_fd` as it is. -/
theorem life_fd_calls_held {w : World} (hw : Built w) (ops : List Op) (a : Answers) :
    FdUse w.sock.fd (life ops a w).os.calls ∧
      ∀ op ∈ ops, op.onFdAsIs = true → ∀ w' : World,
        ∃ c, step op w' = w'.issue c ∧ c.fd? = some w'.sock.fd ∧ c.onFdAsIs = true :=
  ⟨destroy_fdUse (run_inv ops (built_inv hw)) a, fun _ _ hop w' => step_asIs hop w'⟩

/-- A `read` on a config-only object, then its destructor. -/
theorem life_fd_calls_held_read :
    FdUse (-1) (life [.read 16 Answers.allOk] Answers.allOk ⟨configOnly .unix .stream 0 false, ⟨3, []⟩⟩).os.calls ∧
      ∀ op ∈ [Op.read 16 Answers.allOk], op.onFdAsIs = true → ∀ w' : World,
        ∃ c, step op w' = w'.issue c ∧ c.fd? = some w'.sock.fd ∧ c.onFdAsIs = true :=
  life_fd_calls_held (.configOnly .unix .stream 0 false 3) _ _

/-- `read` on a config-only object passes `-1` to `recvfrom`. -/
theorem read_config_only_recvfrom_sentinel :
    (read 16 Answers.allOk ⟨configOnly .unix .stream 0 false, ⟨3, []⟩⟩).2.os.calls = [.recvfrom (-1) 16 0 0] :=
  rfl

/-- A `close()` in an `FdUse` trace closes an owned descriptor. -/
theorem FdUse.close_owned {calls : List Syscall} (h : FdUse fd0 calls) {d : Int} {ok : Bool}
    (hc : Syscall.close d ok ∈ calls) : d ∈ owned fd0 calls := by
  obtain ⟨pre, post, rfl⟩ := List.append_of_mem hc
  rcases h pre _ post rfl d rfl with hh | ⟨_, hf⟩
  · rw [owned_append]; exact List.mem_append_left _ hh.1
  · simp [Syscall.onFdAsIs] at hf

/-- The object closes only descriptors it obtained, and releases none twice. -/
theorem life_closes_owned_once (hw : Built w) (ops : List Op) (a : Answers) :
    (∀ d ok, Syscall.close d ok ∈ (life ops a w).os.calls → d ∈ owned w.sock.fd (life ops a w).os.calls) ∧
      (released (life ops a w).os.calls).Nodup :=
  have h := destroy_fdUse (run_inv ops (built_inv hw)) a
  ⟨fun _ _ hc => h.close_owned hc, h.released_nodup⟩

/-- A config-only Unix object binds, then closes. -/
theorem life_closes_owned_once_bind_close :
    (∀ d ok, Syscall.close d ok ∈ (life [.bind [97] Answers.allOk, .close Answers.allOk] Answers.allOk
        ⟨configOnly .unix .stream 0 false, ⟨3, []⟩⟩).os.calls →
      d ∈ owned (-1) (life [.bind [97] Answers.allOk, .close Answers.allOk] Answers.allOk
        ⟨configOnly .unix .stream 0 false, ⟨3, []⟩⟩).os.calls) ∧
    (released (life [.bind [97] Answers.allOk, .close Answers.allOk] Answers.allOk
      ⟨configOnly .unix .stream 0 false, ⟨3, []⟩⟩).os.calls).Nodup :=
  life_closes_owned_once (.configOnly .unix .stream 0 false 3) _ _

/-! ## The leak -/

/-- Two binds on one config-only Unix object: descriptor 3 is obtained and never released. -/
theorem bind_twice_leaks_first_fd :
    ∃ calls, (life [.bind [97] Answers.allOk, .bind [98] Answers.allOk] Answers.allOk
      ⟨configOnly .unix .stream 0 false, ⟨3, []⟩⟩).os.calls = calls ∧
      owned (-1) calls = [3, 4] ∧ released calls = [4] :=
  ⟨_, rfl, rfl, rfl⟩

/-! ## No leak under the callers' contract -/

/-- `bind`, `connect` and `sendTo`: the methods that may call `create()`. -/
def Op.creates : Op → Bool
  | .bind .. | .connect .. | .sendTo .. => true
  | _ => false

/-- A contract on callers: `bind`, `connect` and `sendTo` only while the object holds no descriptor, so that the
`create()` they may call never overwrites a held one. -/
def CreatesFresh : List Op → World → Prop
  | [], _ => True
  | op :: ops, w => (op.creates = true → w.sock.fd = -1) ∧ CreatesFresh ops (step op w)

/-- Every descriptor obtained is released or is `_fd`. -/
def Accounted (fd0 : Int) (w : World) : Prop :=
  ∀ d ∈ owned fd0 w.os.calls, d ∈ released w.os.calls ∨ d = w.sock.fd

theorem neg_one_not_owned (fd0 : Int) (calls : List Syscall) : -1 ∉ owned fd0 calls := by
  intro h
  rcases List.mem_append.mp h with h | h
  · split_ifs at h with h0 <;> simp_all [eq_comm]
  · obtain ⟨c, -, hc⟩ := List.mem_filterMap.mp h
    cases c <;> simp only [Syscall.obtains, reduceCtorEq] at hc
    split_ifs at hc with hr
    exact hr (Option.some.inj hc)

theorem Accounted.issue {c : Syscall} (h : Accounted fd0 w) (hq : c.Quiet) : Accounted fd0 (w.issue c) := by
  simpa [Accounted, hq.1, hq.2] using h

theorem accounted_frame : Frame (fun w => Live fd0 w ∧ Accounted fd0 w) :=
  fun h hq hfd => ⟨h.1.issue hq hfd, h.2.issue hq⟩

theorem live_accounted_inv : ∀ w, Live fd0 w ∧ Accounted fd0 w → Inv fd0 w ∧ Accounted fd0 w :=
  fun _ h => ⟨h.1.inv, h.2⟩

/-- A built object owns at most the descriptor it was built around. -/
theorem built_accounted (hw : Built w) : Accounted w.sock.fd w := by
  rcases built_cases hw with ⟨-, hc⟩ | ⟨c, hc, -, ⟨ho, -⟩, -⟩ <;> intro d hd <;> simp_all [owned]

/-- `create()` on an object that holds no descriptor: the old descriptors were all released. -/
theorem create_accounted (hacc : Accounted fd0 w) (hfd : w.sock.fd = -1) (a : Answers) :
    Accounted fd0 (create a w).2 := by
  have hrel : ∀ d ∈ owned fd0 w.os.calls, d ∈ released w.os.calls := fun d hd =>
    (hacc d hd).resolve_right fun e => neg_one_not_owned fd0 w.os.calls (e.trans hfd ▸ hd)
  rcases create_cases a w with ⟨c, -, he⟩ | ⟨dom, ty, pr, -, he⟩ | ⟨dom, ty, pr, -, he⟩ <;> rw [he]
  · exact hacc
  · have hne : ((w.os.next : Nat) : Int) ≠ -1 := by omega
    intro d hd
    simp only [World.socketOk_os, owned_snoc, Syscall.obtains, hne, if_false, Option.toList_some,
      List.mem_append, List.mem_singleton] at hd
    rcases hd with hd | rfl
    · exact .inl (by simpa [Syscall.releases] using hrel d hd)
    · exact .inr rfl
  · exact fun d hd => .inl (by simpa [Syscall.releases] using hrel d (by simpa [Syscall.obtains] using hd))

/-- One method, called as the contract allows, keeps every descriptor accounted for. -/
theorem step_accounted (h : Inv fd0 w) (hacc : Accounted fd0 w) :
    ∀ op, (op.creates = true → w.sock.fd = -1) → Accounted fd0 (step op w)
  | .bind url a, hc | .connect url a, hc | .sendTo url _ a, hc => by
    have hfd := hc rfl
    have hcr : (Inv fd0 (create a w).2 ∧ Accounted fd0 (create a w).2) ∧
        ((create a w).1 = .ok () → Live fd0 (create a w).2 ∧ Accounted fd0 (create a w).2) :=
      ⟨⟨(create_inv h a).1, create_accounted hacc hfd a⟩,
        fun hok => ⟨(create_inv h a).2 hok, create_accounted hacc hfd a⟩⟩
    first
      | exact (bind_keeps accounted_frame (fun u h => ⟨h.1.setUrl u, h.2⟩) live_accounted_inv ⟨h, hacc⟩ hcr url).2
      | exact (connect_keeps accounted_frame live_accounted_inv ⟨h, hacc⟩ hcr url).2
      | exact (sendTo_keeps accounted_frame live_accounted_inv ⟨h, hacc⟩ hcr url _).2
  | .read len a, _ | .write len a, _ | .poll _ _ a, _ => by
    simp only [step, read, receiveFrom, write, poll]
    split_ifs <;> exact hacc.issue ⟨rfl, rfl⟩
  | .close a, _ => by
    simp only [step, close]
    split_ifs with hfd hok
    · exact hacc
    · intro d hd
      simp only [World.setFd_os, World.issue_os, Os.issue_calls, owned_snoc, Syscall.obtains, Option.toList_none,
        List.append_nil] at hd
      rcases hacc d hd with hr | rfl
      · exact .inl (by simp [hr])
      · exact .inl (by simp [Syscall.releases, hok])
    · exact hacc.issue ⟨rfl, by simp [Syscall.releases, hok]⟩

theorem run_accounted : ∀ (ops : List Op) {w : World}, Inv fd0 w → Accounted fd0 w → CreatesFresh ops w →
    Accounted fd0 (run ops w)
  | [], _, _, hacc, _ => hacc
  | op :: ops, _, h, hacc, hc => run_accounted ops (step_inv h op) (step_accounted h hacc op hc.1) hc.2

/-- Under the callers' contract, and with a destructor whose `close()` succeeds, every descriptor the object obtained
is released exactly once. -/
theorem life_releases_each_once (hw : Built w) (ops : List Op) (hc : CreatesFresh ops w) (a : Answers)
    (ha : a.close = true) : ∀ d ∈ owned w.sock.fd (life ops a w).os.calls,
      (released (life ops a w).os.calls).count d = 1 := by
  have h := run_inv ops (built_inv hw)
  have hacc := run_accounted ops (built_inv hw) (built_accounted hw) hc
  have hu := destroy_fdUse h a
  intro d hd
  refine List.count_eq_one_of_mem hu.released_nodup ?_
  revert hd
  simp only [life, destroy]
  split_ifs with hfd
  · exact fun hd => (hacc d hd).resolve_right fun e => neg_one_not_owned _ _ (e.trans hfd ▸ hd)
  · intro hd
    simp only [World.issue_os, Os.issue_calls, owned_snoc, Syscall.obtains, Option.toList_none,
      List.append_nil] at hd
    rcases hacc d hd with hr | rfl
    · simp [hr]
    · simp [Syscall.releases, ha]

/-- A config-only Unix object binds once, obtaining descriptor 3, and its destructor's `close()` succeeds. -/
theorem life_releases_each_once_bind :
    Answers.allOk.close = true ∧
      (released (life [.bind [97] Answers.allOk] Answers.allOk
        ⟨configOnly .unix .stream 0 false, ⟨3, []⟩⟩).os.calls).count 3 = 1 :=
  ⟨rfl, life_releases_each_once (.configOnly .unix .stream 0 false 3) [.bind [97] Answers.allOk]
    ⟨fun _ => rfl, trivial⟩ _ rfl 3 (by decide)⟩

end PosixSocket
end Katla
