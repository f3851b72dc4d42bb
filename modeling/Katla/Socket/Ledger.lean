import Mathlib.Data.List.Nodup
import Katla.Socket.Ops

/-!
# Posix sockets: runs and the descriptor ledger

A run is a list of method calls (`Op`), each with the OS's answers, from an object built config-only or as one end of
`createUnnamedPair` (`Built`); its life ends with `~PosixSocket` (`life`). The trace tells which descriptors the
object obtained (`owned`: the one it was built around, then each successful `socket()`) and which it released
(`released`: each successful `close()`). `FdOk` says that a call that takes a descriptor takes one the object holds,
with one exception: `recvfrom`, `write` and `poll` take `_fd` as it is, which may be `-1`. The methods that issue
them, `read`, `write` and `poll`, create nothing: the world after one is the world before with that one call issued
(`step_asIs`).

The invariant `Inv` (the trace is `FdUse`, `_fd` is `-1` or held, the next fresh descriptor is above every owned one)
holds after every method (`step_inv`) and of every built object (`built_inv`), hence along every run (`run_inv`); the
destructor's last `close()` keeps `FdUse` (`destroy_fdUse`).
-/

namespace Katla
namespace PosixSocket

/-! ## Runs -/

/-- A method call with the OS's answers to it. -/
inductive Op where
  | bind (url : Bytes) (a : Answers)
  | connect (url : Bytes) (a : Answers)
  | sendTo (url : Bytes) (len : Nat) (a : Answers)
  | read (len : Nat) (a : Answers)
  | write (len : Nat) (a : Answers)
  | poll (timeout : Int) (writePending : Bool) (a : Answers)
  | close (a : Answers)
  deriving DecidableEq, Repr

/-- The world after one method call. -/
def step : Op → World → World
  | .bind url a, w => (bind url a w).2
  | .connect url a, w => (connect url a w).2
  | .sendTo url len a, w => (sendTo url len a w).2
  | .read len a, w => (read len a w).2
  | .write len a, w => (write len a w).2
  | .poll timeout writePending a, w => (poll timeout writePending a w).2
  | .close a, w => (close a w).2

/-- The world after a list of method calls. -/
def run : List Op → World → World
  | [], w => w
  | op :: ops, w => run ops (step op w)

/-- The calls, then `~PosixSocket`. -/
def life (ops : List Op) (a : Answers) (w : World) : World :=
  destroy a (run ops w)

/-- `read`, `write` and `poll`: the methods that take `_fd` as it is. -/
def Op.onFdAsIs : Op → Bool
  | .read .. | .write .. | .poll .. => true
  | _ => false

/-- `read`, `write` and `poll` create no descriptor: each leaves the object as it was and issues exactly one call,
`recvfrom`, `write` or `poll`, on `_fd` as it is. -/
theorem step_asIs {op : Op} (hop : op.onFdAsIs = true) (w : World) :
    ∃ c, step op w = w.issue c ∧ c.fd? = some w.sock.fd ∧ c.onFdAsIs = true := by
  cases op with
  | read len a => exact ⟨_, by simp only [step, read, receiveFrom, apply_ite Prod.snd, ite_self]; rfl, by rfl, by rfl⟩
  | write len a => exact ⟨_, by simp only [step, write, apply_ite Prod.snd, ite_self]; rfl, by rfl, by rfl⟩
  | poll timeout writePending a =>
    exact ⟨_, by simp only [step, poll, apply_ite Prod.snd, ite_self]; rfl, by rfl, by rfl⟩
  | _ => cases hop

/-- How an object comes to be, on an OS whose trace starts empty: config-only, or one end of `createUnnamedPair`. -/
inductive Built : World → Prop
  | configOnly (protocolDomain : ProtocolDomain) (type : SocketType) (frameType : UInt16) (nonBlocking : Bool)
      (next : Nat) : Built ⟨configOnly protocolDomain type frameType nonBlocking, ⟨next, []⟩⟩
  | pairFst {protocolDomain : ProtocolDomain} {type : SocketType} {frameType : UInt16} {nonBlocking : Bool}
      {a : Answers} {next : Nat} {s₁ s₂ : PosixSocket} {os : Os} :
      createUnnamedPair protocolDomain type frameType nonBlocking a ⟨next, []⟩ = (.ok (s₁, s₂), os) → Built ⟨s₁, os⟩
  | pairSnd {protocolDomain : ProtocolDomain} {type : SocketType} {frameType : UInt16} {nonBlocking : Bool}
      {a : Answers} {next : Nat} {s₁ s₂ : PosixSocket} {os : Os} :
      createUnnamedPair protocolDomain type frameType nonBlocking a ⟨next, []⟩ = (.ok (s₁, s₂), os) → Built ⟨s₂, os⟩

/-! ## The ledger -/

/-- The descriptors the object obtained: the one it was built around (`fd0`, unless `-1`), then every successful
`socket()`. -/
def owned (fd0 : Int) (calls : List Syscall) : List Int :=
  (if fd0 = -1 then [] else [fd0]) ++ calls.filterMap Syscall.obtains

/-- The descriptors released, one entry per successful `close()`. -/
def released (calls : List Syscall) : List Int :=
  calls.filterMap Syscall.releases

/-- `d` is obtained and not yet released. -/
def Held (fd0 : Int) (calls : List Syscall) (d : Int) : Prop :=
  d ∈ owned fd0 calls ∧ d ∉ released calls

@[simp] theorem owned_snoc (fd0 : Int) (calls : List Syscall) (c : Syscall) :
    owned fd0 (calls ++ [c]) = owned fd0 calls ++ c.obtains.toList := by
  cases h : c.obtains <;> simp [owned, h]

@[simp] theorem released_snoc (calls : List Syscall) (c : Syscall) :
    released (calls ++ [c]) = released calls ++ c.releases.toList := by
  cases h : c.releases <;> simp [released, h]

theorem owned_append (fd0 : Int) (pre post : List Syscall) :
    owned fd0 (pre ++ post) = owned fd0 pre ++ post.filterMap Syscall.obtains := by
  simp [owned]

theorem held_snoc_quiet {fd0 : Int} {calls : List Syscall} {c : Syscall} (hq : c.Quiet) (d : Int) :
    Held fd0 (calls ++ [c]) d ↔ Held fd0 calls d := by
  simp [Held, hq.1, hq.2]

/-! ## Descriptor use along a trace -/

/-- A call that takes a descriptor takes one the object holds; only `recvfrom`, `write` and `poll` may take `-1`. -/
def FdOk (fd0 : Int) (calls : List Syscall) (c : Syscall) : Prop :=
  ∀ d, c.fd? = some d → Held fd0 calls d ∨ (d = -1 ∧ c.onFdAsIs = true)

/-- Every call of the trace is `FdOk` for the calls before it. -/
def FdUse (fd0 : Int) (calls : List Syscall) : Prop :=
  ∀ pre c post, calls = pre ++ c :: post → FdOk fd0 pre c

theorem fdUse_nil (fd0 : Int) : FdUse fd0 [] := by
  intro pre c post h
  simp at h

theorem fdUse_snoc {fd0 : Int} {calls : List Syscall} {c : Syscall} :
    FdUse fd0 (calls ++ [c]) ↔ FdUse fd0 calls ∧ FdOk fd0 calls c := by
  constructor
  · intro h
    exact ⟨fun pre c' post e => h pre c' (post ++ [c]) (by simp [e]), h calls c [] rfl⟩
  · rintro ⟨h, hc⟩ pre c' post e
    rcases List.eq_nil_or_concat post with rfl | ⟨post', x, rfl⟩
    · obtain ⟨rfl, h2⟩ := List.append_inj' e rfl
      obtain rfl : c = c' := by simpa using h2
      exact hc
    · rw [List.concat_eq_append, ← List.cons_append, ← List.append_assoc] at e
      exact h pre c' post' (List.append_inj' e rfl).1

/-- Only a held descriptor is ever released. -/
theorem FdUse.mem_owned_of_released {fd0 : Int} {calls : List Syscall} (h : FdUse fd0 calls) {d : Int}
    (hd : d ∈ released calls) : d ∈ owned fd0 calls := by
  obtain ⟨c, hc, hr⟩ := List.mem_filterMap.mp hd
  obtain ⟨pre, post, rfl⟩ := List.append_of_mem hc
  obtain rfl := Syscall.releases_eq_some.mp hr
  rcases h pre _ post rfl d rfl with hh | ⟨_, hf⟩
  · rw [owned_append]; exact List.mem_append_left _ hh.1
  · simp [Syscall.onFdAsIs] at hf

/-- No descriptor is released twice. -/
theorem FdUse.released_nodup {fd0 : Int} {calls : List Syscall} (h : FdUse fd0 calls) : (released calls).Nodup := by
  induction calls using List.reverseRecOn with
  | nil => simp [released]
  | append_singleton calls c ih =>
    obtain ⟨hu, hc⟩ := fdUse_snoc.mp h
    rw [released_snoc]
    cases hr : c.releases with
    | none => simpa using ih hu
    | some d =>
      obtain rfl := Syscall.releases_eq_some.mp hr
      rcases hc d rfl with hh | ⟨_, hf⟩
      · simpa [List.nodup_append] using ⟨ih hu, hh.2⟩
      · simp [Syscall.onFdAsIs] at hf

/-! ## The invariant -/

/-- What every reachable world satisfies, for an object built around `fd0`. -/
structure Inv (fd0 : Int) (w : World) : Prop where
  use : FdUse fd0 w.os.calls
  fd : w.sock.fd = -1 ∨ Held fd0 w.os.calls w.sock.fd
  fresh : ∀ d ∈ owned fd0 w.os.calls, d < w.os.next

/-- `c` takes no descriptor, or `_fd`. -/
def FdOn (c : Syscall) (w : World) : Prop := ∀ d, c.fd? = some d → d = w.sock.fd

/-- Inside a method, once `create()` has succeeded: the invariant, and `_fd` held. -/
def Live (fd0 : Int) (w : World) : Prop := Inv fd0 w ∧ Held fd0 w.os.calls w.sock.fd

variable {fd0 : Int} {w : World} {c : Syscall}

theorem Inv.issue (h : Inv fd0 w) (hq : c.Quiet) (hc : FdOk fd0 w.os.calls c) : Inv fd0 (w.issue c) where
  use := fdUse_snoc.2 ⟨h.use, hc⟩
  fd := h.fd.imp_right (held_snoc_quiet hq _).2
  fresh d hd := h.fresh d (by simpa [hq.1] using hd)

/-- `recvfrom`, `write` and `poll` on `_fd` as it is. -/
theorem Inv.issue_asIs (h : Inv fd0 w) (hfd : c.fd? = some w.sock.fd) (has : c.onFdAsIs = true) :
    Inv fd0 (w.issue c) :=
  h.issue (by cases c <;> first | exact ⟨rfl, rfl⟩ | cases has) fun d hd => by
    obtain rfl := Option.some.inj (hfd.symm.trans hd)
    exact h.fd.symm.imp_right fun e => ⟨e, has⟩

theorem Live.inv (h : Live fd0 w) : Inv fd0 w := h.1

theorem Live.issue (h : Live fd0 w) (hq : c.Quiet) (hfd : FdOn c w) : Live fd0 (w.issue c) :=
  ⟨h.1.issue hq fun d hd => .inl (hfd d hd ▸ h.2), (held_snoc_quiet hq _).2 h.2⟩

theorem Live.setUrl (u : Bytes) (h : Live fd0 w) : Live fd0 (w.setUrl u) :=
  ⟨⟨h.1.use, h.1.fd, h.1.fresh⟩, h.2⟩

/-- A fresh descriptor is not owned yet, so not released either. -/
theorem Inv.next_not_released (h : Inv fd0 w) : (w.os.next : Int) ∉ released w.os.calls := fun hr =>
  lt_irrefl _ (h.fresh _ (h.use.mem_owned_of_released hr))

/-! ## Each method keeps the invariant -/

/-- What `create()` can do: fail a mapping with no call, or issue `socket()`, which hands out the fresh descriptor or
fails, leaving `-1` in `_fd`. -/
theorem create_cases (a : Answers) (w : World) :
    (∃ c, (c = .invalidDomain ∨ c = .invalidType) ∧ create a w = (.error (.posix c), w)) ∨
    (∃ dom ty pr, a.socket = true ∧ create a w = (.ok (), w.socketOk dom ty pr)) ∨
    (∃ dom ty pr, a.socket = false ∧
      create a w = (.error (.errc a.errno), (w.setFd (-1)).issue (.socket dom ty pr (-1)))) := by
  by_cases h1 : mapProtocolDomain w.sock.protocolDomain = -1
  · exact .inl ⟨_, .inl rfl, by simp [create, h1]⟩
  by_cases h2 : mapType w.sock.type = -1
  · exact .inl ⟨_, .inr rfl, by simp [create, h1, h2]⟩
  cases hs : a.socket
  · exact .inr (.inr ⟨_, _, _, rfl, by simp [create, h1, h2, hs]; rfl⟩)
  · exact .inr (.inl ⟨_, _, _, rfl, by simp [create, h1, h2, hs]; rfl⟩)

/-- What `createUnnamedPair` can do: fail a mapping with no call, fail at `socketpair()`, or give the two ends of one
`socketpair()`, the next two descriptors. -/
theorem createUnnamedPair_cases (protocolDomain : ProtocolDomain) (type : SocketType) (frameType : UInt16)
    (nonBlocking : Bool) (a : Answers) (os : Os) :
    (∃ c, (c = .invalidDomain ∨ c = .invalidType) ∧
      createUnnamedPair protocolDomain type frameType nonBlocking a os = (.error (.posix c), os)) ∨
    (∃ dom ty, createUnnamedPair protocolDomain type frameType nonBlocking a os =
      (.error (.errc a.errno), os.issue (.socketpair dom ty none))) ∨
    (∃ dom ty, createUnnamedPair protocolDomain type frameType nonBlocking a os =
      (.ok (ofFd protocolDomain type frameType nonBlocking os.next,
          ofFd protocolDomain type frameType nonBlocking (os.next + 1)),
        ⟨os.next + 2, os.calls ++ [.socketpair dom ty (some (os.next, os.next + 1))]⟩)) := by
  by_cases h1 : mapProtocolDomain protocolDomain = -1
  · exact .inl ⟨_, .inl rfl, by simp [createUnnamedPair, h1]⟩
  by_cases h2 : mapType type = -1
  · exact .inl ⟨_, .inr rfl, by simp [createUnnamedPair, h1, h2]⟩
  cases hs : a.socket
  · exact .inr (.inl ⟨_, _, by simp [createUnnamedPair, h1, h2, hs]; rfl⟩)
  · exact .inr (.inr ⟨_, _, by simp [createUnnamedPair, h1, h2, hs]; exact ⟨rfl, rfl⟩⟩)

theorem create_inv (h : Inv fd0 w) (a : Answers) :
    Inv fd0 (create a w).2 ∧ ((create a w).1 = .ok () → Live fd0 (create a w).2) := by
  rcases create_cases a w with ⟨c, -, he⟩ | ⟨dom, ty, pr, -, he⟩ | ⟨dom, ty, pr, -, he⟩ <;> rw [he]
  · exact ⟨h, by simp⟩
  · have hne : ((w.os.next : Nat) : Int) ≠ -1 := by omega
    have hinv : Inv fd0 (w.socketOk dom ty pr) :=
      { use := fdUse_snoc.2 ⟨h.use, fun d hd => by simp [Syscall.fd?] at hd⟩
        fd := .inr ⟨by simp [Syscall.obtains, hne], by simpa [Syscall.releases] using h.next_not_released⟩
        fresh := fun d hd => by
          simp only [World.socketOk_os, owned_snoc, Syscall.obtains, hne, if_false, Option.toList_some,
            List.mem_append, List.mem_singleton] at hd ⊢
          rcases hd with hd | rfl
          · have := h.fresh d hd; push_cast; omega
          · push_cast; omega }
    exact ⟨hinv, fun _ => ⟨hinv, hinv.fd.resolve_left hne⟩⟩
  · refine ⟨Inv.issue ⟨h.use, .inl rfl, h.fresh⟩ ⟨by simp [Syscall.obtains], rfl⟩ fun d hd => ?_, by simp⟩
    simp [Syscall.fd?] at hd

/-! ## What a method does after `create()` -/

/-- A property kept by the calls `bind`, `connect` and `sendTo` issue after `create()`: calls that neither obtain
nor release and take no descriptor or `_fd`. -/
def Frame (Q : World → Prop) : Prop :=
  ∀ {w c}, Q w → c.Quiet → FdOn c w → Q (w.issue c)

section Methods

variable {P Q : World → Prop} {a : Answers}

theorem andThen_keeps {α : Type} {r : Except PosixError Unit × World} {k : World → Except PosixError α × World}
    (hr : P r.2 ∧ (r.1 = .ok () → Q r.2)) (hk : ∀ w, Q w → P (k w).2) : P (andThen r k).2 := by
  obtain ⟨e | ⟨⟩, w⟩ := r
  · exact hr.1
  · exact hk w (hr.2 rfl)

/-- `bind` keeps what `create()` establishes: `P` on every exit, `Q` after a successful `create()`. -/
theorem bind_keeps (hQ : Frame Q) (hU : ∀ {w} u, Q w → Q (w.setUrl u)) (hQP : ∀ w, Q w → P w) (hP : P w)
    (hc : P (create a w).2 ∧ ((create a w).1 = .ok () → Q (create a w).2)) (url : Bytes) : P (bind url a w).2 := by
  unfold bind
  split_ifs <;> first
    | exact hP
    | refine andThen_keeps hc fun w hw => hQP _ ?_
      dsimp only
      repeat first
        | exact hw
        | refine hQ ?_ ⟨rfl, rfl⟩ fun _ hd => by cases hd <;> rfl
        | refine hU _ ?_

theorem connect_keeps (hQ : Frame Q) (hQP : ∀ w, Q w → P w) (hP : P w)
    (hc : P (create a w).2 ∧ ((create a w).1 = .ok () → Q (create a w).2)) (url : Bytes) :
    P (connect url a w).2 := by
  unfold connect
  split_ifs <;> first
    | exact hP
    | refine andThen_keeps hc fun w hw => hQP _ ?_
      dsimp only
      repeat first
        | exact hw
        | refine hQ ?_ ⟨rfl, rfl⟩ fun _ hd => by cases hd; rfl

theorem sendTo_keeps (hQ : Frame Q) (hQP : ∀ w, Q w → P w) (hP : P w)
    (hc : P (create a w).2 ∧ ((create a w).1 = .ok () → Q (create a w).2)) (url : Bytes) (len : Nat) :
    P (sendTo url len a w).2 := by
  unfold sendTo
  split_ifs <;> first
    | exact hP
    | refine andThen_keeps hc fun w hw => hQP _ ?_
      dsimp only
      repeat first
        | exact hw
        | refine hQ ?_ ⟨rfl, rfl⟩ fun _ hd => by cases hd <;> rfl

end Methods

theorem live_frame : Frame (Live fd0) := Live.issue

theorem bind_inv (h : Inv fd0 w) (url : Bytes) (a : Answers) : Inv fd0 (bind url a w).2 :=
  bind_keeps live_frame Live.setUrl (fun _ h => h.inv) h (create_inv h a) url

theorem connect_inv (h : Inv fd0 w) (url : Bytes) (a : Answers) : Inv fd0 (connect url a w).2 :=
  connect_keeps live_frame (fun _ h => h.inv) h (create_inv h a) url

theorem sendTo_inv (h : Inv fd0 w) (url : Bytes) (len : Nat) (a : Answers) : Inv fd0 (sendTo url len a w).2 :=
  sendTo_keeps live_frame (fun _ h => h.inv) h (create_inv h a) url len

/-- `read`, `write` and `poll` keep the invariant: their one call takes `_fd`, held or `-1`. -/
theorem Inv.step_onFdAsIs (h : Inv fd0 w) {op : Op} (hop : op.onFdAsIs = true) : Inv fd0 (step op w) := by
  obtain ⟨c, he, hfd, has⟩ := step_asIs hop w
  exact he ▸ h.issue_asIs hfd has

/-- `close()` releases the held `_fd` and clears it, or fails and keeps it. -/
theorem close_inv (h : Inv fd0 w) (a : Answers) : Inv fd0 (close a w).2 := by
  unfold close
  split_ifs with hfd hc
  · exact h
  · have hok : FdOk fd0 w.os.calls (.close w.sock.fd a.close) := fun d hd =>
      .inl (Option.some.inj hd ▸ h.fd.resolve_left hfd)
    exact ⟨fdUse_snoc.2 ⟨h.use, hok⟩, .inl rfl, fun d hd => h.fresh d (by simpa [Syscall.obtains] using hd)⟩
  · have hok : FdOk fd0 w.os.calls (.close w.sock.fd a.close) := fun d hd =>
      .inl (Option.some.inj hd ▸ h.fd.resolve_left hfd)
    exact h.issue ⟨rfl, by simp [Syscall.releases, hc]⟩ hok

theorem step_inv (h : Inv fd0 w) : ∀ op, Inv fd0 (step op w)
  | .bind url a => bind_inv h url a
  | .connect url a => connect_inv h url a
  | .sendTo url len a => sendTo_inv h url len a
  | .read .. | .write .. | .poll .. => h.step_onFdAsIs rfl
  | .close a => close_inv h a

theorem run_inv : ∀ (ops : List Op) {w : World}, Inv fd0 w → Inv fd0 (run ops w)
  | [], _, h => h
  | op :: ops, _, h => run_inv ops (step_inv h op)

/-- `~PosixSocket` closes a held `_fd`; what it leaves is a trace, not a world that can go on. -/
theorem destroy_fdUse (h : Inv fd0 w) (a : Answers) : FdUse fd0 (destroy a w).os.calls := by
  unfold destroy
  split_ifs with hfd
  · exact h.use
  · exact fdUse_snoc.2 ⟨h.use, fun d hd => .inl (Option.some.inj hd ▸ h.fd.resolve_left hfd)⟩

/-- A built object holds no descriptor and has made no call, or holds the descriptor `socketpair()` gave it, below
the next fresh one, after that one call. -/
theorem built_cases {w : World} (hw : Built w) :
    (w.sock.fd = -1 ∧ w.os.calls = []) ∨
      ∃ c, w.os.calls = [c] ∧ c.fd? = none ∧ c.Quiet ∧ 0 ≤ w.sock.fd ∧ w.sock.fd < w.os.next := by
  cases hw with
  | configOnly => exact .inl ⟨rfl, rfl⟩
  | pairFst h | pairSnd h =>
    rcases createUnnamedPair_cases _ _ _ _ _ _ with ⟨_, -, he⟩ | ⟨_, _, he⟩ | ⟨_, _, he⟩ <;> rw [he] at h <;>
      simp only [Prod.mk.injEq, reduceCtorEq, false_and, Except.ok.injEq] at h
    all_goals
      obtain ⟨⟨rfl, rfl⟩, rfl⟩ := h
      exact .inr ⟨_, rfl, rfl, ⟨rfl, rfl⟩, by simp only [ofFd]; omega, by simp only [ofFd]; omega⟩

/-- Every way of building an object starts in the invariant, for the descriptor it was built around. -/
theorem built_inv {w : World} (hw : Built w) : Inv w.sock.fd w := by
  rcases built_cases hw with ⟨hfd, hc⟩ | ⟨c, hc, hfd, hq, h0, hn⟩
  · exact ⟨hc ▸ fdUse_nil _, .inl hfd, by simp [owned, hc, hfd]⟩
  · have hne : w.sock.fd ≠ -1 := by omega
    have hu : FdUse w.sock.fd ([] ++ [c]) := fdUse_snoc.2 ⟨fdUse_nil _, fun d hd => by simp [hfd] at hd⟩
    refine ⟨hc ▸ hu, .inr ⟨?_, ?_⟩, ?_⟩ <;> simp [owned, released, hc, hne, hq.1, hq.2, hn]

end PosixSocket
end Katla
