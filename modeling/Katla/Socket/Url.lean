import Katla.Socket.Ledger

/-!
# Posix sockets: the bound url

`_url` is meant to hold the last path or interface name successfully bound: the url of the most recent `bind` whose
`::bind` succeeded (`lastBound`). The Packet/Raw branch of `bind` stores it right after `::bind` succeeds, so on a
Packet/Raw object `_url` is `lastBound` along every run (`run_url_packet`), a failed membership join included. The
Unix branch never stores it: on every other object `_url` keeps its first value along every run (`run_url_other`),
and a successful Unix `bind` leaves it empty (`unix_bind_url_empty`).
-/

namespace Katla
namespace PosixSocket

variable {a : Answers} {w : World}

/-! ## What a method call binds -/

/-- The calls one method call issued. -/
def issued (op : Op) (w : World) : List Syscall :=
  (step op w).os.calls.drop w.os.calls.length

/-- The url a method call binds: that of a `bind` whose `::bind` succeeded. -/
def boundBy : Op → World → Option Bytes
  | .bind url a, w => if (issued (.bind url a) w).any Syscall.bindOk then some url else none
  | _, _ => none

/-- The url of the most recent `bind` whose `::bind` succeeded, `u` if there was none. -/
def lastBound : List Op → World → Bytes → Bytes
  | [], _, u => u
  | op :: ops, w, u => lastBound ops (step op w) ((boundBy op w).getD u)

/-! ## One method call -/

/-- The same configuration as `w`. -/
def SameConfig (w w' : World) : Prop :=
  w'.sock.protocolDomain = w.sock.protocolDomain ∧ w'.sock.type = w.sock.type

/-- `_url` as in `w`. -/
def SameUrl (w w' : World) : Prop := w'.sock.url = w.sock.url

theorem sameConfig_frame : Frame (SameConfig w) := fun h _ _ => h

theorem sameUrl_frame : Frame (SameUrl w) := fun h _ _ => h

theorem create_same (a : Answers) (w : World) : SameConfig w (create a w).2 ∧ SameUrl w (create a w).2 := by
  rcases create_cases a w with ⟨_, _, he⟩ | ⟨_, _, _, _, he⟩ | ⟨_, _, _, _, he⟩ <;> rw [he] <;>
    exact ⟨⟨rfl, rfl⟩, rfl⟩

/-- No method changes the configuration. -/
theorem step_config (op : Op) (w : World) : SameConfig w (step op w) := by
  cases op with
  | bind url a =>
    exact bind_keeps sameConfig_frame (fun _ h => h) (fun _ h => h) ⟨rfl, rfl⟩
      ⟨(create_same a w).1, fun _ => (create_same a w).1⟩ url
  | connect url a =>
    exact connect_keeps sameConfig_frame (fun _ h => h) ⟨rfl, rfl⟩
      ⟨(create_same a w).1, fun _ => (create_same a w).1⟩ url
  | sendTo url len a =>
    exact sendTo_keeps sameConfig_frame (fun _ h => h) ⟨rfl, rfl⟩
      ⟨(create_same a w).1, fun _ => (create_same a w).1⟩ url len
  | read | write | poll | close =>
    simp only [step, read, receiveFrom, write, poll, close]
    split_ifs <;> exact ⟨rfl, rfl⟩

/-- `connect`, `sendTo`, `read`, `write`, `poll` and `close` leave `_url` alone. -/
theorem step_url_of_not_bind {op : Op} (hop : ∀ url a, op ≠ .bind url a) : SameUrl w (step op w) := by
  cases op with
  | bind url a => exact absurd rfl (hop url a)
  | connect url a =>
    exact connect_keeps sameUrl_frame (fun _ h => h) rfl ⟨(create_same a w).2, fun _ => (create_same a w).2⟩ url
  | sendTo url len a =>
    exact sendTo_keeps sameUrl_frame (fun _ h => h) rfl ⟨(create_same a w).2, fun _ => (create_same a w).2⟩ url len
  | read | write | poll | close =>
    simp only [step, read, receiveFrom, write, poll, close]
    split_ifs <;> rfl

/-- On a Packet/Raw object, `bind` stores `url` exactly when its `::bind` succeeded. -/
theorem bind_url_packet (hp : w.sock.protocolDomain = .packet ∧ w.sock.type = .raw) (url : Bytes) (a : Answers) :
    (bind url a w).2.sock.url =
      if ((bind url a w).2.os.calls.drop w.os.calls.length).any Syscall.bindOk then url else w.sock.url := by
  obtain ⟨r, w', hb⟩ : ∃ r w', bind url a w = (r, w') := ⟨_, _, rfl⟩
  rw [hb]
  rcases create_cases a w with ⟨c', -, he⟩ | ⟨dom, ty, pr, -, he⟩ | ⟨dom, ty, pr, -, he⟩ <;>
    simp only [bind, hp, and_self, if_true, he, andThen_error, andThen_ok] at hb <;> (try split_ifs at hb) <;>
    obtain ⟨-, rfl⟩ := Prod.mk.inj hb <;> simp [Syscall.bindOk, *]

/-- On any other object, `bind` leaves `_url` alone. -/
theorem bind_url_other (hp : ¬(w.sock.protocolDomain = .packet ∧ w.sock.type = .raw)) (url : Bytes)
    (a : Answers) : (bind url a w).2.sock.url = w.sock.url := by
  obtain ⟨r, w', hb⟩ : ∃ r w', bind url a w = (r, w') := ⟨_, _, rfl⟩
  rw [hb]
  rcases create_cases a w with ⟨c', -, he⟩ | ⟨dom, ty, pr, -, he⟩ | ⟨dom, ty, pr, -, he⟩ <;>
    simp only [bind, hp, if_false, he, andThen_error, andThen_ok] at hb <;> (try split_ifs at hb) <;>
    obtain ⟨-, rfl⟩ := Prod.mk.inj hb <;> rfl

/-- On a Packet/Raw object, one method call stores exactly the url it binds. -/
theorem step_url_packet (hp : w.sock.protocolDomain = .packet ∧ w.sock.type = .raw) (op : Op) :
    (step op w).sock.url = (boundBy op w).getD w.sock.url := by
  cases op with
  | bind url a =>
    simp only [boundBy, issued, step]
    rw [bind_url_packet hp]
    split_ifs <;> rfl
  | _ => exact step_url_of_not_bind fun _ _ => by simp

/-- On any other object, no method call changes `_url`. -/
theorem step_url_other (hp : ¬(w.sock.protocolDomain = .packet ∧ w.sock.type = .raw)) (op : Op) :
    (step op w).sock.url = w.sock.url := by
  cases op with
  | bind url a => exact bind_url_other hp url a
  | _ => exact step_url_of_not_bind fun _ _ => by simp

/-! ## Runs -/

/-- On a Packet/Raw object, `_url` is the url of the most recent `bind` whose `::bind` succeeded. -/
theorem run_url_packet : ∀ (ops : List Op) (w : World), w.sock.protocolDomain = .packet ∧ w.sock.type = .raw →
    (run ops w).sock.url = lastBound ops w w.sock.url
  | [], _, _ => rfl
  | op :: ops, w, hp => by
    have hp' : (step op w).sock.protocolDomain = .packet ∧ (step op w).sock.type = .raw :=
      ⟨(step_config op w).1.trans hp.1, (step_config op w).2.trans hp.2⟩
    rw [run, lastBound, run_url_packet ops _ hp', step_url_packet hp op]

/-- A Packet/Raw object binds to an interface. -/
theorem run_url_packet_bind :
    (run [.bind [101, 116, 104, 48] Answers.allOk] ⟨configOnly .packet .raw 0 false, ⟨3, []⟩⟩).sock.url =
      lastBound [.bind [101, 116, 104, 48] Answers.allOk] ⟨configOnly .packet .raw 0 false, ⟨3, []⟩⟩ [] :=
  run_url_packet _ _ ⟨rfl, rfl⟩

/-- On any other object, `_url` never changes. -/
theorem run_url_other : ∀ (ops : List Op) (w : World), ¬(w.sock.protocolDomain = .packet ∧ w.sock.type = .raw) →
    (run ops w).sock.url = w.sock.url
  | [], _, _ => rfl
  | op :: ops, w, hp => by
    have hp' : ¬((step op w).sock.protocolDomain = .packet ∧ (step op w).sock.type = .raw) := fun h =>
      hp ⟨(step_config op w).1.symm.trans h.1, (step_config op w).2.symm.trans h.2⟩
    rw [run, run_url_other ops _ hp', step_url_other hp op]

/-- A Unix object binds: `_url` stays empty. -/
theorem run_url_other_unix_bind :
    (run [.bind [97] Answers.allOk] ⟨configOnly .unix .stream 0 false, ⟨3, []⟩⟩).sock.url = [] :=
  run_url_other _ _ fun h => nomatch h.1

/-- A Unix `bind` of `"a"` whose `::bind` succeeds: `_url` stays empty. -/
theorem unix_bind_url_empty :
    (run [.bind [97] Answers.allOk] ⟨configOnly .unix .stream 0 false, ⟨3, []⟩⟩).sock.url = [] ∧
      lastBound [.bind [97] Answers.allOk] ⟨configOnly .unix .stream 0 false, ⟨3, []⟩⟩ [] = [97] :=
  ⟨rfl, rfl⟩

end PosixSocket
end Katla
