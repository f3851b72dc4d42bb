import Mathlib.Logic.Function.Basic
import Katla.Lws.Callback

/-!
# libwebsockets callbacks: runs and lifecycles

- `deliver` hands callbacks one at a time to a step, up to the first fault (`deliver_append`); `run` hands them to
  `callbackWebsocketServer`, and `serve` starts it with `LWS_CALLBACK_PROTOCOL_INIT` on a fresh server.
- `Phase.next` is the lifecycle of one connection as lws drives it; `track` follows every connection of an
  interleaving through its own (`track_append`), and `respects` checks that each follows it. `solo` checks that
  connections come one at a time.
- When `PROTOCOL_INIT` fails to allocate the vhd, only `HTTP`'s handler checks for it: a run makes no call until the
  first callback of another kind, which dereferences the null vhd (`run_without_vhd`).
-/

namespace Katla
namespace Lws

variable {lwsPre : Nat} {s s' : Server}

/-! ## Runs -/

/-- lws delivering callbacks one at a time to `step`: the state after the last one, or the first fault. -/
def deliver {σ : Type} (step : Callback → σ → Except Fault (Int × σ)) : List Callback → σ → Except Fault σ
  | [], s => .ok s
  | cb :: cbs, s =>
    match step cb s with
    | .ok (_, s) => deliver step cbs s
    | .error f => .error f

/-- Callbacks delivered to `callbackWebsocketServer`. -/
def run (lwsPre : Nat) (cbs : List Callback) (s : Server) : Except Fault Server :=
  deliver (callbackWebsocketServer lwsPre) cbs s

/-- `LWS_CALLBACK_PROTOCOL_INIT` on a fresh server, then the callbacks of the connections. -/
def serve (lwsPre : Nat) (cbs : List Callback) : Except Fault Server :=
  run lwsPre (⟨0, .protocolInit true⟩ :: cbs) Server.init

section
variable {σ : Type} {step : Callback → σ → Except Fault (Int × σ)} {x y : σ} {cb : Callback} {cbs : List Callback}

theorem deliver_cons_ok {r : Int} (h : step cb x = .ok (r, y)) :
    deliver step (cb :: cbs) x = deliver step cbs y := by
  simp only [deliver, h]

theorem deliver_cons_error {f : Fault} (h : step cb x = .error f) : deliver step (cb :: cbs) x = .error f := by
  simp only [deliver, h]

/-- A delivery in two parts. -/
theorem deliver_append (cbs cbs' : List Callback) (x : σ) :
    deliver step (cbs ++ cbs') x = (deliver step cbs x).bind (deliver step cbs') := by
  induction cbs generalizing x with
  | nil => rfl
  | cons cb cbs ih =>
    rcases h : step cb x with f | ⟨r, y⟩
    · simp only [List.cons_append, deliver_cons_error h]; rfl
    · simp only [List.cons_append, deliver_cons_ok h, ih]

end

theorem run_cons_ok {cb : Callback} {cbs : List Callback} {r : Int}
    (h : callbackWebsocketServer lwsPre cb s = .ok (r, s')) : run lwsPre (cb :: cbs) s = run lwsPre cbs s' :=
  deliver_cons_ok h

theorem run_append (cbs cbs' : List Callback) (s : Server) :
    run lwsPre (cbs ++ cbs') s = (run lwsPre cbs s).bind (run lwsPre cbs') :=
  deliver_append cbs cbs' s

/-- `PROTOCOL_INIT` allocates a zeroed vhd. -/
theorem serve_eq (cbs : List Callback) : serve lwsPre cbs = run lwsPre cbs ⟨some ⟨none, none⟩, 0, []⟩ :=
  run_cons_ok rfl

/-! ## Lifecycles -/

/-- Where one connection is in its lifecycle: not opened yet, an open websocket, an HTTP transaction before its
body, inside its body, after it (request complete or response under way), or closed. -/
inductive Phase
  | idle | ws | http | body | done | closed
  deriving DecidableEq, Repr

/-- The callbacks lws delivers to a connection in each phase, and the phase after each. A websocket is
`ESTABLISHED`, receives and becomes writeable, and is `CLOSED`. An HTTP connection runs one transaction after
another on keep-alive (`HTTP`, body chunks, their completion, writeable) and is `CLOSED_HTTP` at any point of one.
The reasons the callback only logs come at any time. -/
def Phase.next : Phase → Reason → Option Phase
  | .idle, .established => some .ws
  | .ws, .receive .. => some .ws
  | .ws, .serverWriteable _ => some .ws
  | .ws, .closed => some .closed
  | .idle, .http _ => some .http
  | .done, .http _ => some .http
  | .http, .httpBody _ => some .body
  | .body, .httpBody _ => some .body
  | .http, .httpBodyCompletion => some .done
  | .body, .httpBodyCompletion => some .done
  | .http, .httpWriteable _ => some .done
  | .done, .httpWriteable _ => some .done
  | .http, .closedHttp => some .closed
  | .body, .closedHttp => some .closed
  | .done, .closedHttp => some .closed
  | p, .other _ => some p
  | _, _ => none

/-- The phases after `cbs`, from the phases `phase`, when every connection's callbacks follow its lifecycle. -/
def track (phase : Wsi → Phase) : List Callback → Option (Wsi → Phase)
  | [] => some phase
  | cb :: cbs => ((phase cb.wsi).next cb.reason).bind fun p => track (Function.update phase cb.wsi p) cbs

/-- Every connection's callbacks in `cbs` follow its lifecycle, from the phases `phase`. -/
def respects (phase : Wsi → Phase) (cbs : List Callback) : Bool :=
  (track phase cbs).isSome

/-- The phases after an interleaving in two parts. -/
theorem track_append (phase : Wsi → Phase) (cbs cbs' : List Callback) :
    track phase (cbs ++ cbs') = (track phase cbs).bind fun phase' => track phase' cbs' := by
  induction cbs generalizing phase with
  | nil => rfl
  | cons cb cbs ih => simp only [List.cons_append, track, List.append_eq, ih, Option.bind_assoc]

/-- An interleaving's first callback follows its connection's lifecycle, and so does the rest. -/
theorem respects_cons {phase : Wsi → Phase} {cb : Callback} {cbs : List Callback} :
    respects phase (cb :: cbs) = true ↔
      ∃ p, (phase cb.wsi).next cb.reason = some p ∧ respects (Function.update phase cb.wsi p) cbs = true := by
  simp only [respects, track, Option.isSome_iff_exists, Option.bind_eq_some]
  exact ⟨fun ⟨ph, p, hp, ht⟩ => ⟨p, hp, ph, ht⟩, fun ⟨p, hp, ph, ht⟩ => ⟨ph, p, hp, ht⟩⟩

/-- A callback after a prefix of an interleaving that respects the lifecycles: its connection's phase after the
prefix has a next phase. -/
theorem track_snoc {phase : Wsi → Phase} {pre : List Callback} {cb : Callback}
    (h : respects phase (pre ++ [cb]) = true) :
    ∃ ph p, track phase pre = some ph ∧ (ph cb.wsi).next cb.reason = some p := by
  obtain ⟨ph', h'⟩ := Option.isSome_iff_exists.mp h
  rw [track_append] at h'
  obtain ⟨ph, hph, h2⟩ := Option.bind_eq_some.mp h'
  obtain ⟨p, hp, -⟩ := Option.bind_eq_some.mp h2
  exact ⟨ph, p, hph, hp⟩

/-- A connection between `ESTABLISHED` or `HTTP` and its close. -/
def Phase.isOpen : Phase → Bool
  | .ws | .http | .body | .done => true
  | .idle | .closed => false

/-- `CLOSED` and `CLOSED_HTTP`. -/
def Reason.closes : Reason → Bool
  | .closed | .closedHttp => true
  | _ => false

/-- The reasons the callback only logs. -/
def Reason.logsOnly : Reason → Bool
  | .other _ => true
  | _ => false

/-- A callback that only logs returns 0 and changes nothing. -/
theorem callback_logsOnly {lwsPre : Nat} {cb : Callback} (s : Server) (h : cb.reason.logsOnly = true) :
    callbackWebsocketServer lwsPre cb s = .ok (0, s) := by
  obtain ⟨w, r⟩ := cb
  cases r <;> first | rfl | cases h

theorem Phase.next_logsOnly {q : Phase} {r : Reason} (h : r.logsOnly = true) : q.next r = some q := by
  cases r <;> first | (cases q <;> rfl) | cases h

theorem respects_of_append {phase : Wsi → Phase} {cbs cbs' : List Callback} (h : respects phase (cbs ++ cbs') = true) :
    respects phase cbs = true := by
  obtain ⟨ph', h'⟩ := Option.isSome_iff_exists.mp h
  rw [track_append] at h'
  obtain ⟨ph, hph, -⟩ := Option.bind_eq_some.mp h'
  exact Option.isSome_iff_exists.mpr ⟨ph, hph⟩

/-- Connections one at a time: every callback the callback acts on comes from the connection in progress, `cur`, or
starts one when none is in progress; `CLOSED` and `CLOSED_HTTP` end it. -/
def solo (cur : Option Wsi) : List Callback → Bool
  | [] => true
  | cb :: cbs =>
    if cb.reason.logsOnly then solo cur cbs
    else (cur = none || cur = some cb.wsi) && solo (if cb.reason.closes then none else some cb.wsi) cbs

theorem solo_of_append : ∀ {cur : Option Wsi} {cbs cbs' : List Callback}, solo cur (cbs ++ cbs') = true →
    solo cur cbs = true
  | _, [], _, _ => rfl
  | cur, cb :: cbs, cbs', h => by
    rw [List.cons_append, solo] at h
    rw [solo]
    by_cases hl : cb.reason.logsOnly = true
    · rw [if_pos hl] at h ⊢; exact solo_of_append h
    · rw [if_neg hl, Bool.and_eq_true] at h ⊢; exact ⟨h.1, solo_of_append h.2⟩

/-! ## Without a vhd -/

/-- The reasons whose handlers dereference the vhd unchecked: all but `PROTOCOL_INIT`, `HTTP`, whose
`handleHttpNewConnection` returns on a null vhd, and the ones the callback only logs. -/
def Reason.readsVhd : Reason → Bool
  | .protocolInit _ | .http _ | .other _ => false
  | _ => true

/-- On a null vhd, a callback that allocates none faults where its handler dereferences the vhd, and otherwise
changes nothing. -/
theorem callback_without_vhd (hv : s.vhd = none) (cb : Callback) (hi : cb.reason ≠ .protocolInit true) :
    (cb.reason.readsVhd = true ∧ callbackWebsocketServer lwsPre cb s = .error .nullVhd) ∨
      (cb.reason.readsVhd = false ∧ ∃ x, callbackWebsocketServer lwsPre cb s = .ok (x, s)) := by
  obtain ⟨w, r⟩ := cb
  cases r with
  | protocolInit allocOk =>
    cases allocOk
    · obtain ⟨vhd, next, effects⟩ := s
      subst hv
      exact .inr ⟨rfl, -1, rfl⟩
    · exact absurd rfl hi
  | http h => exact .inr ⟨rfl, 0, by simp [callbackWebsocketServer, handleHttpNewConnection, hv]⟩
  | other _ => exact .inr ⟨rfl, 0, rfl⟩
  | _ => simp [Reason.readsVhd, callbackWebsocketServer, httpWriteable, serverWriteable, hv]

/-- **A failed vhd allocation.** When `PROTOCOL_INIT` could not allocate the vhd, a run that allocates none makes no
call and changes nothing up to the first callback whose handler dereferences the vhd, and faults there: `HTTP`
requests are dropped silently, and any other callback of a connection is a null dereference. -/
theorem run_without_vhd (cbs : List Callback) (hi : ∀ cb ∈ cbs, cb.reason ≠ .protocolInit true)
    (hv : s.vhd = none) : run lwsPre cbs s = if cbs.any (·.reason.readsVhd) then .error .nullVhd else .ok s := by
  induction cbs with
  | nil => rfl
  | cons cb cbs ih =>
    rcases @callback_without_vhd lwsPre _ hv cb (hi cb (List.mem_cons_self cb cbs)) with ⟨hr, h⟩ | ⟨hr, x, h⟩
    · simp only [run, deliver, h, List.any_cons, hr, Bool.true_or, if_true]
    · rw [run_cons_ok h, ih fun cb' h' => hi cb' (List.mem_cons_of_mem cb h')]
      simp [hr]

/-- A failed allocation, an HTTP request dropped, then a websocket that dereferences the null vhd. -/
theorem run_without_vhd_http_then_websocket :
    (∀ cb ∈ [(⟨0, .protocolInit false⟩ : Callback), ⟨1, .http ⟨⟨1⟩, [47], none⟩⟩, ⟨2, .established⟩],
        cb.reason ≠ .protocolInit true) ∧
      run 16 [⟨0, .protocolInit false⟩, ⟨1, .http ⟨⟨1⟩, [47], none⟩⟩, ⟨2, .established⟩] Server.init =
        if [(⟨0, .protocolInit false⟩ : Callback), ⟨1, .http ⟨⟨1⟩, [47], none⟩⟩, ⟨2, .established⟩].any
            (·.reason.readsVhd) then .error .nullVhd else .ok Server.init := by
  refine ⟨?hi, run_without_vhd _ ?hi rfl⟩
  decide

end Lws
end Katla
