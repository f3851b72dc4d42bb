import Katla.Lws.Lifecycle

/-!
# libwebsockets callbacks: the per-session design

`callbackWebsocketServer` keeps one connection's client and request in the vhd's two slots. `Sessions` runs the same
code with one `Vhd` per connection, zeroed when the connection is created, as lws gives when a protocol declares
per-session data: the callback for a connection sees and updates only that connection's slot (`sessionCallback`).

* **Invariant** (`SessionsOk`, kept by `sessionsOk_step` and `sessionRun_ok`): a slot is zeroed before its
  connection opens, holds a client while it is open and a request too inside an HTTP transaction, and every client
  in a slot was built for that slot's connection.
* **Routing** (`sessions_routed`): along every interleaving of any number of connections that respects their
  lifecycles, each callback calls only clients built for its own connection.
* **No null dereference** (`sessions_fault`): such an interleaving faults only on a null payload in
  `HTTP_WRITEABLE`.
-/

namespace Katla
namespace Lws

/-! ## One slot per connection -/

/-- The callback's state with one `Vhd` per connection. -/
structure Sessions where
  slot : Wsi → Vhd
  next : Nat
  effects : List Effect

namespace Sessions

/-- Every slot zeroed, nothing called yet. -/
def init : Sessions := ⟨fun _ => ⟨none, none⟩, 0, []⟩

/-- The server as the callback for connection `w` sees it: `w`'s own slot. -/
def view (t : Sessions) (w : Wsi) : Server := ⟨some (t.slot w), t.next, t.effects⟩

/-- What the callback for connection `w` left, with its slot stored back as `w`'s. -/
def store (t : Sessions) (w : Wsi) (s : Server) : Sessions :=
  ⟨Function.update t.slot w (s.vhd.getD ⟨none, none⟩), s.next, s.effects⟩

end Sessions

variable {lwsPre : Nat} {cb : Callback} {t t' : Sessions} {x : Int} {f : Fault} {ph ph' : Wsi → Phase} {p : Phase}

/-- The callback on its connection's own slot. -/
def sessionCallback (lwsPre : Nat) (cb : Callback) (t : Sessions) : Except Fault (Int × Sessions) :=
  (callbackWebsocketServer lwsPre cb (t.view cb.wsi)).map fun r => (r.1, t.store cb.wsi r.2)

/-- Callbacks delivered to the per-session design. -/
def sessionRun (lwsPre : Nat) (cbs : List Callback) (t : Sessions) : Except Fault Sessions :=
  deliver (sessionCallback lwsPre) cbs t

/-- A per-session callback is the code's callback on the connection's own slot. -/
theorem sessionCallback_ok (h : sessionCallback lwsPre cb t = .ok (x, t')) :
    ∃ s', callbackWebsocketServer lwsPre cb (t.view cb.wsi) = .ok (x, s') ∧ t' = t.store cb.wsi s' := by
  unfold sessionCallback at h
  rcases hc : callbackWebsocketServer lwsPre cb (t.view cb.wsi) with _ | ⟨y, s'⟩ <;> rw [hc] at h
  · cases h
  · cases h; exact ⟨s', rfl, rfl⟩

theorem sessionCallback_error (h : sessionCallback lwsPre cb t = .error f) :
    callbackWebsocketServer lwsPre cb (t.view cb.wsi) = .error f := by
  unfold sessionCallback at h
  rcases hc : callbackWebsocketServer lwsPre cb (t.view cb.wsi) with _ | ⟨y, s'⟩ <;> rw [hc] at h <;> cases h
  rfl

/-- A callback that only logs changes nothing. -/
theorem sessionCallback_logsOnly (h : cb.reason.logsOnly = true) : sessionCallback lwsPre cb t = .ok (0, t) := by
  simp [sessionCallback, callback_logsOnly _ h, Except.map, Sessions.store, Sessions.view]

/-! ## The invariant -/

/-- What a connection's slot holds in each phase: nothing before it opens; a client while it is open, with no request
on a websocket and a request inside an HTTP transaction. -/
def Phase.SlotOk : Phase → Vhd → Prop
  | .idle, v => v = ⟨none, none⟩
  | .ws, v => v.client.isSome ∧ v.request = none
  | .http, v | .body, v | .done, v => v.client.isSome ∧ v.request.isSome
  | .closed, _ => True

/-- Every slot fits its connection's phase, and holds only a client built for its connection. -/
structure SessionsOk (ph : Wsi → Phase) (t : Sessions) : Prop where
  slot : ∀ w, (ph w).SlotOk (t.slot w)
  owner : ∀ w c, (t.slot w).client = some c → c.wsi = w

theorem sessionsOk_init : SessionsOk (fun _ => .idle) Sessions.init :=
  ⟨fun _ => rfl, fun _ _ h => by cases h⟩

/-- The slot a callback leaves fits the connection's next phase. -/
theorem Phase.slotOk_after {q : Phase} {r : Reason} {v : Vhd} (w : Wsi) (n : Nat) (hv : q.SlotOk v)
    (hp : q.next r = some p) : ∃ v', v.after w n r = some v' ∧ p.SlotOk v' := by
  cases q <;> cases r <;> cases hp <;> simp_all [Vhd.after, Phase.SlotOk]

/-- The slot a callback for connection `w` leaves holds only clients built for `w`. -/
theorem Vhd.after_owner {v v' : Vhd} {w : Wsi} {n : Nat} {r : Reason} (hv : ∀ c, v.client = some c → c.wsi = w)
    (h : v.after w n r = some v') : ∀ c, v'.client = some c → c.wsi = w := by
  cases r <;> (simp only [Vhd.after] at h; try split_ifs at h) <;> cases h <;> simp_all

/-- One callback that follows its connection's lifecycle keeps the invariant. -/
theorem sessionsOk_step (h : SessionsOk ph t) (hp : (ph cb.wsi).next cb.reason = some p)
    (hc : sessionCallback lwsPre cb t = .ok (x, t')) : SessionsOk (Function.update ph cb.wsi p) t' := by
  obtain ⟨s', hs', rfl⟩ := sessionCallback_ok hc
  have hv : s'.vhd = (t.slot cb.wsi).after cb.wsi t.next cb.reason := callback_vhd rfl hs'
  obtain ⟨v', hv', hok⟩ := Phase.slotOk_after cb.wsi t.next (h.slot cb.wsi) hp
  constructor
  · intro w
    by_cases hw : w = cb.wsi
    · subst hw; simp [Sessions.store, hv, hv', hok]
    · simp [Sessions.store, hw, h.slot w]
  · intro w c
    by_cases hw : w = cb.wsi
    · subst hw; simpa [Sessions.store, hv, hv'] using Vhd.after_owner (h.owner _) hv' c
    · simpa [Sessions.store, hw] using h.owner w c

/-- A whole run that follows the lifecycles keeps the invariant. -/
theorem sessionRun_ok : ∀ (cbs : List Callback) {ph ph' : Wsi → Phase} {t t' : Sessions}, SessionsOk ph t →
    track ph cbs = some ph' → sessionRun lwsPre cbs t = .ok t' → SessionsOk ph' t'
  | [], _, _, _, _, h, ht, hr => by cases ht; cases hr; exact h
  | cb :: cbs, ph, _, t, _, h, ht, hr => by
    obtain ⟨p, hp, ht⟩ := Option.bind_eq_some.mp ht
    rcases hc : sessionCallback lwsPre cb t with f | ⟨y, t₁⟩
    · rw [sessionRun, deliver_cons_error hc] at hr; cases hr
    · rw [sessionRun, deliver_cons_ok hc] at hr
      exact sessionRun_ok cbs (sessionsOk_step h hp hc) ht hr

/-! ## Routing and faults -/

/-- In the per-session design, along every interleaving of any number of connections that respects their lifecycles,
each callback calls only clients built for its own connection. -/
theorem sessions_routed {pre : List Callback} (hr : respects (fun _ => .idle) (pre ++ [cb]) = true)
    (ht : sessionRun lwsPre pre Sessions.init = .ok t) (hc : sessionCallback lwsPre cb t = .ok (x, t')) :
    ∃ es, t'.effects = t.effects ++ es ∧ ∀ e ∈ es, ∀ c ∈ e.client?, c.wsi = cb.wsi := by
  obtain ⟨ph, p, hph, -⟩ := track_snoc hr
  have hok := sessionRun_ok pre sessionsOk_init hph ht
  obtain ⟨s', hs', rfl⟩ := sessionCallback_ok hc
  obtain ⟨es, he, hes⟩ := callback_effects rfl hs'
  refine ⟨es, he, fun e he' c hc' => ?_⟩
  rcases hes e he' c hc' with h | rfl
  · exact hok.owner _ _ h
  · rfl

/-- Where a callback that follows its connection's lifecycle dereferences a slot, the slot is filled. -/
theorem Phase.slotOk_uses {q : Phase} {r : Reason} {v : Vhd} (hv : q.SlotOk v) (hp : q.next r = some p) :
    (r.usesClient → v.client.isSome) ∧ (r.usesRequest → v.request.isSome) := by
  cases q <;> cases r <;> cases hp <;> simp_all [Phase.SlotOk, Reason.usesClient, Reason.usesRequest]

/-- A run that follows the lifecycles from a state in the invariant faults only on a null payload. -/
theorem sessionRun_fault : ∀ (cbs : List Callback) {ph : Wsi → Phase} {t : Sessions}, SessionsOk ph t →
    respects ph cbs = true → sessionRun lwsPre cbs t = .error f → f = .nullPayload
  | [], _, _, _, _, hr => by cases hr
  | cb :: cbs, ph, t, h, hrs, hr => by
    obtain ⟨p, hp, hrest⟩ := respects_cons.mp hrs
    rcases hc : sessionCallback lwsPre cb t with f' | ⟨y, t₁⟩
    · rw [sessionRun, deliver_cons_error hc] at hr
      cases hr
      have hu := Phase.slotOk_uses (h.slot cb.wsi) hp
      rcases callback_fault rfl (sessionCallback_error hc) with ⟨-, hn, hcl⟩ | ⟨-, hn, hrq⟩ | hf
      · simp [hn, hcl] at hu
      · simp [hn, hrq] at hu
      · exact hf
    · rw [sessionRun, deliver_cons_ok hc] at hr
      exact sessionRun_fault cbs (sessionsOk_step h hp hc) hrest hr

/-- In the per-session design, an interleaving of any number of connections that respects their lifecycles never
dereferences a null client or request: it faults only on a null payload in `HTTP_WRITEABLE`. -/
theorem sessions_fault {cbs : List Callback} (hr : respects (fun _ => .idle) cbs = true)
    (h : sessionRun lwsPre cbs Sessions.init = .error f) : f = .nullPayload :=
  sessionRun_fault cbs sessionsOk_init hr h

end Lws
end Katla
