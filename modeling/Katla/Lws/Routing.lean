import Katla.Lws.Sessions

/-!
# libwebsockets callbacks: routing between connections

The protocol declares no per-session data, so every connection's client and request go into the one vhd of the
vhost, and a callback acts on whatever the slots hold, whichever connection it comes from.

* **Connections one at a time** (`solo`): the code is the per-session design. `Sim` relates the vhd to the slot of
  the connection in progress; one callback keeps it (`Sim.step`), so a run of the code makes the calls the design
  makes and faults where it faults (`run_sim`, `serve_eq_sessions`). So each callback calls only its own
  connection's clients (`solo_routed`) and no null client or request is dereferenced (`solo_fault`).
* **Two connections at once**: a final fragment received on one websocket goes into the other's client
  (`receive_on_first_goes_to_second_client`); after one connection closes, the other's next receive or body chunk
  dereferences a null slot (`close_then_receive_on_other_faults`); a websocket's close removes the other's client,
  whose own close then removes a null client (`closes_remove_wrong_objects`). On one keep-alive HTTP connection, a
  second request overwrites the first's client and request, which are never removed or deleted (the same theorem).
-/

namespace Katla
namespace Lws

/-! ## Connections one at a time -/

variable {lwsPre : Nat} {ph : Wsi → Phase} {cur : Option Wsi} {s s' : Server} {t : Sessions} {w : Wsi} {r : Reason}
  {p : Phase} {x : Int}

/-- The code's server and the per-session design in step: the same identities and calls so far, the vhd holding the
slot of the connection in progress `cur`, or a zeroed one between connections, and no other connection open. -/
structure Sim (ph : Wsi → Phase) (cur : Option Wsi) (s : Server) (t : Sessions) : Prop where
  next : s.next = t.next
  effects : s.effects = t.effects
  vhd : s.vhd = some (cur.elim ⟨none, none⟩ t.slot)
  current : ∀ w, (ph w).isOpen → cur = some w

theorem sim_init : Sim (fun _ => .idle) none ⟨some ⟨none, none⟩, 0, []⟩ Sessions.init :=
  ⟨rfl, rfl, rfl, fun _ h => by cases h⟩

/-- A connection that is not open and gets a callback the code acts on is a new one. -/
theorem Phase.eq_idle {q : Phase} (hq : q.isOpen = false) (hp : q.next r = some p) (hl : r.logsOnly = false) :
    q = .idle := by
  cases q <;> simp only [Phase.isOpen, reduceCtorEq] at hq ⊢
  cases r <;> simp_all [Phase.next, Reason.logsOnly]

/-- A close leaves the connection closed and its slot zeroed. -/
theorem Phase.after_closes {q : Phase} {v : Vhd} (hv : q.SlotOk v) (hp : q.next r = some p) (hc : r.closes = true)
    (w : Wsi) (n : Nat) : p = .closed ∧ v.after w n r = some ⟨none, none⟩ := by
  cases r <;> simp only [Reason.closes, reduceCtorEq] at hc <;> cases q <;>
    simp_all [Phase.next, Phase.SlotOk, Vhd.after]

/-- A callback the code acts on, from the connection in progress or starting one, sees in the code exactly what
the per-session design shows that connection. -/
theorem Sim.view_eq (h : Sim ph cur s t) (ho : SessionsOk ph t) (hp : (ph w).next r = some p)
    (hl : r.logsOnly = false) (hc : cur = none ∨ cur = some w) : s = t.view w := by
  obtain ⟨vhd, next, effects⟩ := s
  obtain ⟨hn, he, hv, hcur⟩ := h
  rcases hc with rfl | rfl
  · have hq : (ph w).isOpen = false := by
      cases hq : (ph w).isOpen
      · rfl
      · cases hcur w hq
    have hs := ho.slot w
    rw [Phase.eq_idle hq hp hl] at hs
    simp_all [Sessions.view, Phase.SlotOk]
  · simp_all [Sessions.view]

/-- One callback the code acts on keeps the two in step. -/
theorem Sim.step (h : Sim ph cur s t) (ho : SessionsOk ph t) (hp : (ph w).next r = some p)
    (hl : r.logsOnly = false) (hc : cur = none ∨ cur = some w)
    (hs : callbackWebsocketServer lwsPre ⟨w, r⟩ s = .ok (x, s')) :
    Sim (Function.update ph w p) (if r.closes then none else some w) s' (t.store w s') := by
  obtain rfl := h.view_eq ho hp hl hc
  have hv : s'.vhd = (t.slot w).after w t.next r := callback_vhd rfl hs
  obtain ⟨v', hv', -⟩ := Phase.slotOk_after w t.next (ho.slot w) hp
  refine ⟨rfl, rfl, ?_, fun w' hw' => ?_⟩
  · split_ifs with hcl
    · rw [hv, (Phase.after_closes (ho.slot w) hp hcl w t.next).2]; rfl
    · simp [Sessions.store, hv, hv']
  · by_cases hww : w' = w
    · subst hww
      rw [Function.update_same] at hw'
      split_ifs with hcl
      · rw [(Phase.after_closes (ho.slot w') hp hcl w' t.next).1] at hw'; cases hw'
      · rfl
    · rcases hc with hc | hc <;> rw [h.current w' (by rwa [Function.update_noteq hww] at hw')] at hc
      · cases hc
      · cases hww (Option.some.inj hc)

/-- With connections one at a time, a run of the code calls what the per-session design calls and faults where
it faults. -/
theorem run_sim : ∀ (cbs : List Callback) {ph : Wsi → Phase} {cur : Option Wsi} {s : Server} {t : Sessions},
    Sim ph cur s t → SessionsOk ph t → respects ph cbs = true → solo cur cbs = true →
      (run lwsPre cbs s).map Server.effects = (sessionRun lwsPre cbs t).map Sessions.effects
  | [], _, _, _, _, h, _, _, _ => congrArg Except.ok h.effects
  | cb :: cbs, ph, cur, s, t, h, ho, hr, hs => by
    obtain ⟨p, hp, hrest⟩ := respects_cons.mp hr
    rw [solo] at hs
    by_cases hl : cb.reason.logsOnly = true
    · rw [if_pos hl] at hs
      obtain rfl : p = ph cb.wsi := Option.some.inj (hp.symm.trans (Phase.next_logsOnly hl))
      rw [Function.update_eq_self] at hrest
      rw [run, deliver_cons_ok (callback_logsOnly s hl), sessionRun, deliver_cons_ok (sessionCallback_logsOnly hl)]
      exact run_sim cbs h ho hrest hs
    · rw [if_neg hl, Bool.and_eq_true] at hs
      have hc : cur = none ∨ cur = some cb.wsi := by simpa using hs.1
      have hl' : cb.reason.logsOnly = false := by simpa using hl
      have hv := h.view_eq ho hp hl' hc
      rcases hcb : callbackWebsocketServer lwsPre cb s with f | ⟨y, s'⟩
      · have hst : sessionCallback lwsPre cb t = .error f := by
          rw [sessionCallback, ← hv, hcb]; rfl
        rw [run, deliver_cons_error hcb, sessionRun, deliver_cons_error hst]; rfl
      · have hst : sessionCallback lwsPre cb t = .ok (y, t.store cb.wsi s') := by
          rw [sessionCallback, ← hv, hcb]; rfl
        rw [run, deliver_cons_ok hcb, sessionRun, deliver_cons_ok hst]
        exact run_sim cbs (h.step ho hp hl' hc hcb) (sessionsOk_step ho hp hst) hrest hs.2

/-- With connections one at a time, the code makes exactly the calls the per-session design makes, and faults exactly
where it faults. -/
theorem serve_eq_sessions {cbs : List Callback} (hr : respects (fun _ => .idle) cbs = true)
    (hs : solo none cbs = true) :
    (serve lwsPre cbs).map Server.effects = (sessionRun lwsPre cbs Sessions.init).map Sessions.effects := by
  rw [serve_eq]
  exact run_sim cbs sim_init sessionsOk_init hr hs

/-- With connections one at a time, the code never dereferences a null client or request. -/
theorem solo_fault {cbs : List Callback} {f : Fault} (hr : respects (fun _ => .idle) cbs = true)
    (hs : solo none cbs = true) (h : serve lwsPre cbs = .error f) : f = .nullPayload := by
  have he := @serve_eq_sessions lwsPre _ hr hs
  rcases hst : sessionRun lwsPre cbs Sessions.init with f' | t <;> rw [h, hst] at he <;> cases he
  exact sessions_fault hr hst

/-- `HTTP_WRITEABLE` with no payload after a request: the one fault there is. -/
theorem solo_fault_null_payload :
    ∃ f, serve 16 [⟨1, .http ⟨⟨0⟩, [], none⟩⟩, ⟨1, .httpWriteable ⟨⟨none, false, true, true⟩, false, false, 0, false⟩⟩] =
      .error f ∧ f = .nullPayload :=
  ⟨_, rfl, @solo_fault 16 [⟨1, .http ⟨⟨0⟩, [], none⟩⟩,
    ⟨1, .httpWriteable ⟨⟨none, false, true, true⟩, false, false, 0, false⟩⟩] _ rfl rfl rfl⟩

/-- With connections one at a time, each callback of the code calls only clients built for its own connection. -/
theorem solo_routed {pre : List Callback} {cb : Callback} (hr : respects (fun _ => .idle) (pre ++ [cb]) = true)
    (hs : solo none (pre ++ [cb]) = true) (h : serve lwsPre pre = .ok s)
    (hc : callbackWebsocketServer lwsPre cb s = .ok (x, s')) :
    ∃ es, s'.effects = s.effects ++ es ∧ ∀ e ∈ es, ∀ c ∈ e.client?, c.wsi = cb.wsi := by
  have h1 := @serve_eq_sessions lwsPre _ (respects_of_append hr) (solo_of_append hs)
  have h2 := @serve_eq_sessions lwsPre _ hr hs
  have hserve : serve lwsPre (pre ++ [cb]) = .ok s' := by
    rw [serve_eq, run_append, ← serve_eq, h]
    exact run_cons_ok hc
  rw [h] at h1
  rcases hst : sessionRun lwsPre pre Sessions.init with f | t <;> rw [hst] at h1
  · cases h1
  have e1 : s.effects = t.effects := Except.ok.inj h1
  have h3 : sessionRun lwsPre (pre ++ [cb]) Sessions.init = sessionRun lwsPre [cb] t := by
    rw [sessionRun, deliver_append, ← sessionRun, hst]; rfl
  rw [hserve, h3] at h2
  rcases hcb : sessionCallback lwsPre cb t with f | ⟨y, t'⟩
  · rw [sessionRun, deliver_cons_error hcb] at h2; cases h2
  · rw [sessionRun, deliver_cons_ok hcb] at h2
    obtain ⟨es, he, hes⟩ := sessions_routed hr hst hcb
    exact ⟨es, by rw [Except.ok.inj h2, he, e1], hes⟩

/-- A websocket closes and a second one receives. -/
theorem solo_routed_second_websocket :
    ∃ s s' x, serve 16 [⟨1, .established⟩, ⟨1, .closed⟩, ⟨2, .established⟩] = .ok s ∧
      callbackWebsocketServer 16 ⟨2, .receive [120] true⟩ s = .ok (x, s') ∧
      ∃ es, s'.effects = s.effects ++ es ∧ ∀ e ∈ es, ∀ c ∈ e.client?, c.wsi = 2 :=
  ⟨_, _, _, rfl, rfl, @solo_routed 16 _ _ _ [⟨1, .established⟩, ⟨1, .closed⟩, ⟨2, .established⟩]
    ⟨2, .receive [120] true⟩ rfl rfl rfl rfl⟩

/-! ## Two connections at once -/

/-- Two websockets open; a final fragment received on the first is inserted into the second's client, and the
second's client handles it. -/
theorem receive_on_first_goes_to_second_client (lwsPre : Nat) :
    respects (fun _ => .idle) [⟨1, .established⟩, ⟨2, .established⟩, ⟨1, .receive [120] true⟩] = true ∧
    serve lwsPre [⟨1, .established⟩, ⟨2, .established⟩, ⟨1, .receive [120] true⟩] =
      .ok ⟨some ⟨some ⟨1, 2⟩, none⟩, 2, [.addWebSocketClient ⟨0, 1⟩, .callbackOnWritable 1,
        .addWebSocketClient ⟨1, 2⟩, .callbackOnWritable 2, .clientInsert ⟨1, 2⟩ [120], .handleMessage ⟨1, 2⟩]⟩ :=
  ⟨rfl, rfl⟩

/-- One of two websockets closes and the other receives: a null client. One of two HTTP connections closes and the
other's body arrives: a null request. -/
theorem close_then_receive_on_other_faults (lwsPre : Nat) :
    respects (fun _ => .idle) [⟨1, .established⟩, ⟨2, .established⟩, ⟨1, .closed⟩, ⟨2, .receive [120] true⟩] = true ∧
    serve lwsPre [⟨1, .established⟩, ⟨2, .established⟩, ⟨1, .closed⟩, ⟨2, .receive [120] true⟩] =
      .error .nullClient ∧
    respects (fun _ => .idle)
      [⟨1, .http ⟨⟨3⟩, [47], some [49]⟩⟩, ⟨2, .http ⟨⟨1⟩, [47], none⟩⟩, ⟨2, .closedHttp⟩, ⟨1, .httpBody [120]⟩] = true ∧
    serve lwsPre
      [⟨1, .http ⟨⟨3⟩, [47], some [49]⟩⟩, ⟨2, .http ⟨⟨1⟩, [47], none⟩⟩, ⟨2, .closedHttp⟩, ⟨1, .httpBody [120]⟩] =
      .error .nullRequest :=
  ⟨rfl, rfl, rfl, rfl⟩

/-- Two websockets close: the first close removes the second's client, the second removes a null client, and the
first's client stays registered. Two requests on one keep-alive HTTP connection: the first request's client and
request are never removed or deleted. -/
theorem closes_remove_wrong_objects (lwsPre : Nat) :
    respects (fun _ => .idle) [⟨1, .established⟩, ⟨2, .established⟩, ⟨1, .closed⟩, ⟨2, .closed⟩] = true ∧
    serve lwsPre [⟨1, .established⟩, ⟨2, .established⟩, ⟨1, .closed⟩, ⟨2, .closed⟩] =
      .ok ⟨some ⟨none, none⟩, 2, [.addWebSocketClient ⟨0, 1⟩, .callbackOnWritable 1, .addWebSocketClient ⟨1, 2⟩,
        .callbackOnWritable 2, .removeWebSocketClient (some ⟨1, 2⟩), .removeWebSocketClient none]⟩ ∧
    respects (fun _ => .idle) [⟨1, .http ⟨⟨3⟩, [47], some [49]⟩⟩, ⟨1, .httpBody [120]⟩, ⟨1, .httpBodyCompletion⟩,
      ⟨1, .http ⟨⟨1⟩, [47], none⟩⟩, ⟨1, .closedHttp⟩] = true ∧
    serve lwsPre [⟨1, .http ⟨⟨3⟩, [47], some [49]⟩⟩, ⟨1, .httpBody [120]⟩, ⟨1, .httpBodyCompletion⟩,
      ⟨1, .http ⟨⟨1⟩, [47], none⟩⟩, ⟨1, .closedHttp⟩] =
      .ok ⟨some ⟨none, none⟩, 4, [.addWebSocketClient ⟨0, 1⟩, .newRequest ⟨1, ⟨⟨3⟩, [47]⟩⟩,
        .requestInsert ⟨1, ⟨⟨3⟩, [47]⟩⟩ [120], .handleHttpRequest (some ⟨0, 1⟩) ⟨1, ⟨⟨3⟩, [47]⟩⟩,
        .addWebSocketClient ⟨2, 1⟩, .newRequest ⟨3, ⟨⟨1⟩, [47]⟩⟩, .handleHttpRequest (some ⟨2, 1⟩) ⟨3, ⟨⟨1⟩, [47]⟩⟩,
        .deleteRequest ⟨3, ⟨⟨1⟩, [47]⟩⟩, .removeWebSocketClient (some ⟨2, 1⟩)]⟩ :=
  ⟨rfl, rfl, rfl, rfl⟩

end Lws
end Katla
