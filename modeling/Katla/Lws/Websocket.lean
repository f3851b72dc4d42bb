import Katla.Lws.Objects

/-!
# libwebsockets callbacks: one websocket connection

lws delivers a websocket connection as `LWS_CALLBACK_ESTABLISHED`, then, in any order, one `RECEIVE` per fragment of
a message and `SERVER_WRITEABLE` callbacks, then `LWS_CALLBACK_CLOSED` (`websocket`, which the lifecycle of a
connection not yet open allows: `respects_websocket`).

* **One event** (`callback_event`): on a slot that holds a client, a fragment goes into that client and, when it is
  the last of its message, the message is handled; a writeable callback asks that client for its data. Neither
  touches the slot.
* **One connection** (`run_websocket`): from any server state with a vhd, the connection's client is the one
  `ESTABLISHED` builds with the next identity; every fragment goes into it, in order, each message is handled right
  after its last fragment, every writeable callback asks it for its data, and `CLOSED` removes it, once, leaving the
  slot without a client.
-/

namespace Katla
namespace Lws

variable {lwsPre : Nat}

/-! ## Delivery -/

/-- What lws delivers to an open websocket: a fragment of a message and whether it is the message's last, or a
writeable callback with what the client and lws answer. -/
inductive WsEvent where
  | receive (bytes : Bytes) (isFinal : Bool)
  | writeable (ans : WriteAnswers)

/-- `LWS_CALLBACK_RECEIVE` and `LWS_CALLBACK_SERVER_WRITEABLE`. -/
def WsEvent.reason : WsEvent → Reason
  | .receive bytes isFinal => .receive bytes isFinal
  | .writeable ans => .serverWriteable ans

/-- One websocket connection as lws delivers it on `wsi`. -/
def websocket (wsi : Wsi) (events : List WsEvent) : List Callback :=
  ⟨wsi, .established⟩ :: (events.map (fun e => ⟨wsi, e.reason⟩) ++ [⟨wsi, .closed⟩])

/-- Fragments and writeable callbacks, then the close, are allowed on an open websocket. -/
theorem respects_events (wsi : Wsi) (events : List WsEvent) :
    ∀ phase : Wsi → Phase, phase wsi = .ws →
      respects phase (events.map (fun e => ⟨wsi, e.reason⟩) ++ [⟨wsi, .closed⟩]) = true := by
  induction events with
  | nil => intro phase h; simp [respects, track, h, Phase.next]
  | cons e events ih =>
    intro phase h
    cases e <;> simpa [respects, track, h, Phase.next, WsEvent.reason] using ih _ (Function.update_same _ _ _)

/-- A websocket connection respects the lifecycle of a connection not yet open. -/
theorem respects_websocket (wsi : Wsi) (events : List WsEvent) (phase : Wsi → Phase) (hp : phase wsi = .idle) :
    respects phase (websocket wsi events) = true := by
  simp only [websocket, respects, track, hp, Phase.next, Option.bind_some]
  exact respects_events wsi events _ (Function.update_same _ _ _)

/-! ## What a connection does -/

/-- The calls on its client one event makes: a fragment is inserted, and its message handled after the last one; a
writeable callback asks for the data to send. -/
def WsEvent.clientCalls (c : Client) : WsEvent → List Effect
  | .receive bytes isFinal => .clientInsert c bytes :: if isFinal then [.handleMessage c] else []
  | .writeable _ => [.dataToSend c]

/-- The calls on objects of one websocket connection whose client is `c`. -/
def websocketCalls (c : Client) (events : List WsEvent) : List Effect :=
  .addWebSocketClient c :: (events.flatMap (WsEvent.clientCalls c) ++ [.removeWebSocketClient (some c)])

section
variable {s : Server} {v : Vhd} {c : Client}

/-- One event on a connection whose slot holds the client `c`: the slot and the identities stay as they are, and the
calls on objects are the event's calls on `c`. -/
theorem callback_event (wsi : Wsi) (e : WsEvent) (hv : s.vhd = some v) (hc : v.client = some c) :
    ∃ x s', callbackWebsocketServer lwsPre ⟨wsi, e.reason⟩ s = .ok (x, s') ∧ s'.vhd = s.vhd ∧ s'.next = s.next ∧
      s'.effects.filter Effect.onObject = s.effects.filter Effect.onObject ++ e.clientCalls c := by
  cases e with
  | receive bytes isFinal =>
    refine ⟨_, _, by simp only [WsEvent.reason, callbackWebsocketServer, hv, hc]; rfl, ?_⟩
    cases isFinal <;> simp [Server.emit, List.filter_append, Effect.onObject, WsEvent.clientCalls]
  | writeable ans =>
    refine ⟨_, (writePayload lwsPre wsi ans (s.emit (.dataToSend c))).2,
      by simp only [WsEvent.reason, callbackWebsocketServer, serverWriteable, hv, hc]; rfl,
      by rw [writePayload_vhd]; rfl, by rw [writePayload_next]; rfl, ?_⟩
    rw [writePayload_objects]
    simp [Server.emit, List.filter_append, Effect.onObject, WsEvent.clientCalls]

/-- The events of an open websocket, one after another. -/
theorem run_events (wsi : Wsi) (events : List WsEvent) (hv : s.vhd = some v) (hc : v.client = some c) :
    ∃ s', run lwsPre (events.map fun e => ⟨wsi, e.reason⟩) s = .ok s' ∧ s'.vhd = s.vhd ∧ s'.next = s.next ∧
      s'.effects.filter Effect.onObject =
        s.effects.filter Effect.onObject ++ events.flatMap (WsEvent.clientCalls c) := by
  induction events generalizing s with
  | nil => exact ⟨s, rfl, rfl, rfl, by simp⟩
  | cons e events ih =>
    obtain ⟨x, s₁, h₁, hv₁, hn₁, hf₁⟩ := @callback_event lwsPre _ _ _ wsi e hv hc
    obtain ⟨s', h', hv', hn', hf'⟩ := ih (hv₁.trans hv)
    exact ⟨s', by rw [List.map_cons, run_cons_ok h₁, h'], hv'.trans hv₁, hn'.trans hn₁,
      by rw [hf', hf₁, List.flatMap_cons, List.append_assoc]⟩

/-- **One websocket connection.** From any server state with a vhd, whatever fragments and writeable callbacks come
in between: the connection's client is the one `ESTABLISHED` builds with the next identity; every fragment goes into
it, in order, each message is handled right after its last fragment, every writeable callback asks it for its data,
and `CLOSED` removes it once and leaves the slot without a client. -/
theorem run_websocket (wsi : Wsi) (events : List WsEvent) (hv : s.vhd = some v) :
    ∃ s', run lwsPre (websocket wsi events) s = .ok s' ∧ s'.vhd = some { v with client := none } ∧
      s'.next = s.next + 1 ∧
      s'.effects.filter Effect.onObject = s.effects.filter Effect.onObject ++ websocketCalls ⟨s.next, wsi⟩ events := by
  -- `ESTABLISHED` builds the client and puts it in the slot
  obtain ⟨s₁, h₁, hv₁, hn₁, hf₁⟩ : ∃ s₁, callbackWebsocketServer lwsPre ⟨wsi, .established⟩ s = .ok (0, s₁) ∧
      s₁.vhd = some { v with client := some ⟨s.next, wsi⟩ } ∧ s₁.next = s.next + 1 ∧
      s₁.effects.filter Effect.onObject = s.effects.filter Effect.onObject ++ [.addWebSocketClient ⟨s.next, wsi⟩] :=
    ⟨(({ s with next := s.next + 1 }.setVhd { v with client := some ⟨s.next, wsi⟩ }).emit
        (.addWebSocketClient ⟨s.next, wsi⟩)).emit (.callbackOnWritable wsi),
      by simp only [callbackWebsocketServer, hv], rfl, rfl, by simp [Server.emit, Effect.onObject]⟩
  obtain ⟨s₂, h₂, hv₂, hn₂, hf₂⟩ := @run_events lwsPre _ _ _ wsi events hv₁ rfl
  -- `CLOSED` removes it
  have h₃ : callbackWebsocketServer lwsPre ⟨wsi, .closed⟩ s₂ =
      .ok (0, (s₂.emit (.removeWebSocketClient (some ⟨s.next, wsi⟩))).setVhd { v with client := none }) := by
    simp only [callbackWebsocketServer, hv₂, hv₁]
  refine ⟨(s₂.emit (.removeWebSocketClient (some ⟨s.next, wsi⟩))).setVhd { v with client := none }, ?_, rfl,
    hn₂.trans hn₁, ?_⟩
  · rw [websocket, run_cons_ok h₁, run_append, h₂]
    exact run_cons_ok h₃
  · simp [Server.setVhd, Server.emit, List.filter_append, hf₂, hf₁, websocketCalls, Effect.onObject]

/-- A message in two fragments, then a writeable callback, on a fresh server. -/
theorem run_websocket_two_fragments :
    ∃ s', run 16 (websocket 1 [.receive [104] false, .receive [105] true,
        .writeable ⟨⟨some 20, false, true, true⟩, false, false, 4, false⟩]) ⟨some ⟨none, none⟩, 0, []⟩ = .ok s' ∧
      s'.vhd = some { (⟨none, none⟩ : Vhd) with client := none } ∧ s'.next = 0 + 1 ∧
      s'.effects.filter Effect.onObject = ([] : List Effect).filter Effect.onObject ++
        websocketCalls ⟨0, 1⟩ [.receive [104] false, .receive [105] true,
          .writeable ⟨⟨some 20, false, true, true⟩, false, false, 4, false⟩] :=
  run_websocket 1 _ rfl

end

end Lws
end Katla
