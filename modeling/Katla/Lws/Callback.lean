import Katla.Socket.Basic

/-!
# The libwebsockets callback

`callbackWebsocketServer` of `websocket-server-lws.cpp` as one step on the server's state. lws calls it with a
connection (`wsi`) and a reason; what the callback reads from lws or from a client during the call (the bytes of a
receive, the Content-Length header, what `dataToSend()` and `lws_write` answer) rides on the reason. Every call the
callback makes to a collaborator (the server's client registry, a client, a request, lws) is appended to
`Server.effects`, so what a run did can be read off the trace.

All per-connection state lives in the one `VhdWebSocketServer` of the vhost (`Vhd`): its `client` and `request`
slots. A null pointer the callback dereferences is a `Fault`, and the run stops there. The `context` and `vhost`
fields of the vhd, set at `PROTOCOL_INIT` and read nowhere, and the log lines are left out.

What one callback can do, said once for the later proofs: the slot it leaves (`callback_vhd`), where it faults
(`callback_fault`), and the calls it appends, on the slot's client or the client it builds (`callback_effects`).
-/

namespace Katla
namespace Lws

/-- A connection, `lws*`. -/
abbrev Wsi := Nat

/-- `katla::HttpMethod`, by its value. -/
structure HttpMethod where
  value : Nat
  deriving DecidableEq, Repr

/-- A `WebSocketServerClientLwsImpl`: its identity and the connection it was built with. -/
structure Client where
  id : Nat
  wsi : Wsi
  deriving DecidableEq, Repr

/-- `HttpRequest`: the method and url `getMethod` reads. -/
structure HttpRequest where
  method : HttpMethod
  url : Bytes
  deriving DecidableEq, Repr

/-- An `IncomingHttpRequest`: its identity and the request it was built from. -/
structure IncomingHttpRequest where
  id : Nat
  request : HttpRequest
  deriving DecidableEq, Repr

/-- `VhdWebSocketServer`: the `client` and `request` slots, `none` for a null pointer. -/
structure Vhd where
  client : Option Client
  request : Option IncomingHttpRequest
  deriving DecidableEq, Repr

/-- What lws holds of an HTTP request: the method and url, and the text of its Content-Length header, if any. -/
structure HttpHeaders where
  method : HttpMethod
  url : Bytes
  contentLength : Option Bytes
  deriving DecidableEq, Repr

/-- `lws_hdr_total_length(wsi, WSI_TOKEN_HTTP_CONTENT_LENGTH)`: the length of the header's text, 0 when absent. -/
def HttpHeaders.contentLengthLength (h : HttpHeaders) : Nat :=
  (h.contentLength.map List.length).getD 0

/-- `client->dataToSend()`: the payload's size, `LWS_PRE` bytes in front included, when there is a payload, and the
frame's kind and position, which both writeable handlers pass to `lws_write_ws_flags`. -/
structure DataToSend where
  payload : Option Nat
  isBinary : Bool
  isFirst : Bool
  isFinal : Bool
  deriving DecidableEq, Repr

/-- What lws and the client answer during a writeable callback: the data to send, whether the two header helpers
fail, what `lws_write` returns (an `int`), and `hasDataToSend()` afterwards. -/
structure WriteAnswers where
  data : DataToSend
  headersFail : Bool
  finalizeFail : Bool
  written : Int
  hasDataToSend : Bool
  deriving DecidableEq, Repr

/-- The reasons the callback acts on, with what it reads during the call; `other` is every reason it only logs. -/
inductive Reason where
  | protocolInit (allocOk : Bool)
  | http (headers : HttpHeaders)
  | httpBody (bytes : Bytes)
  | httpBodyCompletion
  | httpWriteable (ans : WriteAnswers)
  | closedHttp
  | established
  | serverWriteable (ans : WriteAnswers)
  | receive (bytes : Bytes) (isFinal : Bool)
  | closed
  | other (reason : Nat)
  deriving DecidableEq, Repr

/-- One call of the callback. -/
structure Callback where
  wsi : Wsi
  reason : Reason
  deriving DecidableEq, Repr

/-- A call to a collaborator. -/
inductive Effect where
  | addWebSocketClient (c : Client)
  | removeWebSocketClient (c : Option Client)
  | newRequest (r : IncomingHttpRequest)
  | deleteRequest (r : IncomingHttpRequest)
  | requestInsert (r : IncomingHttpRequest) (bytes : Bytes)
  | handleHttpRequest (c : Option Client) (r : IncomingHttpRequest)
  | clientInsert (c : Client) (bytes : Bytes)
  | handleMessage (c : Client)
  | dataToSend (c : Client)
  | addHttpHeaders (wsi : Wsi) (contentLength start end_ : Nat)
  | finalizeHttpHeader (wsi : Wsi) (start end_ : Nat)
  | lwsWrite (wsi : Wsi) (len : Nat) (isBinary isFirst isFinal : Bool)
  | callbackOnWritable (wsi : Wsi)
  deriving DecidableEq, Repr

/-- A null pointer dereferenced. -/
inductive Fault where
  | nullVhd | nullClient | nullRequest | nullPayload
  deriving DecidableEq, Repr

/-- The server's side: the vhd (`none` before `PROTOCOL_INIT` allocates it), the next fresh object identity, and
every call to a collaborator so far, oldest first. -/
structure Server where
  vhd : Option Vhd
  next : Nat
  effects : List Effect
  deriving DecidableEq, Repr

namespace Server

/-- Before `PROTOCOL_INIT`. -/
def init : Server := ⟨none, 0, []⟩

/-- Call a collaborator. -/
def emit (s : Server) (e : Effect) : Server := { s with effects := s.effects ++ [e] }

/-- Store the vhd. -/
def setVhd (s : Server) (vhd : Vhd) : Server := { s with vhd := some vhd }

@[simp] theorem emit_vhd (s : Server) (e : Effect) : (s.emit e).vhd = s.vhd := rfl
@[simp] theorem emit_next (s : Server) (e : Effect) : (s.emit e).next = s.next := rfl
@[simp] theorem emit_effects (s : Server) (e : Effect) : (s.emit e).effects = s.effects ++ [e] := rfl
@[simp] theorem setVhd_vhd (s : Server) (vhd : Vhd) : (s.setVhd vhd).vhd = some vhd := rfl
@[simp] theorem setVhd_next (s : Server) (vhd : Vhd) : (s.setVhd vhd).next = s.next := rfl
@[simp] theorem setVhd_effects (s : Server) (vhd : Vhd) : (s.setVhd vhd).effects = s.effects := rfl

end Server

/-- `size_t` arithmetic: the value modulo `2^64`. -/
def sizeT (x : Int) : Nat := (x % 2 ^ 64).toNat

/-! ## The handlers -/

/-- `handleHttpNewConnection`: a new client and a new request for the connection, stored in the vhd's slots over
whatever they held; the request is handled at once unless the Content-Length header has text. -/
def handleHttpNewConnection (wsi : Wsi) (h : HttpHeaders) (s : Server) : Server :=
  match s.vhd with
  | none => s
  | some vhd =>
    let client : Client := ⟨s.next, wsi⟩
    let s := ({ s with next := s.next + 1 }.setVhd { vhd with client := some client }).emit
      (.addWebSocketClient client)
    let request : IncomingHttpRequest := ⟨s.next, ⟨h.method, h.url⟩⟩
    let s := ({ s with next := s.next + 1 }.setVhd ⟨some client, some request⟩).emit (.newRequest request)
    if h.contentLengthLength > 0 then s else s.emit (.handleHttpRequest (some client) request)

/-- With a vhd: client `next` and request `next + 1` fill both slots, and the request is handled unless the
Content-Length header has text. -/
theorem handleHttpNewConnection_of_vhd {s : Server} {vhd : Vhd} (wsi : Wsi) (h : HttpHeaders)
    (hv : s.vhd = some vhd) :
    handleHttpNewConnection wsi h s =
      ⟨some ⟨some ⟨s.next, wsi⟩, some ⟨s.next + 1, ⟨h.method, h.url⟩⟩⟩, s.next + 2,
        s.effects ++ [.addWebSocketClient ⟨s.next, wsi⟩, .newRequest ⟨s.next + 1, ⟨h.method, h.url⟩⟩] ++
          if 0 < h.contentLengthLength then []
          else [.handleHttpRequest (some ⟨s.next, wsi⟩) ⟨s.next + 1, ⟨h.method, h.url⟩⟩]⟩ := by
  simp only [handleHttpNewConnection, hv, gt_iff_lt]
  split_ifs <;> simp [Server.emit, Server.setVhd]

/-- The end of both writeable handlers: a new writeable request while the client has more to send. -/
def moreToSend (wsi : Wsi) (ans : WriteAnswers) (s : Server) : Int × Server :=
  (0, if ans.hasDataToSend then s.emit (.callbackOnWritable wsi) else s)

/-- The write both writeable handlers make: `lws_write` of the payload after its `LWS_PRE` bytes, with the flags
`lws_write_ws_flags` makes of the frame's kind and position, and `-1` when `result < (data.payload->size() - LWS_PRE)`,
an `int` compared with a `size_t`. -/
def writePayload (lwsPre : Nat) (wsi : Wsi) (ans : WriteAnswers) (s : Server) : Int × Server :=
  match ans.data.payload with
  | some n =>
    let s := s.emit (.lwsWrite wsi (sizeT (n - lwsPre)) ans.data.isBinary ans.data.isFirst ans.data.isFinal)
    if sizeT ans.written < sizeT (n - lwsPre) then (-1, s) else moreToSend wsi ans s
  | none => moreToSend wsi ans s

/-- `LWS_CALLBACK_SERVER_WRITEABLE`. -/
def serverWriteable (lwsPre : Nat) (wsi : Wsi) (ans : WriteAnswers) (s : Server) : Except Fault (Int × Server) :=
  match s.vhd with
  | none => .error .nullVhd
  | some vhd =>
    match vhd.client with
    | none => .error .nullClient
    | some c => .ok (writePayload lwsPre wsi ans (s.emit (.dataToSend c)))

/-- `LWS_CALLBACK_HTTP_WRITEABLE`: the headers go into `bytes`, `LWS_PRE + 1000` bytes, between `start`, at `LWS_PRE`,
and `end`, at `1000 + data.payload->size()`; `end` is computed before the null check of the payload. -/
def httpWriteable (lwsPre : Nat) (wsi : Wsi) (ans : WriteAnswers) (s : Server) : Except Fault (Int × Server) :=
  match s.vhd with
  | none => .error .nullVhd
  | some vhd =>
    match vhd.client with
    | none => .error .nullClient
    | some c =>
      let s := s.emit (.dataToSend c)
      match ans.data.payload with
      | none => .error .nullPayload
      | some n =>
        let s := s.emit (.addHttpHeaders wsi (sizeT (n - lwsPre)) lwsPre (1000 + n))
        if ans.headersFail then .ok (1, s) else
        let s := s.emit (.finalizeHttpHeader wsi lwsPre (1000 + n))
        if ans.finalizeFail then .ok (1, s) else .ok (writePayload lwsPre wsi ans s)

/-- `callbackWebsocketServer`: the return value and the server after one callback, or the fault that stops it. -/
def callbackWebsocketServer (lwsPre : Nat) (cb : Callback) (s : Server) : Except Fault (Int × Server) :=
  match cb.reason with
  | .protocolInit allocOk => if allocOk then .ok (0, s.setVhd ⟨none, none⟩) else .ok (-1, { s with vhd := none })
  | .http h => .ok (0, handleHttpNewConnection cb.wsi h s)
  | .httpBody bytes =>
    match s.vhd with
    | none => .error .nullVhd
    | some vhd =>
      match vhd.request with
      | none => .error .nullRequest
      | some r => .ok (0, s.emit (.requestInsert r bytes))
  | .httpBodyCompletion =>
    match s.vhd with
    | none => .error .nullVhd
    | some vhd =>
      match vhd.request with
      | none => .error .nullRequest
      | some r => .ok (0, s.emit (.handleHttpRequest vhd.client r))
  | .httpWriteable ans => httpWriteable lwsPre cb.wsi ans s
  | .closedHttp =>
    match s.vhd with
    | none => .error .nullVhd
    | some vhd =>
      let s := match vhd.request with
        | some r => s.emit (.deleteRequest r)
        | none => s
      .ok (0, ((s.setVhd { vhd with request := none }).emit (.removeWebSocketClient vhd.client)).setVhd ⟨none, none⟩)
  | .established =>
    match s.vhd with
    | none => .error .nullVhd
    | some vhd =>
      let c : Client := ⟨s.next, cb.wsi⟩
      let s := ({ s with next := s.next + 1 }.setVhd { vhd with client := some c }).emit (.addWebSocketClient c)
      .ok (0, s.emit (.callbackOnWritable cb.wsi))
  | .serverWriteable ans => serverWriteable lwsPre cb.wsi ans s
  | .receive bytes isFinal =>
    match s.vhd with
    | none => .error .nullVhd
    | some vhd =>
      match vhd.client with
      | none => .error .nullClient
      | some c =>
        let s := s.emit (.clientInsert c bytes)
        .ok (0, if isFinal then s.emit (.handleMessage c) else s)
  | .closed =>
    match s.vhd with
    | none => .error .nullVhd
    | some vhd => .ok (0, (s.emit (.removeWebSocketClient vhd.client)).setVhd { vhd with client := none })
  | .other _ => .ok (0, s)

/-! ## One callback, by reason -/

section
variable {lwsPre : Nat} {w : Wsi} {s : Server}

/-- `LWS_CALLBACK_HTTP` is `handleHttpNewConnection`. -/
theorem callback_http (h : HttpHeaders) :
    callbackWebsocketServer lwsPre ⟨w, .http h⟩ s = .ok (0, handleHttpNewConnection w h s) := rfl

/-- `HTTP_BODY` inserts the chunk into the request in the slot. -/
theorem callback_httpBody {c : Option Client} {r : IncomingHttpRequest} (b : Bytes) (hv : s.vhd = some ⟨c, some r⟩) :
    callbackWebsocketServer lwsPre ⟨w, .httpBody b⟩ s = .ok (0, s.emit (.requestInsert r b)) := by
  simp only [callbackWebsocketServer, hv]

/-- `HTTP_BODY_COMPLETION` hands the request in the slot to the server, with the client in the slot. -/
theorem callback_httpBodyCompletion {c : Option Client} {r : IncomingHttpRequest} (hv : s.vhd = some ⟨c, some r⟩) :
    callbackWebsocketServer lwsPre ⟨w, .httpBodyCompletion⟩ s = .ok (0, s.emit (.handleHttpRequest c r)) := by
  simp only [callbackWebsocketServer, hv]

/-- The slot a callback for connection `w` leaves behind, from `v`, when it does not fault; `next` is the next
identity. -/
def Vhd.after (v : Vhd) (w : Wsi) (next : Nat) : Reason → Option Vhd
  | .protocolInit allocOk => if allocOk then some ⟨none, none⟩ else none
  | .http h => some ⟨some ⟨next, w⟩, some ⟨next + 1, ⟨h.method, h.url⟩⟩⟩
  | .closedHttp => some ⟨none, none⟩
  | .established => some { v with client := some ⟨next, w⟩ }
  | .closed => some { v with client := none }
  | _ => some v

/-- The write, and both writeable handlers, leave the slot as it was. -/
theorem writePayload_vhd (wsi : Wsi) (ans : WriteAnswers) : (writePayload lwsPre wsi ans s).2.vhd = s.vhd := by
  unfold writePayload moreToSend
  split <;> split_ifs <;> rfl

theorem serverWriteable_vhd {wsi : Wsi} {ans : WriteAnswers} {x : Int} {s' : Server}
    (h : serverWriteable lwsPre wsi ans s = .ok (x, s')) : s'.vhd = s.vhd := by
  unfold serverWriteable at h
  repeat' split at h
  all_goals first
    | cases h
    | obtain rfl : (writePayload lwsPre wsi ans _).2 = s' := congrArg Prod.snd (Except.ok.inj h)
      exact writePayload_vhd _ _

theorem httpWriteable_vhd {wsi : Wsi} {ans : WriteAnswers} {x : Int} {s' : Server}
    (h : httpWriteable lwsPre wsi ans s = .ok (x, s')) : s'.vhd = s.vhd := by
  unfold httpWriteable at h
  repeat' split at h
  all_goals first
    | (cases h <;> rfl)
    | obtain rfl : (writePayload lwsPre wsi ans _).2 = s' := congrArg Prod.snd (Except.ok.inj h)
      exact writePayload_vhd _ _

/-- What a callback that does not fault leaves in the slot. -/
theorem callback_vhd {cb : Callback} {x : Int} {s' : Server} {v : Vhd} (hv : s.vhd = some v)
    (h : callbackWebsocketServer lwsPre cb s = .ok (x, s')) : s'.vhd = v.after cb.wsi s.next cb.reason := by
  obtain ⟨w, r⟩ := cb
  cases r with
  | httpWriteable ans => rw [httpWriteable_vhd h, hv]; rfl
  | serverWriteable ans => rw [serverWriteable_vhd h, hv]; rfl
  | http hd => cases h; simp [handleHttpNewConnection_of_vhd w hd hv, Vhd.after]
  | _ =>
    simp only [callbackWebsocketServer, hv] at h
    repeat' split at h
    all_goals (cases h <;> simp_all [Vhd.after])

/-- The reasons whose handlers dereference the client slot. -/
def Reason.usesClient : Reason → Bool
  | .httpWriteable _ | .serverWriteable _ | .receive .. => true
  | _ => false

/-- The reasons whose handlers dereference the request slot. -/
def Reason.usesRequest : Reason → Bool
  | .httpBody _ | .httpBodyCompletion => true
  | _ => false

/-- With a vhd, a callback faults only on a null client where its handler dereferences the client, a null request
where it dereferences the request, or a null payload. -/
theorem callback_fault {cb : Callback} {f : Fault} {v : Vhd} (hv : s.vhd = some v)
    (h : callbackWebsocketServer lwsPre cb s = .error f) :
    (f = .nullClient ∧ v.client = none ∧ cb.reason.usesClient) ∨
      (f = .nullRequest ∧ v.request = none ∧ cb.reason.usesRequest) ∨ f = .nullPayload := by
  obtain ⟨w, r⟩ := cb
  cases r <;> simp only [callbackWebsocketServer, httpWriteable, serverWriteable, hv] at h
  all_goals (repeat' split at h) <;> cases h <;> simp_all [Reason.usesClient, Reason.usesRequest]

/-- The client a call acts on, if any. -/
def Effect.client? : Effect → Option Client
  | .addWebSocketClient c | .clientInsert c _ | .handleMessage c | .dataToSend c => some c
  | .removeWebSocketClient c | .handleHttpRequest c _ => c
  | _ => none

/-- `s'` is `s` with calls appended, each on no client or on a client `P` allows. -/
def Server.Appends (P : Client → Prop) (s s' : Server) : Prop :=
  ∃ es, s'.effects = s.effects ++ es ∧ ∀ e ∈ es, ∀ c ∈ e.client?, P c

namespace Server.Appends

variable {P : Client → Prop} {s₁ s₂ s₃ : Server}

theorem of_effects (h : s₂.effects = s₁.effects) : s₁.Appends P s₂ :=
  ⟨[], by simp [h], by simp⟩

theorem trans (h₁ : s₁.Appends P s₂) (h₂ : s₂.Appends P s₃) : s₁.Appends P s₃ := by
  obtain ⟨es₁, e₁, h₁⟩ := h₁
  obtain ⟨es₂, e₂, h₂⟩ := h₂
  exact ⟨es₁ ++ es₂, by rw [e₂, e₁, List.append_assoc], fun e he => (List.mem_append.mp he).elim (h₁ e) (h₂ e)⟩

theorem emit {e : Effect} (h : s₁.Appends P s₂) (he : ∀ c ∈ e.client?, P c) : s₁.Appends P (s₂.emit e) :=
  h.trans ⟨[e], rfl, by simpa using he⟩

theorem setVhd {v : Vhd} (h : s₁.Appends P s₂) : s₁.Appends P (s₂.setVhd v) :=
  h.trans (of_effects rfl)

end Server.Appends

/-- The write calls no client. -/
theorem writePayload_appends (P : Client → Prop) (wsi : Wsi) (ans : WriteAnswers) :
    s.Appends P (writePayload lwsPre wsi ans s).2 := by
  unfold writePayload moreToSend
  split <;> split_ifs <;>
    repeat' first
      | exact Server.Appends.of_effects rfl
      | refine Server.Appends.emit ?_ fun c hc => ?_
      | cases hc

/-- A callback that does not fault appends its calls to the log, and calls only the slot's client and the client it
builds, `next`. -/
theorem callback_effects {cb : Callback} {x : Int} {s' : Server} {v : Vhd} (hv : s.vhd = some v)
    (h : callbackWebsocketServer lwsPre cb s = .ok (x, s')) :
    s.Appends (fun c => v.client = some c ∨ c = ⟨s.next, cb.wsi⟩) s' := by
  obtain ⟨w, r⟩ := cb
  cases r <;>
    simp only [callbackWebsocketServer, handleHttpNewConnection, httpWriteable, serverWriteable, hv] at h <;>
    repeat' split at h
  -- each branch builds `s'` from `s` by calls and slot stores, the write last: peel them off one by one
  all_goals
    first
      | cases h
      | obtain rfl : (writePayload lwsPre w _ _).2 = s' := congrArg Prod.snd (Except.ok.inj h)
        refine Server.Appends.trans ?_ (writePayload_appends _ _ _)
    repeat' first
      | exact Server.Appends.of_effects rfl
      | refine Server.Appends.emit ?_ fun c hc => ?_
      | refine Server.Appends.setVhd ?_
      | exact .inl hc
      | (cases hc <;> first | exact .inl ‹_› | exact .inr rfl)

end

end Lws
end Katla
