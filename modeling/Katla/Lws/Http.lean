import Katla.Lws.Lifecycle

/-!
# libwebsockets callbacks: one HTTP request

lws delivers a request as `LWS_CALLBACK_HTTP`, then, when it carries a body, one `HTTP_BODY` per chunk and
`HTTP_BODY_COMPLETION` (`request`, which every connection's lifecycle allows: `respects_request`). The calls it makes
are `requestEffects` (`run_request`): `handleHttpNewConnection` handles the request at once unless the
Content-Length header has text, and `HTTP_BODY_COMPLETION` handles it again. So a request is handled exactly once,
after its last chunk, exactly when the header has text just when a body comes (`handledOnce_iff`; from any server
state, `run_request_handledOnce`): a header `Content-Length: 0` leaves a request unhandled, and a body without the
header is handled twice, first before it arrives (`request_handled_by_header_text`).
-/

namespace Katla
namespace Lws

variable {lwsPre : Nat}

/-! ## Delivery -/

/-- One HTTP request as lws delivers it on connection `wsi`: `LWS_CALLBACK_HTTP`, then, when the body is not empty,
one `HTTP_BODY` per chunk and `HTTP_BODY_COMPLETION`. -/
def request (wsi : Wsi) (h : HttpHeaders) (chunks : List Bytes) : List Callback :=
  ⟨wsi, .http h⟩ ::
    if chunks = [] then [] else chunks.map (fun b => ⟨wsi, .httpBody b⟩) ++ [⟨wsi, .httpBodyCompletion⟩]

/-- Body chunks are allowed inside a body. -/
theorem respects_body (wsi : Wsi) (chunks : List Bytes) :
    ∀ phase : Wsi → Phase, (phase wsi = .http ∨ phase wsi = .body) →
      respects phase (chunks.map (fun b => ⟨wsi, .httpBody b⟩) ++ [⟨wsi, .httpBodyCompletion⟩]) = true := by
  induction chunks with
  | nil => rintro phase (h | h) <;> simp [respects, track, h, Phase.next]
  | cons b chunks ih =>
    rintro phase (h | h) <;> simpa [respects, track, h, Phase.next] using ih _ (.inr (Function.update_same _ _ _))

/-- A request respects the lifecycle of a connection that is not open, or between two requests. -/
theorem respects_request (wsi : Wsi) (h : HttpHeaders) (chunks : List Bytes) (phase : Wsi → Phase)
    (hp : phase wsi = .idle ∨ phase wsi = .done) : respects phase (request wsi h chunks) = true := by
  have hnext : (phase wsi).next (.http h) = some .http := by rcases hp with hp | hp <;> rw [hp] <;> rfl
  simp only [request, respects, track, hnext, Option.bind_some]
  split_ifs
  · rfl
  · exact respects_body wsi chunks _ (.inl (Function.update_same _ _ _))

/-! ## What a request does -/

/-- The calls one request makes: a client and a request for the connection, the request handled at once unless the
Content-Length header has text, then each chunk inserted and the request handled once more after the last. -/
def requestEffects (c : Client) (r : IncomingHttpRequest) (h : HttpHeaders) (chunks : List Bytes) : List Effect :=
  [.addWebSocketClient c, .newRequest r] ++
    (if 0 < h.contentLengthLength then [] else [.handleHttpRequest (some c) r]) ++
    if chunks = [] then [] else chunks.map (.requestInsert r) ++ [.handleHttpRequest (some c) r]

/-- Body chunks go into the request in the slot. -/
theorem run_body {s : Server} {c : Option Client} {r : IncomingHttpRequest} (wsi : Wsi) (chunks : List Bytes)
    (hv : s.vhd = some ⟨c, some r⟩) :
    run lwsPre (chunks.map (fun b => ⟨wsi, .httpBody b⟩)) s =
      .ok { s with effects := s.effects ++ chunks.map (.requestInsert r) } := by
  induction chunks generalizing s with
  | nil => simp [run, deliver]
  | cons b chunks ih =>
    rw [List.map_cons, run_cons_ok (callback_httpBody b hv), ih (s := s.emit _) hv]
    simp [Server.emit]

/-- One request on a server whose vhd is allocated. -/
theorem run_request {s : Server} {vhd : Vhd} (wsi : Wsi) (h : HttpHeaders) (chunks : List Bytes)
    (hv : s.vhd = some vhd) :
    run lwsPre (request wsi h chunks) s =
      .ok ⟨some ⟨some ⟨s.next, wsi⟩, some ⟨s.next + 1, ⟨h.method, h.url⟩⟩⟩, s.next + 2,
        s.effects ++ requestEffects ⟨s.next, wsi⟩ ⟨s.next + 1, ⟨h.method, h.url⟩⟩ h chunks⟩ := by
  rw [request, run_cons_ok (callback_http h), handleHttpNewConnection_of_vhd wsi h hv]
  by_cases hc : chunks = []
  · simp [run, deliver, requestEffects, hc]
  · rw [if_neg hc, run_append, run_body (c := some ⟨s.next, wsi⟩) (r := ⟨s.next + 1, ⟨h.method, h.url⟩⟩) wsi chunks rfl]
    simp [Except.bind, run, deliver, callbackWebsocketServer, Server.emit, requestEffects, hc]

/-! ## Handled once, after the body -/

/-- A request handled exactly once, and no chunk inserted into it after that. -/
def HandledOnce (c : Client) (r : IncomingHttpRequest) (es : List Effect) : Prop :=
  es.count (.handleHttpRequest (some c) r) = 1 ∧
    ∀ pre post, es = pre ++ .handleHttpRequest (some c) r :: post → ∀ b, .requestInsert r b ∉ post

/-- A request handled once, last: nothing is inserted into it after. -/
theorem handledOnce_of_last {c : Client} {r : IncomingHttpRequest} {xs : List Effect}
    (hx : .handleHttpRequest (some c) r ∉ xs) : HandledOnce c r (xs ++ [.handleHttpRequest (some c) r]) := by
  refine ⟨by simp [List.count_eq_zero_of_not_mem hx], fun pre post he b hb => ?_⟩
  rcases List.eq_nil_or_concat post with rfl | ⟨L, x, rfl⟩
  · exact List.not_mem_nil _ hb
  · have he' : (pre ++ .handleHttpRequest (some c) r :: L) ++ [x] = xs ++ [.handleHttpRequest (some c) r] := by
      simpa using he.symm
    exact hx ((List.append_inj' he' rfl).1 ▸ List.mem_append_right _ (List.mem_cons_self _ _))

/-- A request is handled exactly once, after its last chunk, exactly when its Content-Length header has text just
when a body follows. -/
theorem handledOnce_iff (c : Client) (r : IncomingHttpRequest) (h : HttpHeaders) (chunks : List Bytes) :
    HandledOnce c r (requestEffects c r h chunks) ↔ (0 < h.contentLengthLength ↔ chunks ≠ []) := by
  by_cases hl : 0 < h.contentLengthLength <;> by_cases hc : chunks = [] <;>
    simp only [requestEffects, hl, hc, if_true, if_false]
  · simp [HandledOnce]
  · simpa [hc] using @handledOnce_of_last c r ([.addWebSocketClient c, .newRequest r] ++ chunks.map (.requestInsert r))
      (by simp)
  · simpa using @handledOnce_of_last c r [.addWebSocketClient c, .newRequest r] (by simp)
  · simp [HandledOnce, hc]

/-- For every HTTP request the code serves, whatever the server's state: the calls it makes handle the request
exactly once, after its last chunk, exactly when its Content-Length header has text just when a body follows. -/
theorem run_request_handledOnce {s : Server} {vhd : Vhd} (wsi : Wsi) (h : HttpHeaders) (chunks : List Bytes)
    (hv : s.vhd = some vhd) :
    ∃ s' es, run lwsPre (request wsi h chunks) s = .ok s' ∧ s'.effects = s.effects ++ es ∧
      (HandledOnce ⟨s.next, wsi⟩ ⟨s.next + 1, ⟨h.method, h.url⟩⟩ es ↔ (0 < h.contentLengthLength ↔ chunks ≠ [])) :=
  ⟨_, _, run_request wsi h chunks hv, rfl, handledOnce_iff _ _ h chunks⟩

/-- A request with a Content-Length header and a two-chunk body, on a fresh server. -/
theorem run_request_handledOnce_body :
    ∃ s' es, run 16 (request 1 ⟨⟨3⟩, [47], some [50]⟩ [[120], [121]]) ⟨some ⟨none, none⟩, 0, []⟩ = .ok s' ∧
      s'.effects = [] ++ es ∧
      (HandledOnce ⟨0, 1⟩ ⟨0 + 1, ⟨⟨3⟩, [47]⟩⟩ es ↔ (0 < (⟨⟨3⟩, [47], some [50]⟩ : HttpHeaders).contentLengthLength ↔
        [[120], [121]] ≠ ([] : List Bytes))) :=
  run_request_handledOnce 1 ⟨⟨3⟩, [47], some [50]⟩ [[120], [121]] rfl

/-- A `Content-Length: 0` request without a body is never handled; a request with a body and no Content-Length
header is handled twice, first before its body. -/
theorem request_handled_by_header_text (lwsPre : Nat) :
    serve lwsPre (request 1 ⟨⟨1⟩, [47], some [48]⟩ []) =
      .ok ⟨some ⟨some ⟨0, 1⟩, some ⟨1, ⟨⟨1⟩, [47]⟩⟩⟩, 2, [.addWebSocketClient ⟨0, 1⟩, .newRequest ⟨1, ⟨⟨1⟩, [47]⟩⟩]⟩ ∧
    serve lwsPre (request 1 ⟨⟨3⟩, [47], none⟩ [[120]]) =
      .ok ⟨some ⟨some ⟨0, 1⟩, some ⟨1, ⟨⟨3⟩, [47]⟩⟩⟩, 2, [.addWebSocketClient ⟨0, 1⟩, .newRequest ⟨1, ⟨⟨3⟩, [47]⟩⟩,
        .handleHttpRequest (some ⟨0, 1⟩) ⟨1, ⟨⟨3⟩, [47]⟩⟩, .requestInsert ⟨1, ⟨⟨3⟩, [47]⟩⟩ [120],
        .handleHttpRequest (some ⟨0, 1⟩) ⟨1, ⟨⟨3⟩, [47]⟩⟩]⟩ :=
  ⟨rfl, rfl⟩

end Lws
end Katla
