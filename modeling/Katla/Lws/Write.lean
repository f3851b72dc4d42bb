import Katla.Lws.Lifecycle

/-!
# libwebsockets callbacks: the writeable handlers

Both writeable handlers end with `lws_write` and `if (result < (data.payload->size() - LWS_PRE)) return -1;`. The
right side is a `size_t`, so the `int` result is converted to `size_t` and a negative one becomes a number above any
payload size. For every payload size from `LWS_PRE` to `LWS_PRE + INT_MAX` and every `int` result `r`, a handler
whose header steps succeed returns `-1` exactly when `0 ≤ r < n - LWS_PRE` (`writePayload_eq`,
`serverWriteable_result`, `httpWriteable_result`): a failed write, `r = -1`, returns 0
(`failed_write_returns_zero`).

`HTTP_WRITEABLE` writes the headers into `bytes`, `LWS_PRE + 1000` bytes, between `start = bytes + LWS_PRE` and
`end = bytes + 1000 + data.payload->size()`. `end` is computed before the payload's null check, so with no payload
the handler dereferences it; with a one-byte body both header calls are given a window that ends one byte past
`bytes` (`http_writeable_unchecked_payload`).
-/

namespace Katla
namespace Lws

variable {lwsPre : Nat} {wsi : Wsi} {ans : WriteAnswers} {s : Server} {n : Nat}

/-- `INT_MIN` and `INT_MAX`. -/
def intMin : Int := -2 ^ 31
def intMax : Int := 2 ^ 31 - 1

/-- An `int` compared with a `size_t` up to `INT_MAX`, both taken modulo `2^64`: below it exactly when it is a
non-negative count below it. -/
theorem sizeT_lt_sizeT_iff {r m : Int} (hr : intMin ≤ r ∧ r ≤ intMax) (hm : 0 ≤ m ∧ m ≤ intMax) :
    sizeT r < sizeT m ↔ 0 ≤ r ∧ r < m := by
  unfold sizeT intMin intMax at *
  omega

/-- The write of a payload of `n` bytes, `LWS_PRE` of them in front, from `LWS_PRE` to `LWS_PRE + INT_MAX`:
`-1` exactly on a short non-negative count. -/
theorem writePayload_eq (hp : ans.data.payload = some n) (hn : lwsPre ≤ n ∧ (n : Int) ≤ lwsPre + intMax)
    (hr : intMin ≤ ans.written ∧ ans.written ≤ intMax) :
    (writePayload lwsPre wsi ans s).1 = if 0 ≤ ans.written ∧ ans.written < (n : Int) - lwsPre then -1 else 0 := by
  have hlt := sizeT_lt_sizeT_iff hr (m := (n : Int) - lwsPre) ⟨by omega, by omega⟩
  simp only [writePayload, hp]
  split_ifs <;> simp_all [moreToSend]

/-- `SERVER_WRITEABLE` with a client in the slot: the result of the write check. -/
theorem serverWriteable_result {vhd : Vhd} {c : Client} (hv : s.vhd = some vhd) (hc : vhd.client = some c)
    (hp : ans.data.payload = some n) (hn : lwsPre ≤ n ∧ (n : Int) ≤ lwsPre + intMax)
    (hr : intMin ≤ ans.written ∧ ans.written ≤ intMax) :
    (serverWriteable lwsPre wsi ans s).map Prod.fst =
      .ok (if 0 ≤ ans.written ∧ ans.written < (n : Int) - lwsPre then -1 else 0) := by
  simp only [serverWriteable, hv, hc, Except.map, writePayload_eq hp hn hr]

/-- A websocket's payload of `LWS_PRE + 4` bytes of which `lws_write` writes 2. -/
theorem serverWriteable_result_short_write :
    (serverWriteable 16 1 ⟨⟨some 20, false, true, true⟩, false, false, 2, false⟩
        ⟨some ⟨some ⟨0, 1⟩, none⟩, 1, []⟩).map Prod.fst =
      .ok (if 0 ≤ (2 : Int) ∧ (2 : Int) < ((20 : Nat) : Int) - ((16 : Nat) : Int) then -1 else 0) :=
  serverWriteable_result rfl rfl rfl (by decide) (by decide)

/-- `HTTP_WRITEABLE` with a client in the slot: 1 when a header step fails, else the result of the write check. -/
theorem httpWriteable_result {vhd : Vhd} {c : Client} (hv : s.vhd = some vhd) (hc : vhd.client = some c)
    (hp : ans.data.payload = some n) (hn : lwsPre ≤ n ∧ (n : Int) ≤ lwsPre + intMax)
    (hr : intMin ≤ ans.written ∧ ans.written ≤ intMax) :
    (httpWriteable lwsPre wsi ans s).map Prod.fst =
      .ok (if ans.headersFail ∨ ans.finalizeFail then 1
        else if 0 ≤ ans.written ∧ ans.written < (n : Int) - lwsPre then -1 else 0) := by
  simp only [httpWriteable, hv, hc, hp]
  split_ifs <;> simp_all [Except.map, writePayload_eq hp hn hr]

/-- An HTTP payload of `LWS_PRE + 4` bytes written whole. -/
theorem httpWriteable_result_whole :
    (httpWriteable 16 1 ⟨⟨some 20, false, true, true⟩, false, false, 4, false⟩
        ⟨some ⟨some ⟨0, 1⟩, some ⟨1, ⟨⟨0⟩, []⟩⟩⟩, 2, []⟩).map Prod.fst =
      .ok (if false = true ∨ false = true then 1
        else if 0 ≤ (4 : Int) ∧ (4 : Int) < ((20 : Nat) : Int) - ((16 : Nat) : Int) then -1 else 0) :=
  httpWriteable_result rfl rfl rfl (by decide) (by decide)

/-- A websocket whose `lws_write` fails with `-1` on a payload of 5 bytes: `SERVER_WRITEABLE` returns 0. -/
theorem failed_write_returns_zero (lwsPre : Nat) :
    ∃ s, serve lwsPre [⟨1, .established⟩] = .ok s ∧
      callbackWebsocketServer lwsPre
        ⟨1, .serverWriteable ⟨⟨some (lwsPre + 5), false, true, true⟩, false, false, -1, false⟩⟩ s =
        .ok (0, (s.emit (.dataToSend ⟨0, 1⟩)).emit (.lwsWrite 1 5 false true true)) := by
  refine ⟨_, rfl, ?_⟩
  simp [callbackWebsocketServer, serverWriteable, writePayload, moreToSend, sizeT, Server.init]

/-! ## The header window -/

/-- `HTTP_WRITEABLE` after an HTTP request on connection 1: with no payload the handler dereferences it and faults;
with a payload of `LWS_PRE + 1` bytes, a one-byte body, both header calls are given a window ending at
`1000 + LWS_PRE + 1`, one byte past `bytes`. -/
theorem http_writeable_unchecked_payload (lwsPre : Nat) :
    serve lwsPre [⟨1, .http ⟨⟨0⟩, [], none⟩⟩, ⟨1, .httpWriteable ⟨⟨none, false, true, true⟩, false, false, 0, false⟩⟩] =
      .error .nullPayload ∧
    serve lwsPre [⟨1, .http ⟨⟨0⟩, [], none⟩⟩,
        ⟨1, .httpWriteable ⟨⟨some (lwsPre + 1), false, true, true⟩, false, false, 1, false⟩⟩] =
      .ok ⟨some ⟨some ⟨0, 1⟩, some ⟨1, ⟨⟨0⟩, []⟩⟩⟩, 2,
        [.addWebSocketClient ⟨0, 1⟩, .newRequest ⟨1, ⟨⟨0⟩, []⟩⟩, .handleHttpRequest (some ⟨0, 1⟩) ⟨1, ⟨⟨0⟩, []⟩⟩,
          .dataToSend ⟨0, 1⟩, .addHttpHeaders 1 1 lwsPre (1000 + (lwsPre + 1)),
          .finalizeHttpHeader 1 lwsPre (1000 + (lwsPre + 1)), .lwsWrite 1 1 false true true]⟩ := by
  refine ⟨rfl, ?_⟩
  have h1 : sizeT 1 = 1 := rfl
  simp [serve_eq, run, deliver, callbackWebsocketServer, handleHttpNewConnection, httpWriteable, writePayload,
    moreToSend, h1, HttpHeaders.contentLengthLength, Server.emit, Server.setVhd]

end Lws
end Katla
