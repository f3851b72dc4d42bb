import Mathlib.Data.List.Nodup
import Katla.Lws.Callback

/-!
# libwebsockets server: the handler registry

`WebSocketServerLws::handle` and `handleWebSocket` register a callback under a key, the url and method in
`d->httpHandlers` and the url in `d->webSocketHandlers`. Both run one loop (`addHandler`): skip each entry with
another key; append the callback to the first entry with the key and return; after the loop, append a new entry
holding only the callback.

* **Lookup** (`callbacksFor_addHandler`): registering under `k` appends the callback to what `k` holds and changes
  what no other key holds; the keys gain `k` only when it is new (`keys_addHandler`).
* **Registry** (`Registers`, kept by `registers_addHandler` and `registers_foldl`): after any sequence of
  registrations from the empty list, the keys are distinct, a key has an entry exactly when some registration used
  it, and each entry holds the callbacks registered under its key, in registration order (`handlers_registry`, for
  both lists).
-/

namespace Katla
namespace Lws

/-- An entry of `d->httpHandlers` or `d->webSocketHandlers`: its key and the callbacks registered under it. -/
structure Handlers (κ α : Type) where
  key : κ
  callbacks : List α

section
variable {κ α : Type} [DecidableEq κ]

/-- The loop of `handle` and `handleWebSocket`: `continue` past an entry with another key, `push_back` onto the
first entry with key `k` and `return`; after the loop, `push_back` a new entry holding only `callback`. -/
def addHandler (k : κ) (callback : α) : List (Handlers κ α) → List (Handlers κ α)
  | [] => [⟨k, [callback]⟩]
  | it :: rest =>
    if it.key ≠ k then it :: addHandler k callback rest
    else { it with callbacks := it.callbacks ++ [callback] } :: rest

/-- The callbacks of the first entry with key `k`, none when there is no such entry. -/
def callbacksFor (k : κ) : List (Handlers κ α) → List α
  | [] => []
  | it :: rest => if it.key = k then it.callbacks else callbacksFor k rest

/-- The callbacks registered under `k` by the registrations `calls`, oldest first. -/
def registered (calls : List (κ × α)) (k : κ) : List α :=
  (calls.filter fun c => c.1 = k).map Prod.snd

/-- The keys of the entries, in order. -/
def keys (hs : List (Handlers κ α)) : List κ := hs.map Handlers.key

/-! ## One registration -/

variable {k k' : κ} {callback : α} {hs : List (Handlers κ α)}

/-- Registering under `k` appends the callback to what `k` holds and changes what no other key holds. -/
theorem callbacksFor_addHandler (k k' : κ) (callback : α) (hs : List (Handlers κ α)) :
    callbacksFor k' (addHandler k callback hs) =
      if k' = k then callbacksFor k' hs ++ [callback] else callbacksFor k' hs := by
  induction hs with
  | nil =>
    by_cases h : k' = k
    · subst h; simp [addHandler, callbacksFor]
    · simp [addHandler, callbacksFor, h, Ne.symm h]
  | cons it rest ih =>
    by_cases hk : it.key = k
    · subst hk
      by_cases h : k' = it.key
      · subst h; simp [addHandler, callbacksFor]
      · simp [addHandler, callbacksFor, h, Ne.symm h]
    · by_cases h : it.key = k'
      · subst h; simp [addHandler, callbacksFor, hk, Ne.symm hk]
      · simp [addHandler, callbacksFor, hk, h, ih]

/-- Registering under `k` adds `k` to the keys, at the end, only when it is new. -/
theorem keys_addHandler (k : κ) (callback : α) (hs : List (Handlers κ α)) :
    keys (addHandler k callback hs) = if k ∈ keys hs then keys hs else keys hs ++ [k] := by
  induction hs with
  | nil => rfl
  | cons it rest ih =>
    by_cases hk : it.key = k
    · simp [addHandler, keys, hk]
    · simp only [keys] at ih
      simp [addHandler, keys, hk, ih, Ne.symm hk, apply_ite]

/-- With distinct keys, an entry holds what its key holds. -/
theorem callbacksFor_of_mem {h : Handlers κ α} (hnd : (keys hs).Nodup) (hh : h ∈ hs) :
    callbacksFor h.key hs = h.callbacks := by
  induction hs with
  | nil => cases hh
  | cons it rest ih =>
    simp only [keys, List.map_cons, List.nodup_cons, List.mem_map] at hnd
    rcases List.mem_cons.mp hh with rfl | hh
    · simp [callbacksFor]
    · have hne : it.key ≠ h.key := fun he => hnd.1 ⟨h, hh, he.symm⟩
      simp [callbacksFor, hne, ih hnd.2 hh]

theorem callbacksFor_of_not_mem (hk : k ∉ keys hs) : callbacksFor k hs = [] := by
  induction hs with
  | nil => rfl
  | cons it rest ih =>
    simp only [keys, List.map_cons, List.mem_cons, not_or] at hk
    simp [callbacksFor, Ne.symm hk.1, ih hk.2]

theorem registered_of_not_mem {calls : List (κ × α)} (hk : k ∉ calls.map Prod.fst) : registered calls k = [] := by
  simp only [registered, List.map_eq_nil_iff, List.filter_eq_nil_iff, decide_eq_true_eq]
  exact fun c hc he => hk (List.mem_map.mpr ⟨c, hc, he⟩)

theorem registered_snoc (calls : List (κ × α)) (k k' : κ) (callback : α) :
    registered (calls ++ [(k, callback)]) k' =
      if k' = k then registered calls k' ++ [callback] else registered calls k' := by
  by_cases h : k' = k <;> simp [registered, h, eq_comm]

/-! ## Every sequence of registrations -/

/-- What the entries hold after the registrations `calls`, oldest first: one entry per key, an entry exactly for the
keys some registration used, and under each key the callbacks registered under it, in order. -/
structure Registers (calls : List (κ × α)) (hs : List (Handlers κ α)) : Prop where
  nodup : (keys hs).Nodup
  mem_keys : ∀ k, k ∈ keys hs ↔ k ∈ calls.map Prod.fst
  callbacks : ∀ h ∈ hs, h.callbacks = registered calls h.key

theorem registers_nil : Registers ([] : List (κ × α)) [] :=
  ⟨List.nodup_nil, by simp [keys], by simp⟩

/-- What a key holds is what was registered under it, present or not. -/
theorem Registers.callbacksFor_eq {calls : List (κ × α)} (h : Registers calls hs) (k : κ) :
    callbacksFor k hs = registered calls k := by
  by_cases hk : k ∈ keys hs
  · obtain ⟨e, he, rfl⟩ := List.mem_map.mp hk
    rw [callbacksFor_of_mem h.nodup he, h.callbacks e he]
  · rw [callbacksFor_of_not_mem hk, registered_of_not_mem fun hc => hk ((h.mem_keys k).mpr hc)]

/-- One registration keeps the registry. -/
theorem registers_addHandler {calls : List (κ × α)} (h : Registers calls hs) (k : κ) (callback : α) :
    Registers (calls ++ [(k, callback)]) (addHandler k callback hs) := by
  have hkeys := keys_addHandler k callback hs
  have hnd : (keys (addHandler k callback hs)).Nodup := by
    rw [hkeys]
    split_ifs with hk
    · exact h.nodup
    · exact h.nodup.append (List.nodup_singleton k) (List.disjoint_singleton.mpr hk)
  refine ⟨hnd, fun k' => ?_, fun e he => ?_⟩
  · rw [hkeys]
    split_ifs with hk
    · rw [h.mem_keys] at hk
      simp only [h.mem_keys, List.map_append, List.map_cons, List.map_nil, List.mem_append, List.mem_singleton]
      exact ⟨.inl, fun h' => h'.elim id fun e => e ▸ hk⟩
    · simp [h.mem_keys]
  · rw [← callbacksFor_of_mem hnd he, callbacksFor_addHandler, registered_snoc, h.callbacksFor_eq]

/-- Registrations one after another keep the registry. -/
theorem registers_foldl : ∀ (calls : List (κ × α)) {pre : List (κ × α)} {hs : List (Handlers κ α)},
    Registers pre hs → Registers (pre ++ calls) (calls.foldl (fun hs c => addHandler c.1 c.2 hs) hs)
  | [], _, _, h => by simpa using h
  | c :: calls, pre, hs, h => by
    simpa using registers_foldl calls (registers_addHandler h c.1 c.2)

end

/-! ## The two registries -/

/-- `WebSocketServerLws::handle`: the entries of `d->httpHandlers` are keyed by url and method, and the loop skips an
entry when `it.url != url || it.method != method`. -/
def handle {α : Type} (method : HttpMethod) (url : Bytes) (callback : α)
    (httpHandlers : List (Handlers (Bytes × HttpMethod) α)) : List (Handlers (Bytes × HttpMethod) α) :=
  addHandler (url, method) callback httpHandlers

/-- `WebSocketServerLws::handleWebSocket`: the entries of `d->webSocketHandlers` are keyed by url, and the loop skips
an entry when `it.url != url`. -/
def handleWebSocket {α : Type} (url : Bytes) (callback : α) (webSocketHandlers : List (Handlers Bytes α)) :
    List (Handlers Bytes α) :=
  addHandler url callback webSocketHandlers

/-- For every sequence of `handle(method, url, cb)` calls, `d->httpHandlers` holds one entry per url and method
used, none for the others, and under each the callbacks registered for it, in registration order; the same for every
sequence of `handleWebSocket(url, cb)` calls and `d->webSocketHandlers`, keyed by url. -/
theorem handlers_registry {α β : Type} (httpCalls : List (HttpMethod × Bytes × α)) (wsCalls : List (Bytes × β)) :
    Registers (httpCalls.map fun c => ((c.2.1, c.1), c.2.2))
        (httpCalls.foldl (fun hs c => handle c.1 c.2.1 c.2.2 hs) []) ∧
      Registers wsCalls (wsCalls.foldl (fun hs c => handleWebSocket c.1 c.2 hs) []) := by
  constructor
  · have := registers_foldl (httpCalls.map fun c => ((c.2.1, c.1), c.2.2)) registers_nil
    simpa [List.foldl_map, handle] using this
  · simpa [handleWebSocket] using registers_foldl wsCalls registers_nil

end Lws
end Katla
