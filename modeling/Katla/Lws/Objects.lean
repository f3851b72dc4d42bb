import Mathlib.Data.List.Nodup
import Katla.Lws.Routing

/-!
# libwebsockets callbacks: the lives of clients and requests

The callback adds clients to the server's registry and removes them, creates `IncomingHttpRequest`s and deletes
them, and calls both in between. A call is sound when every client and request it takes is live: added or created,
and not removed or deleted since; so no null client is taken, nothing is used or freed after it was freed, and
nothing is freed twice (`Sound`). The calls to lws take no object.

* **One callback** (`callback_objCalls`): the calls a callback makes on objects, read off the
  reason and the slot it sees, and the identities it uses up.
* **The per-session design** (`ObjectsOk`, kept by `objectsOk_step`): the design, not the code, gives each
  connection its own slot. Every interleaving of any number of connections that respects their lifecycles makes only
  sound calls there (`sessions_sound`). With no second HTTP request on a keep-alive connection every live object also
  sits in a slot (`NoLeak`), so once every connection is closed each client added was removed exactly once and each
  request created deleted exactly once (`sessions_no_leak`).
* **The code** (`solo_sound`, `solo_no_leak`): with connections one at a time the code makes the design's calls
  (`serve_eq_sessions`), so both results carry over to it: only sound calls, and no leak but what a keep-alive
  request overwrites. With two connections at once it does neither (`close_then_receive_on_other_faults`,
  `closes_remove_wrong_objects`).
-/

namespace Katla
namespace Lws

/-! ## The objects a call takes -/

namespace Effect

/-- A call on the registry, a client or a request, not on lws. -/
def onObject : Effect → Bool
  | .addHttpHeaders .. | .finalizeHttpHeader .. | .lwsWrite .. | .callbackOnWritable _ => false
  | _ => true

/-- The client a call adds to the registry. -/
def adds? : Effect → Option Client
  | .addWebSocketClient c => some c
  | _ => none

/-- The client a call removes from the registry; a null one removes none. -/
def removes? : Effect → Option Client
  | .removeWebSocketClient c => c
  | _ => none

/-- The request a call creates. -/
def creates? : Effect → Option IncomingHttpRequest
  | .newRequest r => some r
  | _ => none

/-- The request a call deletes. -/
def deletes? : Effect → Option IncomingHttpRequest
  | .deleteRequest r => some r
  | _ => none

/-- The client pointer a call takes, `none` inside for a null one: every call on a client but its add. -/
def clientArg? : Effect → Option (Option Client)
  | .removeWebSocketClient c | .handleHttpRequest c _ => some c
  | .clientInsert c _ | .handleMessage c | .dataToSend c => some (some c)
  | _ => none

/-- The request a call takes: every call on a request but its creation. -/
def requestArg? : Effect → Option IncomingHttpRequest
  | .requestInsert r _ | .handleHttpRequest _ r | .deleteRequest r => some r
  | _ => none

end Effect

/-- The clients a log adds. -/
def added (log : List Effect) : List Client := log.filterMap Effect.adds?

/-- The clients a log removes. -/
def removed (log : List Effect) : List Client := log.filterMap Effect.removes?

/-- The requests a log creates. -/
def created (log : List Effect) : List IncomingHttpRequest := log.filterMap Effect.creates?

/-- The requests a log deletes. -/
def deleted (log : List Effect) : List IncomingHttpRequest := log.filterMap Effect.deletes?

/-- A client added and not removed since. -/
def LiveClient (log : List Effect) (c : Client) : Prop := c ∈ added log ∧ c ∉ removed log

/-- A request created and not deleted since. -/
def LiveRequest (log : List Effect) (r : IncomingHttpRequest) : Prop := r ∈ created log ∧ r ∉ deleted log

/-- A call made after `log` takes only live objects: a client pointer that is not null and names a live client, and a
live request. -/
def CallOk (log : List Effect) (e : Effect) : Prop :=
  (∀ oc ∈ e.clientArg?, ∃ c, oc = some c ∧ LiveClient log c) ∧ ∀ r ∈ e.requestArg?, LiveRequest log r

/-- Each call of `es`, made after `log` and the calls of `es` before it, is fine by `ok`. -/
def EachAfter {α : Type} (ok : List α → α → Prop) : List α → List α → Prop
  | _, [] => True
  | log, e :: es => ok log e ∧ EachAfter ok (log ++ [e]) es

/-- Each call on an object, in the order of the log, takes only objects live when it is made. -/
def Sound (log : List Effect) : Prop := EachAfter CallOk [] (log.filter Effect.onObject)

/-! ## Logs -/

section
variable {log log' es es' : List Effect}

/-- The cons law of a log's `filterMap` projection, stated once for the ledgers of this module and of the server's
contexts. -/
theorem filterMap_cons_toList {α β : Type} (f : α → Option β) (a : α) (l : List α) :
    (a :: l).filterMap f = (f a).toList ++ l.filterMap f := by
  simp only [List.filterMap_eq_flatMap_toList, List.flatMap_cons]

theorem eachAfter_append {α : Type} {ok : List α → α → Prop} {log es es' : List α} :
    EachAfter ok log (es ++ es') ↔ EachAfter ok log es ∧ EachAfter ok (log ++ es) es' := by
  induction es generalizing log with
  | nil => simp [EachAfter]
  | cons e es ih => simp [EachAfter, ih, and_assoc]

/-- A log whose calls on objects gain `es`. -/
theorem sound_of_filter (h : log'.filter Effect.onObject = log.filter Effect.onObject ++ es) :
    Sound log' ↔ Sound log ∧ EachAfter CallOk (log.filter Effect.onObject) es := by
  rw [Sound, h, eachAfter_append]
  rfl

/-- The calls on lws add, remove, create and delete nothing. -/
theorem filterMap_filter_onObject {α : Type} (f : Effect → Option α)
    (hf : ∀ e, e.onObject = false → f e = none) : (log.filter Effect.onObject).filterMap f = log.filterMap f := by
  induction log with
  | nil => rfl
  | cons e log ih =>
    cases he : e.onObject
    · simp [List.filter_cons, he, ih, hf e he]
    · simp [List.filter_cons, he, List.filterMap_cons, ih]

/-- A call on lws adds, removes, creates and deletes nothing. -/
theorem Effect.ledger_of_onObject_false {e : Effect} (he : e.onObject = false) :
    e.adds? = none ∧ e.removes? = none ∧ e.creates? = none ∧ e.deletes? = none := by
  cases e <;> first | exact ⟨rfl, rfl, rfl, rfl⟩ | cases he

@[simp] theorem added_filter : added (log.filter Effect.onObject) = added log :=
  filterMap_filter_onObject _ fun _ he => (Effect.ledger_of_onObject_false he).1

@[simp] theorem removed_filter : removed (log.filter Effect.onObject) = removed log :=
  filterMap_filter_onObject _ fun _ he => (Effect.ledger_of_onObject_false he).2.1

@[simp] theorem created_filter : created (log.filter Effect.onObject) = created log :=
  filterMap_filter_onObject _ fun _ he => (Effect.ledger_of_onObject_false he).2.2.1

@[simp] theorem deleted_filter : deleted (log.filter Effect.onObject) = deleted log :=
  filterMap_filter_onObject _ fun _ he => (Effect.ledger_of_onObject_false he).2.2.2

@[simp] theorem added_append : added (log ++ log') = added log ++ added log' := List.filterMap_append ..

@[simp] theorem removed_append : removed (log ++ log') = removed log ++ removed log' := List.filterMap_append ..

@[simp] theorem created_append : created (log ++ log') = created log ++ created log' := List.filterMap_append ..

@[simp] theorem deleted_append : deleted (log ++ log') = deleted log ++ deleted log' := List.filterMap_append ..

@[simp] theorem added_nil : added [] = [] := rfl

@[simp] theorem removed_nil : removed [] = [] := rfl

@[simp] theorem created_nil : created [] = [] := rfl

@[simp] theorem deleted_nil : deleted [] = [] := rfl

@[simp] theorem added_cons (e : Effect) : added (e :: log) = e.adds?.toList ++ added log :=
  filterMap_cons_toList ..

@[simp] theorem removed_cons (e : Effect) : removed (e :: log) = e.removes?.toList ++ removed log :=
  filterMap_cons_toList ..

@[simp] theorem created_cons (e : Effect) : created (e :: log) = e.creates?.toList ++ created log :=
  filterMap_cons_toList ..

@[simp] theorem deleted_cons (e : Effect) : deleted (e :: log) = e.deletes?.toList ++ deleted log :=
  filterMap_cons_toList ..

/-- A sound call removes only a live client. -/
theorem CallOk.removes_live {e : Effect} {c : Client} (h : CallOk log e) (hr : e.removes? = some c) :
    LiveClient log c := by
  cases e <;> simp only [Effect.removes?, reduceCtorEq] at hr
  subst hr
  obtain ⟨c', hc', hl⟩ := h.1 _ rfl
  cases hc'
  exact hl

/-- A sound call deletes only a live request. -/
theorem CallOk.deletes_live {e : Effect} {rq : IncomingHttpRequest} (h : CallOk log e) (hd : e.deletes? = some rq) :
    LiveRequest log rq := by
  cases e <;> simp only [Effect.deletes?, reduceCtorEq, Option.some.injEq] at hd
  subst hd
  exact h.2 _ rfl

/-- A sound log removes only clients added before. -/
theorem EachAfter.removed_sub {c : Client} (h : EachAfter CallOk log es) (hc : c ∈ removed es) :
    c ∈ added (log ++ es) := by
  induction es generalizing log with
  | nil => cases hc
  | cons e es ih =>
    rw [removed_cons, List.mem_append] at hc
    rcases hc with hc | hc
    · simp [(h.1.removes_live (Option.mem_toList.mp hc)).1]
    · simpa using ih h.2 hc

/-- A sound log deletes only requests created before. -/
theorem EachAfter.deleted_sub {rq : IncomingHttpRequest} (h : EachAfter CallOk log es) (hq : rq ∈ deleted es) :
    rq ∈ created (log ++ es) := by
  induction es generalizing log with
  | nil => cases hq
  | cons e es ih =>
    rw [deleted_cons, List.mem_append] at hq
    rcases hq with hq | hq
    · simp [(h.1.deletes_live (Option.mem_toList.mp hq)).1]
    · simpa using ih h.2 hq

/-- A sound log removes no client twice. -/
theorem EachAfter.removed_nodup (h : EachAfter CallOk log es) (hl : (removed log).Nodup) :
    (removed (log ++ es)).Nodup := by
  induction es generalizing log with
  | nil => simpa using hl
  | cons e es ih =>
    rw [← List.singleton_append, ← List.append_assoc]
    refine ih h.2 ?_
    cases hr : e.removes? with
    | none => simpa [hr] using hl
    | some c =>
      have hc := (h.1.removes_live hr).2
      simpa [hr] using hl.append (List.nodup_singleton c) (List.disjoint_singleton.mpr hc)

/-- A sound log deletes no request twice. -/
theorem EachAfter.deleted_nodup (h : EachAfter CallOk log es) (hl : (deleted log).Nodup) :
    (deleted (log ++ es)).Nodup := by
  induction es generalizing log with
  | nil => simpa using hl
  | cons e es ih =>
    rw [← List.singleton_append, ← List.append_assoc]
    refine ih h.2 ?_
    cases hd : e.deletes? with
    | none => simpa [hd] using hl
    | some rq =>
      have hq := (h.1.deletes_live hd).2
      simpa [hd] using hl.append (List.nodup_singleton rq) (List.disjoint_singleton.mpr hq)

/-- A log whose calls on objects gain `es` gains the objects of `es`. -/
theorem ledger_of_filter (h : log'.filter Effect.onObject = log.filter Effect.onObject ++ es) :
    added log' = added log ++ added es ∧ removed log' = removed log ++ removed es ∧
      created log' = created log ++ created es ∧ deleted log' = deleted log ++ deleted es := by
  refine ⟨?_, ?_, ?_, ?_⟩
  · rw [← added_filter, h, added_append, added_filter]
  · rw [← removed_filter, h, removed_append, removed_filter]
  · rw [← created_filter, h, created_append, created_filter]
  · rw [← deleted_filter, h, deleted_append, deleted_filter]

end

/-! ## One callback -/

/-- The calls on objects a callback for connection `w` makes, from the slot `v`, when it does not fault; `next` is
the next identity. -/
def Vhd.objCalls (v : Vhd) (w : Wsi) (next : Nat) : Reason → List Effect
  | .http h =>
    [.addWebSocketClient ⟨next, w⟩, .newRequest ⟨next + 1, ⟨h.method, h.url⟩⟩] ++
      if 0 < h.contentLengthLength then [] else [.handleHttpRequest (some ⟨next, w⟩) ⟨next + 1, ⟨h.method, h.url⟩⟩]
  | .httpBody b => v.request.toList.map (.requestInsert · b)
  | .httpBodyCompletion => v.request.toList.map (.handleHttpRequest v.client ·)
  | .httpWriteable _ | .serverWriteable _ => v.client.toList.map .dataToSend
  | .closedHttp => v.request.toList.map .deleteRequest ++ [.removeWebSocketClient v.client]
  | .established => [.addWebSocketClient ⟨next, w⟩]
  | .receive b isFinal =>
    v.client.toList.map (.clientInsert · b) ++ if isFinal then v.client.toList.map .handleMessage else []
  | .closed => [.removeWebSocketClient v.client]
  | .protocolInit _ | .other _ => []

/-- The callbacks that hand their slot's client itself, null or not, to a call. -/
def Reason.takesSlotClient : Reason → Bool
  | .httpBodyCompletion | .closedHttp | .closed => true
  | _ => false

/-- The identities a callback uses up. -/
def Reason.fresh : Reason → Nat
  | .http _ => 2
  | .established => 1
  | _ => 0

section
variable {lwsPre : Nat} {s s' : Server} {cb : Callback} {x : Int} {v : Vhd}

/-- The write calls only lws. -/
theorem writePayload_objects (wsi : Wsi) (ans : WriteAnswers) :
    (writePayload lwsPre wsi ans s).2.effects.filter Effect.onObject = s.effects.filter Effect.onObject := by
  unfold writePayload moreToSend
  split <;> (try split_ifs) <;> simp [List.filter_append, Effect.onObject]

theorem writePayload_next (wsi : Wsi) (ans : WriteAnswers) : (writePayload lwsPre wsi ans s).2.next = s.next := by
  unfold writePayload moreToSend
  split <;> (try split_ifs) <;> rfl

/-- The calls on objects a callback makes, and the identities it uses up. -/
theorem callback_objCalls (hv : s.vhd = some v) (h : callbackWebsocketServer lwsPre cb s = .ok (x, s')) :
    s'.effects.filter Effect.onObject = s.effects.filter Effect.onObject ++ v.objCalls cb.wsi s.next cb.reason ∧
      s'.next = s.next + cb.reason.fresh := by
  obtain ⟨w, r⟩ := cb
  cases r with
  | http hd =>
    rw [callback_http, handleHttpNewConnection_of_vhd w hd hv] at h
    cases h
    refine ⟨?_, rfl⟩
    split_ifs <;> simp_all [Vhd.objCalls, List.filter_append, Effect.onObject]
  | _ =>
    simp only [callbackWebsocketServer, httpWriteable, serverWriteable, hv] at h
    repeat' split at h
    all_goals
      first
        | cases h
        | obtain rfl : (writePayload lwsPre w _ _).2 = s' := congrArg Prod.snd (Except.ok.inj h)
          rw [writePayload_objects, writePayload_next]
    all_goals simp_all [Vhd.objCalls, Reason.fresh, List.filter_append, Effect.onObject]

end

/-! ## The calls of one callback -/

section
variable {v v' : Vhd} {w : Wsi} {n : Nat} {r : Reason} {log : List Effect} {p q : Phase}

/-- A callback adds only the client it builds, with the next identity, which it uses up. -/
theorem objCalls_added {c : Client} (h : c ∈ added (v.objCalls w n r)) : c = ⟨n, w⟩ ∧ 0 < r.fresh := by
  cases r <;> simp only [Vhd.objCalls] at h <;> (try split_ifs at h) <;>
    simp_all [added, Effect.adds?, Reason.fresh, List.mem_filterMap]

/-- A callback creates only the request it builds, with the identity after the next, which it uses up. -/
theorem objCalls_created {rq : IncomingHttpRequest} (h : rq ∈ created (v.objCalls w n r)) :
    rq.id = n + 1 ∧ 1 < r.fresh := by
  cases r <;> simp only [Vhd.objCalls] at h <;> (try split_ifs at h) <;>
    simp_all [created, Effect.creates?, Reason.fresh, List.mem_filterMap]

/-- A callback removes only its slot's client, and only when it closes. -/
theorem objCalls_removed {c : Client} (h : c ∈ removed (v.objCalls w n r)) : v.client = some c ∧ r.closes := by
  cases r <;> simp only [Vhd.objCalls] at h <;> (try split_ifs at h) <;>
    simp_all [removed, Effect.removes?, Reason.closes, List.mem_filterMap]

/-- A callback deletes only its slot's request, and only when it closes. -/
theorem objCalls_deleted {rq : IncomingHttpRequest} (h : rq ∈ deleted (v.objCalls w n r)) :
    v.request = some rq ∧ r.closes := by
  cases r <;> simp only [Vhd.objCalls] at h <;> (try split_ifs at h) <;>
    simp_all [deleted, Effect.deletes?, Reason.closes, List.mem_filterMap]

/-- A slot's client after a callback is the one it had or the one the callback added. -/
theorem Vhd.after_client (h : v.after w n r = some v') {c : Client} (hc : c ∈ v'.client) :
    c ∈ v.client ∨ c ∈ added (v.objCalls w n r) := by
  cases r <;> simp only [Vhd.after] at h <;> (try split_ifs at h) <;> cases h <;>
    simp_all [Vhd.objCalls, Effect.adds?]

/-- A slot's request after a callback is the one it had or the one the callback created. -/
theorem Vhd.after_request (h : v.after w n r = some v') {rq : IncomingHttpRequest} (hq : rq ∈ v'.request) :
    rq ∈ v.request ∨ rq ∈ created (v.objCalls w n r) := by
  cases r <;> simp only [Vhd.after] at h <;> (try split_ifs at h) <;> cases h <;>
    simp_all [Vhd.objCalls, Effect.creates?]

/-- Where a callback that follows its connection's lifecycle hands on its slot's client, the slot holds one. -/
theorem Phase.slotOk_takes (hv : q.SlotOk v) (hp : q.next r = some p) (ht : r.takesSlotClient) : v.client.isSome := by
  cases q <;> cases r <;> cases hp <;> simp_all [Phase.SlotOk, Reason.takesSlotClient]

/-- The calls of a callback take only live objects, when the slot's objects are live, the slot holds a client where
the callback hands it on, and no identity from `n` on was freed. -/
theorem objCalls_sound (ht : r.takesSlotClient → v.client.isSome)
    (hc : ∀ c ∈ v.client, LiveClient log c) (hq : ∀ rq ∈ v.request, LiveRequest log rq)
    (hfc : ∀ c ∈ removed log, c.id < n) (hfr : ∀ rq ∈ deleted log, rq.id < n) :
    EachAfter CallOk log (v.objCalls w n r) := by
  have h1 : (⟨n, w⟩ : Client) ∉ removed log := fun h => (hfc _ h).false
  have h2 : ∀ m, (⟨n + 1, m⟩ : IncomingHttpRequest) ∉ deleted log :=
    fun m h => Nat.lt_irrefl n (Nat.lt_of_succ_lt (hfr _ h))
  -- the slot's four shapes against every reason
  obtain ⟨_ | c, _ | rq⟩ := v <;> simp only [Option.mem_def, Option.some.injEq, forall_eq', reduceCtorEq,
    false_imp_iff, imp_false, forall_const, LiveClient, LiveRequest] at hc hq ht <;>
  cases r <;> simp only [Vhd.objCalls] <;> (try split_ifs) <;>
    simp [Reason.takesSlotClient, EachAfter, CallOk, LiveClient, LiveRequest, Effect.clientArg?,
      Effect.requestArg?, Effect.adds?, Effect.removes?, Effect.creates?, Effect.deletes?, h1, h2, hc, hq] at ht ⊢

end

/-! ## The per-session design -/

/-- The design's object ledger: its calls so far are sound, no identity from `next` on is used, every slot's client
and request is live, and no two connections hold the same request. -/
structure ObjectsOk (t : Sessions) : Prop where
  sound : Sound t.effects
  freshClient : ∀ c ∈ added t.effects, c.id < t.next
  freshRequest : ∀ rq ∈ created t.effects, rq.id < t.next
  liveClient : ∀ w, ∀ c ∈ (t.slot w).client, LiveClient t.effects c
  liveRequest : ∀ w, ∀ rq ∈ (t.slot w).request, LiveRequest t.effects rq
  requestOwner : ∀ w w', ∀ rq ∈ (t.slot w).request, rq ∈ (t.slot w').request → w = w'

theorem objectsOk_init : ObjectsOk Sessions.init :=
  ⟨trivial, fun _ h => (by cases h), fun _ h => (by cases h), fun _ _ h => (by cases h), fun _ _ h => (by cases h),
    fun _ _ _ h => (by cases h)⟩

section
variable {lwsPre : Nat} {cb : Callback} {t t' : Sessions} {x : Int} {ph : Wsi → Phase} {p : Phase}

theorem ObjectsOk.removed_lt (h : ObjectsOk t) {c : Client} (hc : c ∈ removed t.effects) : c.id < t.next :=
  h.freshClient c (by simpa using h.sound.removed_sub (by simpa using hc))

theorem ObjectsOk.deleted_lt (h : ObjectsOk t) {rq : IncomingHttpRequest} (hq : rq ∈ deleted t.effects) :
    rq.id < t.next :=
  h.freshRequest rq (by simpa using h.sound.deleted_sub (by simpa using hq))

/-- What one callback of the design does: it replaces its connection's slot by the one `Vhd.after` gives, uses up
`Reason.fresh` identities and makes the calls `Vhd.objCalls` gives. -/
theorem sessionCallback_objCalls (ho : SessionsOk ph t) (hp : (ph cb.wsi).next cb.reason = some p)
    (hc : sessionCallback lwsPre cb t = .ok (x, t')) :
    ∃ v', (t.slot cb.wsi).after cb.wsi t.next cb.reason = some v' ∧ t'.slot = Function.update t.slot cb.wsi v' ∧
      t'.next = t.next + cb.reason.fresh ∧
      t'.effects.filter Effect.onObject =
        t.effects.filter Effect.onObject ++ (t.slot cb.wsi).objCalls cb.wsi t.next cb.reason := by
  obtain ⟨s', hs', rfl⟩ := sessionCallback_ok hc
  obtain ⟨v', hv', -⟩ := Phase.slotOk_after cb.wsi t.next (ho.slot cb.wsi) hp
  have hvd : s'.vhd = some v' := (callback_vhd rfl hs').trans hv'
  exact ⟨v', hv', by simp [Sessions.store, hvd], (callback_objCalls rfl hs').2, (callback_objCalls rfl hs').1⟩

/-- One callback that follows its connection's lifecycle keeps the ledger. -/
theorem objectsOk_step (ho : SessionsOk ph t) (h : ObjectsOk t) (hp : (ph cb.wsi).next cb.reason = some p)
    (hc : sessionCallback lwsPre cb t = .ok (x, t')) : ObjectsOk t' := by
  obtain ⟨v', hv', hslot, hnext, hf⟩ := sessionCallback_objCalls ho hp hc
  obtain ⟨ha, hr, hcr, hd⟩ := ledger_of_filter hf
  obtain ⟨w, r⟩ := cb
  simp only at hv' hslot hnext hf ha hr hcr hd hp
  set v := t.slot w
  -- a close zeroes the slot; any other callback frees nothing
  have hzero : r.closes → v' = ⟨none, none⟩ := fun hcl =>
    Option.some.inj (hv'.symm.trans (Phase.after_closes (ho.slot w) hp hcl w t.next).2)
  have hkeepC : ¬r.closes → removed (v.objCalls w t.next r) = [] := fun hcl =>
    List.eq_nil_iff_forall_not_mem.mpr fun c hc => hcl (objCalls_removed hc).2
  have hkeepR : ¬r.closes → deleted (v.objCalls w t.next r) = [] := fun hcl =>
    List.eq_nil_iff_forall_not_mem.mpr fun rq hq => hcl (objCalls_deleted hq).2
  -- another connection's objects are not the ones this callback frees
  have hotherC : ∀ w', w' ≠ w → ∀ c ∈ (t.slot w').client, c ∉ removed (v.objCalls w t.next r) := fun w' hw c hc hr =>
    hw ((ho.owner w' c hc).symm.trans (ho.owner w c (objCalls_removed hr).1))
  have hotherR : ∀ w', w' ≠ w → ∀ rq ∈ (t.slot w').request, rq ∉ deleted (v.objCalls w t.next r) :=
    fun w' hw rq hq hd => hw (h.requestOwner w' w rq hq (objCalls_deleted hd).1)
  -- the request a callback leaves in its slot is held by no other connection
  have hnewR : ∀ w', w' ≠ w → ∀ rq ∈ v'.request, rq ∉ (t.slot w').request := fun w' hw rq hq hq' => by
    rcases Vhd.after_request hv' hq with hq | hq
    · exact hw (h.requestOwner w' w rq hq' hq)
    · have := h.freshRequest rq (h.liveRequest w' rq hq').1
      have := (objCalls_created hq).1
      omega
  refine ⟨(sound_of_filter hf).mpr ⟨h.sound, objCalls_sound (Phase.slotOk_takes (ho.slot w) hp)
    (fun c hc => by simpa [LiveClient] using h.liveClient w c hc)
    (fun rq hq => by simpa [LiveRequest] using h.liveRequest w rq hq)
    (fun c hc => h.removed_lt (by simpa using hc)) (fun rq hq => h.deleted_lt (by simpa using hq))⟩,
    fun c hc' => ?_, fun rq hq' => ?_, fun w' c hc' => ?_, fun w' rq hq' => ?_, fun w₁ w₂ rq h₁ h₂ => ?_⟩
  · rw [ha, List.mem_append] at hc'
    rw [hnext]
    rcases hc' with hc | hc
    · exact Nat.lt_add_right _ (h.freshClient c hc)
    · obtain ⟨rfl, hpos⟩ := objCalls_added hc
      exact Nat.lt_add_of_pos_right hpos
  · rw [hcr, List.mem_append] at hq'
    rw [hnext]
    rcases hq' with hq | hq
    · exact Nat.lt_add_right _ (h.freshRequest rq hq)
    · obtain ⟨hid, hpos⟩ := objCalls_created hq
      omega
  · rw [LiveClient, ha, hr]
    by_cases hw : w' = w
    · subst hw
      rw [hslot, Function.update_same] at hc'
      by_cases hcl : r.closes
      · rw [hzero hcl] at hc'; cases hc'
      rw [hkeepC hcl, List.append_nil, List.mem_append]
      rcases Vhd.after_client hv' hc' with hc | hc
      · exact ⟨.inl (h.liveClient w' c hc).1, (h.liveClient w' c hc).2⟩
      · refine ⟨.inr hc, fun hr => ?_⟩
        have := h.removed_lt hr
        rw [(objCalls_added hc).1] at this
        exact Nat.lt_irrefl _ this
    · rw [hslot, Function.update_noteq hw] at hc'
      have hl := h.liveClient w' c hc'
      exact ⟨List.mem_append_left _ hl.1, by simp [hl.2, hotherC w' hw c hc']⟩
  · rw [LiveRequest, hcr, hd]
    by_cases hw : w' = w
    · subst hw
      rw [hslot, Function.update_same] at hq'
      by_cases hcl : r.closes
      · rw [hzero hcl] at hq'; cases hq'
      rw [hkeepR hcl, List.append_nil, List.mem_append]
      rcases Vhd.after_request hv' hq' with hq | hq
      · exact ⟨.inl (h.liveRequest w' rq hq).1, (h.liveRequest w' rq hq).2⟩
      · refine ⟨.inr hq, fun hd => ?_⟩
        have := h.deleted_lt hd
        have := (objCalls_created hq).1
        omega
    · rw [hslot, Function.update_noteq hw] at hq'
      have hl := h.liveRequest w' rq hq'
      exact ⟨List.mem_append_left _ hl.1, by simp [hl.2, hotherR w' hw rq hq']⟩
  · rw [hslot] at h₁ h₂
    by_cases hw₁ : w₁ = w <;> by_cases hw₂ : w₂ = w
    · rw [hw₁, hw₂]
    · subst hw₁; rw [Function.update_same] at h₁; rw [Function.update_noteq hw₂] at h₂
      exact absurd h₂ (hnewR w₂ hw₂ rq h₁)
    · subst hw₂; rw [Function.update_same] at h₂; rw [Function.update_noteq hw₁] at h₁
      exact absurd h₁ (hnewR w₁ hw₁ rq h₂)
    · rw [Function.update_noteq hw₁] at h₁; rw [Function.update_noteq hw₂] at h₂
      exact h.requestOwner w₁ w₂ rq h₁ h₂

/-- A whole run that follows the lifecycles keeps the ledger. -/
theorem objectsOk_run : ∀ (cbs : List Callback) {ph : Wsi → Phase} {t t' : Sessions}, SessionsOk ph t →
    ObjectsOk t → respects ph cbs = true → sessionRun lwsPre cbs t = .ok t' → ObjectsOk t'
  | [], _, _, _, _, h, _, hr => by cases hr; exact h
  | cb :: cbs, ph, t, _, ho, h, hrs, hr => by
    obtain ⟨p, hp, hrest⟩ := respects_cons.mp hrs
    rcases hc : sessionCallback lwsPre cb t with f | ⟨y, t₁⟩
    · rw [sessionRun, deliver_cons_error hc] at hr; cases hr
    · rw [sessionRun, deliver_cons_ok hc] at hr
      exact objectsOk_run cbs (sessionsOk_step ho hp hc) (objectsOk_step ho h hp hc) hrest hr

/-- In the per-session design, along every interleaving of any number of connections that respects their
lifecycles, every call takes only live objects: no null client is handed on, and no client or request is used,
removed or deleted once it was removed or deleted. -/
theorem sessions_sound {cbs : List Callback} (hr : respects (fun _ => .idle) cbs = true)
    (h : sessionRun lwsPre cbs Sessions.init = .ok t) : Sound t.effects :=
  (objectsOk_run cbs sessionsOk_init objectsOk_init hr h).sound

end

/-! ## No leak without keep-alive -/

/-- `LWS_CALLBACK_HTTP`. -/
def Reason.isHttp : Reason → Bool
  | .http _ => true
  | _ => false

/-- No connection gets a second HTTP request on keep-alive: no `LWS_CALLBACK_HTTP` on a connection done with one. -/
def noKeepAlive (phase : Wsi → Phase) : List Callback → Bool
  | [] => true
  | cb :: cbs => !(phase cb.wsi == .done && cb.reason.isHttp) &&
      match (phase cb.wsi).next cb.reason with
      | some p => noKeepAlive (Function.update phase cb.wsi p) cbs
      | none => true

section
variable {v v' : Vhd} {w : Wsi} {n : Nat} {r : Reason} {p q : Phase}

/-- The client a callback adds is in its slot after it. -/
theorem Vhd.after_added (h : v.after w n r = some v') {c : Client} (hc : c ∈ added (v.objCalls w n r)) :
    v'.client = some c := by
  obtain ⟨rfl, hf⟩ := objCalls_added hc
  cases r <;> simp only [Reason.fresh, Nat.lt_irrefl] at hf <;> simp only [Vhd.after, Option.some.injEq] at h <;>
    subst h <;> rfl

/-- The request a callback creates is in its slot after it. -/
theorem Vhd.after_created (h : v.after w n r = some v') {rq : IncomingHttpRequest}
    (hq : rq ∈ created (v.objCalls w n r)) : v'.request = some rq := by
  have hf := (objCalls_created hq).2
  cases r <;> simp only [Reason.fresh, Nat.lt_irrefl, Nat.not_succ_lt_self] at hf
  simp only [Vhd.after, Option.some.injEq] at h
  subst h
  simp only [Vhd.objCalls] at hq
  split_ifs at hq <;> simp_all [Effect.creates?]

/-- A callback that follows its connection's lifecycle and is no second HTTP request keeps its slot's client, unless
it removes it, and its slot's request, unless it deletes it. -/
theorem Phase.keeps (hv : q.SlotOk v) (hp : q.next r = some p) (hk : ¬(q = .done ∧ r.isHttp))
    (h : v.after w n r = some v') :
    (∀ c, v.client = some c → c ∉ removed (v.objCalls w n r) → v'.client = some c) ∧
      ∀ rq, v.request = some rq → rq ∉ deleted (v.objCalls w n r) → v'.request = some rq := by
  cases q <;> cases r <;> cases hp <;>
    simp_all [Phase.SlotOk, Vhd.after, Vhd.objCalls, Reason.isHttp, Effect.removes?, Effect.deletes?]

/-- A connection that ends closed leaves its slot empty. -/
theorem Phase.after_closed (hv : q.SlotOk v) (hp : q.next r = some p) (hc : p = .closed)
    (h : v.after w n r = some v') : v' = ⟨none, none⟩ ∨ (q = .closed ∧ v' = v) := by
  subst hc
  cases q <;> cases r <;> cases hp <;> simp_all [Phase.SlotOk, Vhd.after]

end

/-- Every live client and request sits in some connection's slot, and a closed connection's slot is empty. -/
structure NoLeak (ph : Wsi → Phase) (t : Sessions) : Prop where
  client : ∀ c, LiveClient t.effects c → ∃ w, (t.slot w).client = some c
  request : ∀ rq, LiveRequest t.effects rq → ∃ w, (t.slot w).request = some rq
  closed : ∀ w, ph w = .closed → t.slot w = ⟨none, none⟩

theorem noLeak_init : NoLeak (fun _ => .idle) Sessions.init :=
  ⟨fun _ h => (by cases h.1), fun _ h => (by cases h.1), fun _ h => (by cases h)⟩

section
variable {lwsPre : Nat} {cb : Callback} {t t' : Sessions} {x : Int} {ph : Wsi → Phase} {p : Phase}

/-- After a callback on `w` that leaves `v'` in its slot, an object sits in some slot when it sat in one before and
`w`'s slot keeps it, or `v'` holds it. -/
theorem exists_slot_update {α : Type} (get : Vhd → Option α) {slot : Wsi → Vhd} {w : Wsi} {v' : Vhd} {x : α}
    (h : (∃ w', get (slot w') = some x) ∨ get v' = some x) (hkeep : get (slot w) = some x → get v' = some x) :
    ∃ w', get (Function.update slot w v' w') = some x := by
  rcases h with ⟨w', hw'⟩ | hn
  · by_cases hw : w' = w
    · subst hw
      exact ⟨w', by rw [Function.update_same]; exact hkeep hw'⟩
    · exact ⟨w', by rwa [Function.update_noteq hw]⟩
  · exact ⟨w, by rw [Function.update_same]; exact hn⟩

/-- One callback that follows its connection's lifecycle and is no second HTTP request leaks nothing. -/
theorem noLeak_step (ho : SessionsOk ph t) (h : NoLeak ph t) (hp : (ph cb.wsi).next cb.reason = some p)
    (hk : ¬(ph cb.wsi = .done ∧ cb.reason.isHttp)) (hc : sessionCallback lwsPre cb t = .ok (x, t')) :
    NoLeak (Function.update ph cb.wsi p) t' := by
  obtain ⟨v', hv', hslot, -, hf⟩ := sessionCallback_objCalls ho hp hc
  obtain ⟨ha, hr, hcr, hd⟩ := ledger_of_filter hf
  obtain ⟨w, r⟩ := cb
  simp only at hv' hslot hf ha hr hcr hd hp hk
  refine ⟨fun c ⟨hin, hout⟩ => ?_, fun rq ⟨hin, hout⟩ => ?_, fun w' hw' => ?_⟩
  · rw [ha, List.mem_append] at hin
    rw [hr, List.mem_append, not_or] at hout
    rw [hslot]
    exact exists_slot_update Vhd.client (hin.imp (fun hin => h.client c ⟨hin, hout.1⟩) (Vhd.after_added hv'))
      fun hw => (Phase.keeps (ho.slot w) hp hk hv').1 c hw hout.2
  · rw [hcr, List.mem_append] at hin
    rw [hd, List.mem_append, not_or] at hout
    rw [hslot]
    exact exists_slot_update Vhd.request (hin.imp (fun hin => h.request rq ⟨hin, hout.1⟩) (Vhd.after_created hv'))
      fun hw => (Phase.keeps (ho.slot w) hp hk hv').2 rq hw hout.2
  · rw [hslot]
    by_cases hw : w' = w
    · subst hw
      rw [Function.update_same] at hw' ⊢
      rcases Phase.after_closed (ho.slot w') hp hw' hv' with h0 | ⟨hq, rfl⟩
      · exact h0
      · exact h.closed w' hq
    · rw [Function.update_noteq hw] at hw' ⊢
      exact h.closed w' hw'

/-- A whole run that follows the lifecycles with no keep-alive leaks nothing. -/
theorem noLeak_run : ∀ (cbs : List Callback) {ph ph' : Wsi → Phase} {t t' : Sessions}, SessionsOk ph t →
    NoLeak ph t → track ph cbs = some ph' → noKeepAlive ph cbs = true → sessionRun lwsPre cbs t = .ok t' →
      NoLeak ph' t'
  | [], _, _, _, _, _, h, ht, _, hr => by cases ht; cases hr; exact h
  | cb :: cbs, ph, _, t, _, ho, h, ht, hk, hr => by
    obtain ⟨p, hp, ht⟩ := Option.bind_eq_some.mp ht
    rw [noKeepAlive, hp, Bool.and_eq_true] at hk
    have hk1 : ¬(ph cb.wsi = .done ∧ cb.reason.isHttp) := fun ⟨h1, h2⟩ => by simp [h1, h2] at hk
    rcases hc : sessionCallback lwsPre cb t with f | ⟨y, t₁⟩
    · rw [sessionRun, deliver_cons_error hc] at hr; cases hr
    · rw [sessionRun, deliver_cons_ok hc] at hr
      exact noLeak_run cbs (sessionsOk_step ho hp hc) (noLeak_step ho h hp hk1 hc) ht hk.2 hr

end

/-- At the end of a run that leaks nothing and leaves no connection open, each client added was removed exactly
once and each request created deleted exactly once, and nothing else was removed or deleted. -/
theorem ledger_closed {ph : Wsi → Phase} (ho : SessionsOk ph t) (hob : ObjectsOk t) (hn : NoLeak ph t)
    (hc : ∀ w, (ph w).isOpen = false) :
    (removed t.effects).Nodup ∧ (∀ c, c ∈ removed t.effects ↔ c ∈ added t.effects) ∧
      (deleted t.effects).Nodup ∧ ∀ rq, rq ∈ deleted t.effects ↔ rq ∈ created t.effects := by
  have hempty : ∀ w, t.slot w = ⟨none, none⟩ := fun w => by
    have hs := ho.slot w
    have hw' := hc w
    cases hw : ph w with
    | idle => rw [hw] at hs; exact hs
    | closed => exact hn.closed w hw
    | _ => simp [hw, Phase.isOpen] at hw'
  refine ⟨by simpa using hob.sound.removed_nodup List.nodup_nil, fun c => ⟨fun hr => ?_, fun ha => ?_⟩,
    by simpa using hob.sound.deleted_nodup List.nodup_nil, fun rq => ⟨fun hd => ?_, fun hq => ?_⟩⟩
  · simpa using hob.sound.removed_sub (by simpa using hr)
  · by_contra hr
    obtain ⟨w, hw⟩ := hn.client c ⟨ha, hr⟩
    simp [hempty w] at hw
  · simpa using hob.sound.deleted_sub (by simpa using hd)
  · by_contra hd
    obtain ⟨w, hw⟩ := hn.request rq ⟨hq, hd⟩
    simp [hempty w] at hw

/-- **No leak without keep-alive.** In the per-session design, along every interleaving that follows the lifecycles,
gives no connection a second HTTP request and leaves no connection open, each client added is removed exactly once and
each request created deleted exactly once, and no other client or request is removed or deleted. -/
theorem sessions_no_leak {cbs : List Callback} {ph : Wsi → Phase} (ht : track (fun _ => .idle) cbs = some ph)
    (hk : noKeepAlive (fun _ => .idle) cbs = true) (hc : ∀ w, (ph w).isOpen = false)
    (h : sessionRun lwsPre cbs Sessions.init = .ok t) :
    (removed t.effects).Nodup ∧ (∀ c, c ∈ removed t.effects ↔ c ∈ added t.effects) ∧
      (deleted t.effects).Nodup ∧ ∀ rq, rq ∈ deleted t.effects ↔ rq ∈ created t.effects :=
  ledger_closed (sessionRun_ok cbs sessionsOk_init ht h)
    (objectsOk_run cbs sessionsOk_init objectsOk_init (by simp [respects, ht]) h)
    (noLeak_run cbs sessionsOk_init noLeak_init ht hk h) hc

/-! ## The code -/

/-- With connections one at a time, a run of the code that does not fault ends with the calls of a run of the design. -/
theorem serve_sessionRun {lwsPre : Nat} {cbs : List Callback} {s : Server} (hr : respects (fun _ => .idle) cbs = true)
    (hs : solo none cbs = true) (h : serve lwsPre cbs = .ok s) :
    ∃ t, sessionRun lwsPre cbs Sessions.init = .ok t ∧ s.effects = t.effects := by
  have he := @serve_eq_sessions lwsPre _ hr hs
  rcases ht : sessionRun lwsPre cbs Sessions.init with f | t <;> rw [h, ht] at he
  · cases he
  · exact ⟨t, rfl, Except.ok.inj he⟩

/-- With connections one at a time, every call the code makes takes only live objects. -/
theorem solo_sound {lwsPre : Nat} {cbs : List Callback} {s : Server} (hr : respects (fun _ => .idle) cbs = true)
    (hs : solo none cbs = true) (h : serve lwsPre cbs = .ok s) : Sound s.effects := by
  obtain ⟨t, ht, he⟩ := serve_sessionRun hr hs h
  exact he ▸ sessions_sound hr ht

/-- An HTTP request with a body, then a websocket that receives one message, one after the other. -/
theorem solo_sound_request_then_websocket :
    respects (fun _ => .idle) [⟨1, .http ⟨⟨3⟩, [47], some [49]⟩⟩, ⟨1, .httpBody [120]⟩, ⟨1, .httpBodyCompletion⟩,
      ⟨1, .closedHttp⟩, ⟨2, .established⟩, ⟨2, .receive [120] true⟩, ⟨2, .closed⟩] = true ∧
    solo none [⟨1, .http ⟨⟨3⟩, [47], some [49]⟩⟩, ⟨1, .httpBody [120]⟩, ⟨1, .httpBodyCompletion⟩,
      ⟨1, .closedHttp⟩, ⟨2, .established⟩, ⟨2, .receive [120] true⟩, ⟨2, .closed⟩] = true ∧
    ∃ s, serve 16 [⟨1, .http ⟨⟨3⟩, [47], some [49]⟩⟩, ⟨1, .httpBody [120]⟩, ⟨1, .httpBodyCompletion⟩,
      ⟨1, .closedHttp⟩, ⟨2, .established⟩, ⟨2, .receive [120] true⟩, ⟨2, .closed⟩] = .ok s ∧ Sound s.effects :=
by
  refine ⟨?hr, rfl, _, rfl, @solo_sound 16 _ _ ?hr rfl rfl⟩
  rfl

/-- **No leak, the code.** With connections one at a time, no second HTTP request on a connection and no connection
left open, the code removes each client it added exactly once and deletes each request it created exactly once, and
removes or deletes nothing else. -/
theorem solo_no_leak {lwsPre : Nat} {cbs : List Callback} {ph : Wsi → Phase} {s : Server}
    (ht : track (fun _ => .idle) cbs = some ph) (hs : solo none cbs = true)
    (hk : noKeepAlive (fun _ => .idle) cbs = true) (hc : ∀ w, (ph w).isOpen = false) (h : serve lwsPre cbs = .ok s) :
    (removed s.effects).Nodup ∧ (∀ c, c ∈ removed s.effects ↔ c ∈ added s.effects) ∧
      (deleted s.effects).Nodup ∧ ∀ rq, rq ∈ deleted s.effects ↔ rq ∈ created s.effects := by
  have hr : respects (fun _ => .idle) cbs = true := by simp [respects, ht]
  obtain ⟨t, hst, he⟩ := serve_sessionRun hr hs h
  exact he ▸ sessions_no_leak ht hk hc hst

/-- An HTTP request with a body, then a websocket that receives one message, one after the other, both closed. -/
theorem solo_no_leak_request_then_websocket :
    ∃ ph, track (fun _ => .idle) [⟨1, .http ⟨⟨3⟩, [47], some [49]⟩⟩, ⟨1, .httpBody [120]⟩, ⟨1, .httpBodyCompletion⟩,
        ⟨1, .closedHttp⟩, ⟨2, .established⟩, ⟨2, .receive [120] true⟩, ⟨2, .closed⟩] = some ph ∧
      solo none [⟨1, .http ⟨⟨3⟩, [47], some [49]⟩⟩, ⟨1, .httpBody [120]⟩, ⟨1, .httpBodyCompletion⟩,
        ⟨1, .closedHttp⟩, ⟨2, .established⟩, ⟨2, .receive [120] true⟩, ⟨2, .closed⟩] = true ∧
      noKeepAlive (fun _ => .idle) [⟨1, .http ⟨⟨3⟩, [47], some [49]⟩⟩, ⟨1, .httpBody [120]⟩, ⟨1, .httpBodyCompletion⟩,
        ⟨1, .closedHttp⟩, ⟨2, .established⟩, ⟨2, .receive [120] true⟩, ⟨2, .closed⟩] = true ∧
      (∀ w, (ph w).isOpen = false) ∧
      ∃ s, serve 16 [⟨1, .http ⟨⟨3⟩, [47], some [49]⟩⟩, ⟨1, .httpBody [120]⟩, ⟨1, .httpBodyCompletion⟩,
          ⟨1, .closedHttp⟩, ⟨2, .established⟩, ⟨2, .receive [120] true⟩, ⟨2, .closed⟩] = .ok s ∧
        ((removed s.effects).Nodup ∧ (∀ c, c ∈ removed s.effects ↔ c ∈ added s.effects) ∧
          (deleted s.effects).Nodup ∧ ∀ rq, rq ∈ deleted s.effects ↔ rq ∈ created s.effects) := by
  obtain ⟨ph, ht, hc⟩ : ∃ ph, track (fun _ => .idle) [⟨1, .http ⟨⟨3⟩, [47], some [49]⟩⟩, ⟨1, .httpBody [120]⟩,
      ⟨1, .httpBodyCompletion⟩, ⟨1, .closedHttp⟩, ⟨2, .established⟩, ⟨2, .receive [120] true⟩, ⟨2, .closed⟩] =
        some ph ∧ ∀ w, (ph w).isOpen = false :=
    ⟨_, rfl, fun w => by simp only [Function.update_apply]; split_ifs <;> rfl⟩
  exact ⟨ph, ht, rfl, rfl, hc, _, rfl, @solo_no_leak 16 _ _ _ ht rfl rfl hc rfl⟩

end Lws
end Katla
