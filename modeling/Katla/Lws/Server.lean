import Katla.Lws.Objects

/-!
# libwebsockets server: the context and the worker thread

`WebSocketServerLws` holds one lws context, `d->context`, and a worker thread that calls `work()` every 20 ms while
it runs. `init` creates a context and, when lws gives one, starts the worker; `stop` stops the worker, then destroys
the context there is and nulls it; `wakeup` cancels the service of the context there is; `work` asks lws for a
writeable callback on every client with data to send, then services `d->context`, whatever it is (`work_eq`); the
destructor calls `stop`. The thread (`katla::PosixThread`) is not in the sources: it is taken to run `work` exactly between its
`init` and its `stop`. Every call to lws or to the thread is appended to the server's trace, a context named by its
rank among those lws created, `none` for null.

* **Every run** (`ServerOk`, kept by `ServerOk.apply`; `server_contexts`): whatever the order of calls and worker
  iterations, `lws_context_destroy` and `lws_cancel_service` are given only a live context, created and not yet
  destroyed, so none is destroyed twice or used after it; `lws_service` is given a live context or a null one.
* **A leak** (`context_leaks`): a live context that is no longer `d->context` is never destroyed, whatever runs
  next; a second `init` while a context is held drops it so (`ServerOk.init_drops`; over whole runs,
  `init_leaks`).
* **Init only while stopped** (`stopped_inits_contexts`): when `init` is called only while the worker is stopped,
  `lws_service` is never given a null context, and after the destructor no context is live. A failed `init` while
  the worker runs leaves it servicing a null context (`failed_init_services_null`).
-/

namespace Katla
namespace Lws

/-- A call of `WebSocketServerLws` to lws or to its worker thread; a context is its rank among those lws created,
`none` for null. -/
inductive ServerCall where
  | createContext (port : Int) (result : Option Nat)
  | contextDestroy (context : Option Nat)
  | cancelService (context : Option Nat)
  | service (context : Option Nat) (timeoutMs : Nat)
  | callbackOnWritable (wsi : Wsi)
  | workerInit (intervalMs : Nat)
  | workerStop
  | workerJoin
  deriving DecidableEq, Repr

/-- What `WebSocketServerLws` holds of lws and its thread: `d->context`; whether the worker runs; how many contexts
lws has created (lws's count, not a field of the object); and the calls so far. -/
structure WebSocketServerLws where
  context : Option Nat
  running : Bool
  created : Nat
  calls : List ServerCall
  deriving DecidableEq, Repr

namespace WebSocketServerLws

/-- `WebSocketServerLws()`: a null context and the worker not started. The mount and protocol list it fills reach
lws only through `d->info`, which is left out. -/
def new : WebSocketServerLws := ⟨none, false, 0, []⟩

def emit (s : WebSocketServerLws) (c : ServerCall) : WebSocketServerLws := { s with calls := s.calls ++ [c] }

/-- `init(port)`: `lws_create_context`, which gives a new context when `createOk`; on null, return; else start the
worker on `work` every 20 ms. -/
def init (port : Int) (createOk : Bool) (s : WebSocketServerLws) : WebSocketServerLws :=
  if createOk then
    ({ s with context := some s.created, created := s.created + 1, running := true }.emit
      (.createContext port (some s.created))).emit (.workerInit 20)
  else { s with context := none }.emit (.createContext port none)

/-- `stop()`: stop the worker; with a context, destroy it and null `d->context`. -/
def stop (s : WebSocketServerLws) : WebSocketServerLws :=
  match s.context with
  | none => { s with running := false }.emit .workerStop
  | some c => ({ s with running := false, context := none }.emit .workerStop).emit (.contextDestroy (some c))

/-- `join()`: wait for the worker. -/
def join (s : WebSocketServerLws) : WebSocketServerLws := s.emit .workerJoin

/-- `wakeup()`: with a context, cancel its service. -/
def wakeup (s : WebSocketServerLws) : WebSocketServerLws :=
  match s.context with
  | none => s
  | some c => s.emit (.cancelService (some c))

/-- The loop of `work()` over a client list: a writeable callback on each client with data to send. -/
def askWriteable (s : WebSocketServerLws) : List (Wsi × Bool) → WebSocketServerLws
  | [] => s
  | (wsi, hasDataToSend) :: clients =>
    askWriteable (if hasDataToSend then s.emit (.callbackOnWritable wsi) else s) clients

/-- `work()`: the HTTP clients, then the websocket clients, each with its `m_wsi` and `hasDataToSend()`; then
`lws_service(d->context, 100)`, whatever `d->context` is; then ask to be called again. -/
def work (httpClients webSocketClients : List (Wsi × Bool)) (s : WebSocketServerLws) : Bool × WebSocketServerLws :=
  let s := (s.askWriteable httpClients).askWriteable webSocketClients
  (true, s.emit (.service s.context 100))

/-- `~WebSocketServerLws()`: `stop()`, then destroy `d->context` if there is one (`stop` has nulled it). -/
def destroy (s : WebSocketServerLws) : WebSocketServerLws :=
  match s.stop.context with
  | none => s.stop
  | some c => s.stop.emit (.contextDestroy (some c))

end WebSocketServerLws

/-- What happens to the server: a call of its API, or an iteration of its worker. -/
inductive ServerOp where
  | init (port : Int) (createOk : Bool)
  | stop
  | join
  | wakeup
  | work (httpClients webSocketClients : List (Wsi × Bool))
  | destroy
  deriving DecidableEq, Repr

/-- One operation; the worker iterates only while it runs. -/
def ServerOp.apply : ServerOp → WebSocketServerLws → WebSocketServerLws
  | .init port createOk, s => s.init port createOk
  | .stop, s => s.stop
  | .join, s => s.join
  | .wakeup, s => s.wakeup
  | .work httpClients webSocketClients, s => if s.running then (s.work httpClients webSocketClients).2 else s
  | .destroy, s => s.destroy

/-- Operations one after another. -/
def runServer : List ServerOp → WebSocketServerLws → WebSocketServerLws
  | [], s => s
  | op :: ops, s => runServer ops (op.apply s)

theorem runServer_append (ops ops' : List ServerOp) (s : WebSocketServerLws) :
    runServer (ops ++ ops') s = runServer ops' (runServer ops s) := by
  induction ops generalizing s with
  | nil => rfl
  | cons op ops ih => exact ih _

/-! ## The contexts of a trace -/

namespace ServerCall

/-- The context a call creates. -/
def creates? : ServerCall → Option Nat
  | .createContext _ result => result
  | _ => none

/-- The context a call destroys; a null one destroys none. -/
def destroys? : ServerCall → Option Nat
  | .contextDestroy context => context
  | _ => none

end ServerCall

/-- The contexts a trace creates. -/
def contextsCreated (log : List ServerCall) : List Nat := log.filterMap ServerCall.creates?

/-- The contexts a trace destroys. -/
def contextsDestroyed (log : List ServerCall) : List Nat := log.filterMap ServerCall.destroys?

/-- A context created and not destroyed since. -/
def LiveContext (log : List ServerCall) (c : Nat) : Prop := c ∈ contextsCreated log ∧ c ∉ contextsDestroyed log

instance (log : List ServerCall) (c : Nat) : Decidable (LiveContext log c) :=
  inferInstanceAs (Decidable (_ ∧ _))

/-- A call made after `log` is given no dead context, and a null one only if it is `lws_service`. -/
def ContextOk (log : List ServerCall) : ServerCall → Prop
  | .contextDestroy oc | .cancelService oc => ∃ c, oc = some c ∧ LiveContext log c
  | .service oc _ => ∀ c ∈ oc, LiveContext log c
  | _ => True

@[simp] theorem contextsCreated_append (log log' : List ServerCall) :
    contextsCreated (log ++ log') = contextsCreated log ++ contextsCreated log' :=
  List.filterMap_append ..

@[simp] theorem contextsDestroyed_append (log log' : List ServerCall) :
    contextsDestroyed (log ++ log') = contextsDestroyed log ++ contextsDestroyed log' :=
  List.filterMap_append ..

@[simp] theorem contextsCreated_nil : contextsCreated [] = [] := rfl

@[simp] theorem contextsDestroyed_nil : contextsDestroyed [] = [] := rfl

@[simp] theorem contextsCreated_cons (e : ServerCall) (log : List ServerCall) :
    contextsCreated (e :: log) = e.creates?.toList ++ contextsCreated log :=
  filterMap_cons_toList ..

@[simp] theorem contextsDestroyed_cons (e : ServerCall) (log : List ServerCall) :
    contextsDestroyed (e :: log) = e.destroys?.toList ++ contextsDestroyed log :=
  filterMap_cons_toList ..

/-- A context stays live across calls that destroy nothing. -/
theorem LiveContext.append {log es : List ServerCall} {c : Nat} (h : LiveContext log c)
    (hd : contextsDestroyed es = []) : LiveContext (log ++ es) c :=
  ⟨by simp [h.1], by simp [hd, h.2]⟩

/-! ## What each method does -/

namespace WebSocketServerLws

variable (s : WebSocketServerLws)

@[simp] theorem emit_context (e : ServerCall) : (s.emit e).context = s.context := rfl

@[simp] theorem emit_running (e : ServerCall) : (s.emit e).running = s.running := rfl

@[simp] theorem emit_created (e : ServerCall) : (s.emit e).created = s.created := rfl

@[simp] theorem emit_calls (e : ServerCall) : (s.emit e).calls = s.calls ++ [e] := rfl

/-- The loop of `work()` only appends a writeable callback for each client with data to send. -/
theorem askWriteable_eq (clients : List (Wsi × Bool)) :
    s.askWriteable clients =
      { s with calls := s.calls ++ (clients.filter (·.2)).map fun c => .callbackOnWritable c.1 } := by
  induction clients generalizing s with
  | nil => simp [askWriteable]
  | cons c clients ih =>
    obtain ⟨wsi, hasDataToSend⟩ := c
    cases hasDataToSend <;> simp [askWriteable, ih, emit]

/-- `work()` asks lws for a writeable callback on exactly the clients with data to send, the HTTP clients first,
then services `d->context` once, whatever it is, and asks to be called again. -/
theorem work_eq (httpClients webSocketClients : List (Wsi × Bool)) :
    s.work httpClients webSocketClients =
      (true, { s with
        calls := s.calls ++ ((httpClients ++ webSocketClients).filter (·.2)).map (.callbackOnWritable ·.1) ++
          [.service s.context 100] }) := by
  simp [work, askWriteable_eq, emit, List.filter_append]

@[simp] theorem stop_context : s.stop.context = none := by
  cases h : s.context <;> simp [stop, h]

@[simp] theorem stop_running : s.stop.running = false := by
  cases h : s.context <;> simp [stop, h]

@[simp] theorem stop_created : s.stop.created = s.created := by
  cases h : s.context <;> simp [stop, h]

@[simp] theorem contextsDestroyed_writables (clients : List (Wsi × Bool)) :
    contextsDestroyed (clients.map fun c => .callbackOnWritable c.1) = [] := by
  induction clients <;> simp [*, ServerCall.destroys?]

/-- The destructor's own destroy never runs: `stop` has nulled the context. -/
theorem destroy_eq : s.destroy = s.stop := by
  unfold destroy
  rw [stop_context]

end WebSocketServerLws

/-! ## Every run -/

/-- The server's invariant: every call so far was given no dead context, `d->context` is null or live, and lws's count
bounds every context it created. -/
structure ServerOk (s : WebSocketServerLws) : Prop where
  calls : EachAfter ContextOk [] s.calls
  context : ∀ c ∈ s.context, LiveContext s.calls c
  fresh : ∀ c ∈ contextsCreated s.calls, c < s.created

theorem serverOk_new : ServerOk WebSocketServerLws.new :=
  ⟨trivial, fun _ h => (by cases h), fun _ h => (by cases h)⟩

/-- A trace whose calls are given no dead context destroys only contexts created before. -/
theorem EachAfter.destroyed_sub {log es : List ServerCall} {c : Nat} (h : EachAfter ContextOk log es)
    (hc : c ∈ contextsDestroyed es) : c ∈ contextsCreated (log ++ es) := by
  induction es generalizing log with
  | nil => cases hc
  | cons e es ih =>
    rw [contextsDestroyed_cons, List.mem_append] at hc
    rcases hc with hc | hc
    · cases e <;> simp only [ServerCall.destroys?, Option.toList_none, List.not_mem_nil] at hc
      obtain ⟨c', rfl, hl⟩ := h.1
      simp only [Option.toList_some, List.mem_singleton] at hc
      simp [hc, hl.1]
    · simpa using ih h.2 hc

/-- A trace whose calls are given no dead context destroys no context twice. -/
theorem EachAfter.destroyed_nodup {log es : List ServerCall} (h : EachAfter ContextOk log es)
    (hl : (contextsDestroyed log).Nodup) : (contextsDestroyed (log ++ es)).Nodup := by
  induction es generalizing log with
  | nil => simpa using hl
  | cons e es ih =>
    rw [← List.singleton_append, ← List.append_assoc]
    refine ih h.2 ?_
    cases e <;> simp only [contextsDestroyed_append, contextsDestroyed_cons, contextsDestroyed_nil,
      ServerCall.destroys?, Option.toList_none, List.append_nil] <;> try exact hl
    obtain ⟨c, rfl, hc⟩ := h.1
    exact hl.append (List.nodup_singleton c) (List.disjoint_singleton.mpr hc.2)

section
variable {s : WebSocketServerLws}

theorem ServerOk.destroyed_lt (h : ServerOk s) {c : Nat} (hc : c ∈ contextsDestroyed s.calls) : c < s.created :=
  h.fresh c (by simpa using h.calls.destroyed_sub hc)

/-- A call given no dead context, that creates and destroys none, keeps the invariant. -/
theorem ServerOk.emit (h : ServerOk s) {e : ServerCall} (he : ContextOk s.calls e) (hc : e.creates? = none)
    (hd : e.destroys? = none) : ServerOk (s.emit e) where
  calls := by simpa [eachAfter_append, EachAfter] using And.intro h.calls he
  context c hc' := (h.context c hc').append (by simp [hd])
  fresh c hc' := h.fresh c (by simpa [hc] using hc')

theorem ServerOk.askWriteable (h : ServerOk s) (clients : List (Wsi × Bool)) : ServerOk (s.askWriteable clients) := by
  induction clients generalizing s with
  | nil => exact h
  | cons c clients ih =>
    obtain ⟨wsi, hasDataToSend⟩ := c
    cases hasDataToSend
    · exact ih h
    · exact ih (h.emit trivial rfl rfl)

theorem ServerOk.init (h : ServerOk s) (port : Int) (createOk : Bool) : ServerOk (s.init port createOk) := by
  unfold WebSocketServerLws.init
  split_ifs
  · have hnew : s.created ∉ contextsDestroyed s.calls := fun hd => Nat.lt_irrefl _ (h.destroyed_lt hd)
    have h' : ServerOk ({ s with context := some s.created, created := s.created + 1, running := true }.emit
        (.createContext port (some s.created))) := by
      refine ⟨?_, fun c hc => ?_, fun c hc => ?_⟩
      · simpa [eachAfter_append, EachAfter, ContextOk] using h.calls
      · cases hc
        simp [LiveContext, ServerCall.creates?, ServerCall.destroys?, hnew]
      · simp only [WebSocketServerLws.emit_calls, contextsCreated_append, contextsCreated_cons, contextsCreated_nil,
          ServerCall.creates?, Option.toList_some, List.singleton_append, List.mem_append, List.mem_singleton] at hc
        rcases hc with hc | rfl
        · exact Nat.lt_succ_of_lt (h.fresh c hc)
        · exact Nat.lt_succ_self _
    exact h'.emit trivial rfl rfl
  · have h' : ServerOk { s with context := none } := ⟨h.calls, fun _ hc => (by cases hc), h.fresh⟩
    exact h'.emit trivial rfl rfl

theorem ServerOk.stop (h : ServerOk s) : ServerOk s.stop := by
  unfold WebSocketServerLws.stop
  split
  · have h' : ServerOk { s with running := false } := ⟨h.calls, h.context, h.fresh⟩
    exact h'.emit trivial rfl rfl
  · rename_i c hc
    have h' : ServerOk { s with running := false, context := none } :=
      ⟨h.calls, fun _ hc => (by cases hc), h.fresh⟩
    have hs := h'.emit (e := .workerStop) trivial rfl rfl
    refine ⟨?_, fun _ h' => (by cases h'), fun c' hc' => hs.fresh c' (by simpa [ServerCall.creates?] using hc')⟩
    simpa [eachAfter_append, EachAfter, ContextOk] using
      And.intro hs.calls ((h.context c hc).append (show contextsDestroyed [ServerCall.workerStop] = [] from rfl))

theorem ServerOk.apply (h : ServerOk s) : ∀ op : ServerOp, ServerOk (op.apply s)
  | .init port createOk => h.init port createOk
  | .stop => h.stop
  | .join => h.emit trivial rfl rfl
  | .wakeup => by
    show ServerOk s.wakeup
    unfold WebSocketServerLws.wakeup
    split
    · exact h
    · rename_i c hc
      exact h.emit ⟨c, rfl, h.context c hc⟩ rfl rfl
  | .work httpClients webSocketClients => by
    show ServerOk (if s.running then (s.work httpClients webSocketClients).2 else s)
    split_ifs
    · have h' := (h.askWriteable httpClients).askWriteable webSocketClients
      exact h'.emit (fun c hc => h'.context c hc) rfl rfl
    · exact h
  | .destroy => by
    show ServerOk s.destroy
    rw [WebSocketServerLws.destroy_eq]
    exact h.stop

theorem ServerOk.run (h : ServerOk s) (ops : List ServerOp) : ServerOk (runServer ops s) := by
  induction ops generalizing s with
  | nil => exact h
  | cons op ops ih => exact ih (h.apply op)

end

/-- **Every run.** Whatever the order of calls to `init`, `stop`, `join`, `wakeup` and the destructor, and of the
worker's iterations, `lws_context_destroy` and `lws_cancel_service` are given only a context lws created and has not
destroyed, never a null one, `lws_service` a live context or a null one, and no context is destroyed twice. -/
theorem server_contexts (ops : List ServerOp) :
    EachAfter ContextOk [] (runServer ops .new).calls ∧
      (contextsDestroyed (runServer ops .new).calls).Nodup := by
  have h := serverOk_new.run ops
  exact ⟨h.calls, by simpa using h.calls.destroyed_nodup List.nodup_nil⟩

/-! ## A dropped context -/

/-- What one operation can do to the contexts: destroy at most `d->context`, and leave `d->context` as it was, null,
or the one it creates. -/
theorem ServerOp.apply_contexts (op : ServerOp) (s : WebSocketServerLws) :
    ∃ es, (op.apply s).calls = s.calls ++ es ∧ (∀ c ∈ contextsDestroyed es, s.context = some c) ∧
      ((op.apply s).context = s.context ∨ (op.apply s).context = none ∨ (op.apply s).context = some s.created) ∧
      s.created ≤ (op.apply s).created := by
  have hstop : ∃ es, s.stop.calls = s.calls ++ es ∧ ∀ c ∈ contextsDestroyed es, s.context = some c := by
    cases hc : s.context <;> simp [WebSocketServerLws.stop, hc, ServerCall.destroys?]
  cases op with
  | init port createOk =>
    cases createOk <;> simp [ServerOp.apply, WebSocketServerLws.init, ServerCall.destroys?]
  | stop | destroy =>
    obtain ⟨es, he, hd⟩ := hstop
    refine ⟨es, ?_, hd, .inr (.inl ?_), ?_⟩ <;> simp [ServerOp.apply, WebSocketServerLws.destroy_eq, he]
  | join => simp [ServerOp.apply, WebSocketServerLws.join, ServerCall.destroys?]
  | wakeup =>
    cases hc : s.context <;> simp [ServerOp.apply, WebSocketServerLws.wakeup, hc, ServerCall.destroys?]
  | work httpClients webSocketClients =>
    by_cases hr : s.running <;> simp [ServerOp.apply, WebSocketServerLws.work_eq, hr, ServerCall.destroys?]

/-- A context that is live, not `d->context`, and created before: what a second `init` leaves of the first. -/
structure Dropped (c : Nat) (s : WebSocketServerLws) : Prop where
  live : LiveContext s.calls c
  not_held : s.context ≠ some c
  created : c < s.created

theorem Dropped.apply {c : Nat} {s : WebSocketServerLws} (h : Dropped c s) (op : ServerOp) :
    Dropped c (op.apply s) := by
  obtain ⟨es, he, hd, hctx, hcr⟩ := op.apply_contexts s
  refine ⟨?_, ?_, Nat.lt_of_lt_of_le h.created hcr⟩
  · rw [LiveContext, he, contextsCreated_append, contextsDestroyed_append, List.mem_append, List.mem_append]
    exact ⟨.inl h.live.1, not_or.mpr ⟨h.live.2, fun hc => h.not_held (hd c hc)⟩⟩
  · rcases hctx with hctx | hctx | hctx <;> rw [hctx]
    · exact h.not_held
    · exact Option.noConfusion
    · exact fun he => absurd (Option.some.inj he) (Nat.ne_of_gt h.created)

theorem Dropped.run {c : Nat} {s : WebSocketServerLws} (h : Dropped c s) (ops : List ServerOp) :
    Dropped c (runServer ops s) := by
  induction ops generalizing s with
  | nil => exact h
  | cons op ops ih => exact ih (h.apply op)

/-- A successful `init` while `d->context` holds a context drops it: the context stays live, and `d->context` is
the new one. -/
theorem ServerOk.init_drops {s : WebSocketServerLws} (h : ServerOk s) {c : Nat} (hc : s.context = some c)
    (port : Int) : Dropped c (s.init port true) := by
  have hl := h.context c hc
  have hlt : c < s.created := h.fresh c hl.1
  refine ⟨?_, by simpa [WebSocketServerLws.init] using Nat.ne_of_gt hlt,
    by simpa [WebSocketServerLws.init] using Nat.lt_succ_of_lt hlt⟩
  simp only [WebSocketServerLws.init, if_true, WebSocketServerLws.emit_calls, List.append_assoc]
  exact hl.append (by simp [ServerCall.destroys?])

/-- Over whole runs: a context held when a successful `init` runs is live at every later point. -/
theorem init_leaks (pre post : List ServerOp) {c : Nat} (hc : (runServer pre .new).context = some c) (port : Int) :
    LiveContext (runServer (pre ++ .init port true :: post) .new).calls c := by
  rw [runServer_append]
  exact (((serverOk_new.run pre).init_drops hc port).run post).live

/-- **A leak.** A context that is live and no longer `d->context` at some point of a run is live at every later
point: nothing destroys it, not `stop`, not the destructor. -/
theorem context_leaks (pre post : List ServerOp) {c : Nat} (hc : LiveContext (runServer pre .new).calls c)
    (hne : (runServer pre .new).context ≠ some c) : LiveContext (runServer (pre ++ post) .new).calls c := by
  rw [runServer_append]
  exact (Dropped.run ⟨hc, hne, (serverOk_new.run pre).fresh c hc.1⟩ post).live

/-- A second `init` that gets a context, then `stop` and the destructor: the first context stays live. -/
theorem context_leaks_second_init :
    LiveContext (runServer [.init 7681 true, .init 7681 true] .new).calls 0 ∧
      (runServer [.init 7681 true, .init 7681 true] .new).context ≠ some 0 ∧
      LiveContext (runServer ([.init 7681 true, .init 7681 true] ++ [.stop, .destroy]) .new).calls 0 := by
  refine ⟨?hc, ?hne, context_leaks _ _ ?hc ?hne⟩ <;> decide

/-! ## Init only while stopped -/

def ServerOp.isInit : ServerOp → Bool
  | .init .. => true
  | _ => false

/-- Every `init` of `ops`, run from `s`, is called while the worker is stopped. -/
def initsStopped : List ServerOp → WebSocketServerLws → Bool
  | [], _ => true
  | op :: ops, s => (!op.isInit || !s.running) && initsStopped ops (op.apply s)

/-- The invariant of runs that call `init` only while stopped: the worker runs exactly while there is a context, the
only live context is `d->context`, and `lws_service` was never given a null one. -/
structure Paired (s : WebSocketServerLws) : Prop where
  running : s.running = s.context.isSome
  live : ∀ c, LiveContext s.calls c → s.context = some c
  noNull : ∀ t, ServerCall.service none t ∉ s.calls

theorem paired_new : Paired .new := ⟨rfl, fun _ h => (by cases h.1), fun _ h => (by cases h)⟩

section
variable {s : WebSocketServerLws}

/-- A call that creates and destroys nothing and is no `lws_service` on a null context keeps the invariant. -/
theorem Paired.emit (h : Paired s) {e : ServerCall} (hc : e.creates? = none) (hd : e.destroys? = none)
    (hn : ∀ t, e ≠ .service none t) : Paired (s.emit e) where
  running := h.running
  live c hl := h.live c ⟨by simpa [hc] using hl.1, by simpa [hd] using hl.2⟩
  noNull t ht := by
    simp only [WebSocketServerLws.emit_calls, List.mem_append, List.mem_singleton] at ht
    exact ht.elim (h.noNull t) fun he => hn t he.symm

theorem Paired.askWriteable (h : Paired s) (clients : List (Wsi × Bool)) : Paired (s.askWriteable clients) := by
  induction clients generalizing s with
  | nil => exact h
  | cons c clients ih =>
    obtain ⟨wsi, hasDataToSend⟩ := c
    cases hasDataToSend
    · exact ih h
    · exact ih (h.emit rfl rfl fun _ => ServerCall.noConfusion)

/-- With the worker stopped there is no live context. -/
theorem Paired.not_live (h : Paired s) (hr : s.running = false) (c : Nat) : ¬LiveContext s.calls c := fun hl => by
  have := h.running
  rw [hr, h.live c hl] at this
  cases this

theorem Paired.stop (h : Paired s) : Paired s.stop := by
  unfold WebSocketServerLws.stop
  split
  · rename_i hc
    have h' : Paired { s with running := false } := ⟨by simp [hc], h.live, h.noNull⟩
    exact h'.emit rfl rfl fun _ => ServerCall.noConfusion
  · rename_i c hc
    refine ⟨rfl, fun c' hl => ?_, fun t ht => ?_⟩
    · have hl' : LiveContext s.calls c' := ⟨by simpa [ServerCall.creates?] using hl.1, by
        simpa [ServerCall.destroys?] using fun h => hl.2 (by simp [h])⟩
      have := (h.live c' hl').symm.trans hc
      cases this
      exact absurd (by simp [ServerCall.destroys?]) hl.2
    · simp at ht
      exact h.noNull t ht

theorem Paired.init (h : Paired s) (hr : s.running = false) (port : Int) (createOk : Bool) :
    Paired (s.init port createOk) := by
  unfold WebSocketServerLws.init
  split_ifs
  · refine ⟨rfl, fun c ⟨h1, h2⟩ => ?_, fun t ht => ?_⟩
    · simp [ServerCall.creates?, ServerCall.destroys?] at h1 h2
      rcases h1 with h1 | rfl
      · exact absurd ⟨h1, h2⟩ (h.not_live hr c)
      · rfl
    · simp at ht
      exact h.noNull t ht
  · have h' : Paired { s with context := none } :=
      ⟨by simpa using hr, fun c hl => absurd hl (h.not_live hr c), h.noNull⟩
    exact h'.emit rfl rfl fun _ => ServerCall.noConfusion

theorem Paired.apply (h : Paired s) (op : ServerOp) (hi : (!op.isInit || !s.running) = true) :
    Paired (op.apply s) := by
  cases op with
  | init port createOk => exact h.init (by simpa [ServerOp.isInit] using hi) port createOk
  | stop => exact h.stop
  | join => exact h.emit rfl rfl fun _ => ServerCall.noConfusion
  | wakeup =>
    show Paired s.wakeup
    unfold WebSocketServerLws.wakeup
    split
    · exact h
    · exact h.emit rfl rfl fun _ => ServerCall.noConfusion
  | work httpClients webSocketClients =>
    show Paired (if s.running then (s.work httpClients webSocketClients).2 else s)
    split_ifs with hr
    · obtain ⟨c, hc⟩ := Option.isSome_iff_exists.mp (h.running ▸ hr)
      have h' := (h.askWriteable httpClients).askWriteable webSocketClients
      refine h'.emit rfl rfl fun t he => ?_
      simp only [ServerCall.service.injEq, WebSocketServerLws.askWriteable_eq, hc] at he
      cases he.1
    · exact h
  | destroy =>
    show Paired s.destroy
    rw [WebSocketServerLws.destroy_eq]
    exact h.stop

theorem Paired.run (h : Paired s) (ops : List ServerOp) (hi : initsStopped ops s = true) :
    Paired (runServer ops s) := by
  induction ops generalizing s with
  | nil => exact h
  | cons op ops ih =>
    rw [initsStopped, Bool.and_eq_true] at hi
    exact ih (h.apply op hi.1) hi.2

end

/-- **Init only while stopped.** Along every run that calls `init` only while the worker is stopped, `lws_service`
is never given a null context, and after the destructor no context is live: each one created was destroyed. -/
theorem stopped_inits_contexts (ops : List ServerOp) (hi : initsStopped ops .new = true) :
    (∀ t, ServerCall.service none t ∉ (runServer ops .new).calls) ∧
      ∀ c, ¬LiveContext (runServer ops .new).destroy.calls c := by
  have h := paired_new.run ops hi
  have hd : Paired (runServer ops .new).destroy := by
    rw [WebSocketServerLws.destroy_eq]
    exact h.stop
  exact ⟨h.noNull, hd.not_live (by simp [WebSocketServerLws.destroy_eq])⟩

/-- Start, serve a client, wake the worker, stop, then fail and succeed to start again. -/
theorem stopped_inits_contexts_restart :
    initsStopped [.init 7681 true, .work [(1, true)] [], .wakeup, .stop, .init 7681 false, .init 7681 true,
      .work [] [(2, false)]] .new = true ∧
    (∀ t, ServerCall.service none t ∉ (runServer [.init 7681 true, .work [(1, true)] [], .wakeup, .stop,
      .init 7681 false, .init 7681 true, .work [] [(2, false)]] .new).calls) ∧
    ∀ c, ¬LiveContext (runServer [.init 7681 true, .work [(1, true)] [], .wakeup, .stop, .init 7681 false,
      .init 7681 true, .work [] [(2, false)]] .new).destroy.calls c := by
  refine ⟨?hi, stopped_inits_contexts _ ?hi⟩
  rfl

/-! ## A failed init while the worker runs -/

/-- The operations after which a running worker on a null context stays so: all but `stop`, the destructor, and an
`init` that gets a context. -/
def ServerOp.keepsNull : ServerOp → Bool
  | .stop | .destroy | .init _ true => false
  | _ => true

/-- One such operation keeps the worker running on a null context, and gives `lws_service` only a null one. -/
theorem ServerOp.apply_keepsNull {s : WebSocketServerLws} (hr : s.running = true) (hc : s.context = none)
    (op : ServerOp) (hk : op.keepsNull = true) :
    (op.apply s).running = true ∧ (op.apply s).context = none ∧
      ∃ es, (op.apply s).calls = s.calls ++ es ∧ ∀ c t, ServerCall.service c t ∈ es → c = none := by
  cases op with
  | init port createOk =>
    cases createOk
    · simp [ServerOp.apply, WebSocketServerLws.init, hr]
    · cases hk
  | join => simp [ServerOp.apply, WebSocketServerLws.join, hr, hc]
  | wakeup => simp [ServerOp.apply, WebSocketServerLws.wakeup, hr, hc]
  | work httpClients webSocketClients =>
    simp [ServerOp.apply, WebSocketServerLws.work_eq, hr, hc]
  | stop | destroy => cases hk

/-- Such operations one after another. -/
theorem ServerOp.run_keepsNull {s : WebSocketServerLws} (hr : s.running = true) (hc : s.context = none)
    (post : List ServerOp) (hk : ∀ op ∈ post, op.keepsNull = true) :
    (runServer post s).running = true ∧
      ∃ es, (runServer post s).calls = s.calls ++ es ∧ ∀ c t, ServerCall.service c t ∈ es → c = none := by
  induction post generalizing s with
  | nil => exact ⟨hr, [], by simp [runServer], by simp⟩
  | cons op post ih =>
    obtain ⟨hr', hc', es, he, hs⟩ := op.apply_keepsNull hr hc (hk op (List.mem_cons_self op post))
    obtain ⟨hr'', es', he', hs'⟩ := ih hr' hc' fun op' h' => hk op' (List.mem_cons_of_mem op h')
    refine ⟨hr'', es ++ es', by rw [runServer, he', he, List.append_assoc], fun c t h => ?_⟩
    rcases List.mem_append.mp h with h | h
    · exact hs c t h
    · exact hs' c t h

/-- **A failed init while the worker runs.** An `init` whose `lws_create_context` fails nulls `d->context` and leaves
a running worker running: until `stop`, the destructor or an `init` that gets a context, the worker keeps running and
every `lws_service` it calls is given a null context. -/
theorem failed_init_services_null {s : WebSocketServerLws} (hr : s.running = true) (port : Int)
    (post : List ServerOp) (hk : ∀ op ∈ post, op.keepsNull = true) :
    (runServer post (s.init port false)).running = true ∧
      ∃ es, (runServer post (s.init port false)).calls = (s.init port false).calls ++ es ∧
        ∀ c t, ServerCall.service c t ∈ es → c = none :=
  ServerOp.run_keepsNull (by simpa [WebSocketServerLws.init] using hr) rfl post hk

/-- Started, then an `init` that fails: the next worker iteration services a null context. -/
theorem failed_init_services_null_restart :
    (runServer [.init 7681 true] .new).running = true ∧ (∀ op ∈ [ServerOp.work [] [], .wakeup], op.keepsNull = true) ∧
      ((runServer [.work [] [], .wakeup] ((runServer [.init 7681 true] .new).init 7681 false)).running = true ∧
        ∃ es, (runServer [.work [] [], .wakeup] ((runServer [.init 7681 true] .new).init 7681 false)).calls =
            ((runServer [.init 7681 true] .new).init 7681 false).calls ++ es ∧
          ∀ c t, ServerCall.service c t ∈ es → c = none) := by
  refine ⟨?hr, ?hk, failed_init_services_null ?hr 7681 _ ?hk⟩ <;> decide

end Lws
end Katla
