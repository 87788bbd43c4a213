/-
The server process as its handlers see it.

`World` holds the singletons every request goes through: the routing table, the
proxy handler with its shared `HttpClient`, and the record of what senders have
been invoked with. A sender is opaque here (`S`): what it does with a response is
the session's business, and the session layer instantiates `S`.

A handler may throw. C++ does not undo what was done before the throw, so the
monad keeps the state and the exception apart: `HandlerM S` is `ExceptT` over
`StateM`, in that order.
-/
import Http2Server.BackendRegistry
import Http2Server.HttpClient

set_option autoImplicit false

open ByteString UnorderedMap

namespace Http2Server

/-- The lambda `forward_request` hands to the client: it captures the sender and
the stream id. -/
structure ForwardCallback (S : Type) where
  sender : S
  stream_id : StreamId
  deriving DecidableEq, Repr

/-- One invocation of a sender. -/
structure Reply (S : Type) where
  sender : S
  stream_id : StreamId
  response : HttpResponse
  deriving DecidableEq, Repr

structure World (S : Type) where
  /-- `BackendRegistry::instance()`. -/
  registry : BackendRegistry
  /-- The calls made on it so far, in order. -/
  registry_calls : List RegistryCall
  /-- Whether `ProxyRequestHandler::forwarding_handler_` is set. -/
  forwarding_handler_ : Bool
  /-- The `HttpClient` of that handler, shared by all requests. -/
  http_client_ : HttpClient (ForwardCallback S)
  replies : List (Reply S)

/-- The process after `main` has initialised the proxy handler, with the routing
table in a given state and nothing outstanding. -/
def World.serving {S : Type} (registry : BackendRegistry) : World S where
  registry := registry
  registry_calls := []
  forwarding_handler_ := true
  http_client_ := {}
  replies := []

/-- The order in which the routing table enumerates its entries, for whatever
the table holds when it is looked up. -/
abbrev Enumeration := ∀ backends_ : UnorderedMap Bytes ForwardingRule, Order backends_

/-- Code run inside one completion handler. -/
abbrev HandlerM (S : Type) := ExceptT Exn (StateM (World S))

namespace HandlerM

variable {S : Type}

/-- What a piece of code does in a world: what it throws, if anything, and the
world it leaves. -/
def exec {α : Type} (code : HandlerM S α) (w : World S) : Except Exn α × World S :=
  ((ExceptT.run code).run w).run

/-- `sender(stream_id, response)`. -/
def send (sender : S) (stream_id : StreamId) (response : HttpResponse) : HandlerM S Unit :=
  modify fun w => { w with replies := w.replies ++ [⟨sender, stream_id, response⟩] }

/-- A call on `BackendRegistry::instance()`. -/
def callRegistry (call : RegistryCall) : HandlerM S Unit :=
  modify fun w => { w with
    registry := call.apply w.registry
    registry_calls := w.registry_calls ++ [call] }

end HandlerM

namespace World

variable {S : Type}

/-- The world after a sender has been invoked. -/
def reply (w : World S) (sender : S) (stream_id : StreamId) (response : HttpResponse) : World S :=
  { w with replies := w.replies ++ [⟨sender, stream_id, response⟩] }

/-- The world after a call on the registry. -/
def call (w : World S) (c : RegistryCall) : World S :=
  { w with registry := c.apply w.registry, registry_calls := w.registry_calls ++ [c] }

/-- The world with another state of the shared client. -/
def withClient (w : World S) (client : HttpClient (ForwardCallback S)) : World S :=
  { w with http_client_ := client }

section Fields

variable (w : World S) (sender : S) (stream_id : StreamId) (response : HttpResponse)
  (c : RegistryCall) (client : HttpClient (ForwardCallback S))

@[simp] theorem reply_registry : (w.reply sender stream_id response).registry = w.registry := rfl
@[simp] theorem reply_registry_calls :
    (w.reply sender stream_id response).registry_calls = w.registry_calls := rfl
@[simp] theorem reply_http_client :
    (w.reply sender stream_id response).http_client_ = w.http_client_ := rfl
@[simp] theorem reply_replies :
    (w.reply sender stream_id response).replies
      = w.replies ++ [⟨sender, stream_id, response⟩] := rfl

@[simp] theorem call_registry : (w.call c).registry = c.apply w.registry := rfl
@[simp] theorem call_registry_calls : (w.call c).registry_calls = w.registry_calls ++ [c] := rfl
@[simp] theorem call_http_client : (w.call c).http_client_ = w.http_client_ := rfl
@[simp] theorem call_replies : (w.call c).replies = w.replies := rfl

@[simp] theorem withClient_registry : (w.withClient client).registry = w.registry := rfl
@[simp] theorem withClient_registry_calls :
    (w.withClient client).registry_calls = w.registry_calls := rfl
@[simp] theorem withClient_http_client : (w.withClient client).http_client_ = client := rfl
@[simp] theorem withClient_replies : (w.withClient client).replies = w.replies := rfl

end Fields

end World

/-! ## A call, if there is one -/

namespace World

variable {S : Type}

/-- The world after a call on the registry, if there is one. -/
def perform (w : World S) : Option RegistryCall → World S
  | some c => w.call c
  | none => w

section Performed

variable (w : World S) (asked : Option RegistryCall)

@[simp] theorem perform_replies : (w.perform asked).replies = w.replies := by
  cases asked <;> rfl

@[simp] theorem perform_http_client : (w.perform asked).http_client_ = w.http_client_ := by
  cases asked <;> rfl

@[simp] theorem perform_forwarding_handler :
    (w.perform asked).forwarding_handler_ = w.forwarding_handler_ := by
  cases asked <;> rfl

@[simp] theorem perform_registry :
    (w.perform asked).registry = asked.toList.foldl RegistryCall.apply w.registry := by
  cases asked <;> rfl

@[simp] theorem perform_registry_calls :
    (w.perform asked).registry_calls = w.registry_calls ++ asked.toList := by
  cases asked with
  | none => exact (List.append_nil _).symm
  | some c => rfl

end Performed

end World

/-! ## Running handler code -/

namespace HandlerM

variable {S : Type} {α β : Type}

@[simp] theorem exec_pure (a : α) (w : World S) :
    exec (pure a : HandlerM S α) w = (.ok a, w) := rfl

@[simp] theorem exec_lift (x : Except Exn α) (w : World S) :
    exec (liftM x : HandlerM S α) w = (x, w) := rfl

@[simp] theorem exec_get (w : World S) : exec (get : HandlerM S (World S)) w = (.ok w, w) := rfl

@[simp] theorem exec_set (w w' : World S) : exec (set w' : HandlerM S PUnit) w = (.ok ⟨⟩, w') := rfl

@[simp] theorem exec_send (sender : S) (stream_id : StreamId) (response : HttpResponse)
    (w : World S) :
    exec (send sender stream_id response) w = (.ok (), w.reply sender stream_id response) := rfl

@[simp] theorem exec_callRegistry (c : RegistryCall) (w : World S) :
    exec (callRegistry c) w = (.ok (), w.call c) := rfl

/-- Sequencing: the second part runs in the world the first one leaves, unless
that one threw. -/
theorem exec_bind (x : HandlerM S α) (f : α → HandlerM S β) (w : World S) :
    exec (x >>= f) w
      = match exec x w with
        | (.ok a, w') => exec (f a) w'
        | (.error e, w') => (.error e, w') := by
  simp only [exec, ExceptT.run_bind, StateT.run_bind]
  rcases hx : (ExceptT.run x).run w with ⟨r, w'⟩
  cases r <;> rfl

/-- `try … catch (const std::exception&) …`: the handler runs in the world the
throwing code left, with nothing undone. -/
theorem exec_tryCatch (x : HandlerM S α) (handler : Exn → HandlerM S α) (w : World S) :
    exec (tryCatch x handler) w
      = match exec x w with
        | (.ok a, w') => (.ok a, w')
        | (.error e, w') => exec (handler e) w' := by
  simp only [exec, ExceptT.run_tryCatch, StateT.run_bind]
  rcases hx : (ExceptT.run x).run w with ⟨r, w'⟩
  cases r <;> rfl

end HandlerM

end Http2Server
