/-
Which handler a request finds.

The table is asked with string views, and filled with them, but a key is made of what is
read from `data()` up to the first NUL. That may be less than the view shows, or more, or
not end at all, so a route can be missed, hit by mistake, or looked up in memory that is not
the caller's. The fallback, `handle_default_routes`, compares the views.

`respectsViews_iff` says for which registrations and requests the handler that runs is the
one the characters of the views select: a registration may only be read in agreement with the
request, as characters and as C strings, unless a later one that agrees in both ways stands
in its place.
-/
import Http2Server.RequestHandler
import Http2Server.Lib.Pool

set_option autoImplicit false

open ByteString

namespace Http2Server

namespace RequestHandler

variable {H S : Type}

/-! ## Registrations -/

/-- The views of one call of `register_route`. -/
structure RouteCall where
  p_method : StringView
  p_path : StringView
  deriving DecidableEq, Repr

/-- The table after a sequence of calls, the `n`-th with the `n`-th callback. -/
def register_routes (calls : List RouteCall) (callbacks : ℕ → H) : RequestHandler H :=
  calls.zipIdx.foldl (fun handler call =>
    handler.register_route call.1.p_method call.1.p_path (callbacks call.2)) empty

/-- The route is for the method and path of a request, character by character. -/
def RouteCall.SameChars (p_method p_path : StringView) (call : RouteCall) : Prop :=
  call.p_method.chars = p_method.chars ∧ call.p_path.chars = p_path.chars

/-- The route is for the method and path of a request by what the table is keyed with. -/
def RouteCall.SameKey (p_method p_path : StringView) (call : RouteCall) : Prop :=
  routeKey call.p_method call.p_path = routeKey p_method p_path

/-- The views a request is looked up with, and those it is looked up among. -/
def views (calls : List RouteCall) (p_method p_path : StringView) : List StringView :=
  p_method :: p_path :: calls.flatMap fun call => [call.p_method, call.p_path]

/-- The `n`-th call is the last one of its kind. -/
abbrev Latest (kind : RouteCall → Prop) (calls : List RouteCall) (n : ℕ) : Prop :=
  Record.Stands kind kind calls n

/-! ## What respecting the views means -/

/-- The handler of a request, run as `handle_request` runs it. -/
def guarded (json : JsonLibrary) (p_stream_id : StreamId) (p_sender : S)
    (code : HandlerM S Unit) : HandlerM S Unit :=
  tryCatch code fun _ =>
    HandlerM.send p_sender p_stream_id
      { status_code := 500
        body := json.dump (create_error_response 500 "Internal server error") }

/-- **The views are respected**: no key is read past the memory behind its view; what runs
is the callback most recently registered for the characters of the request's method and
path, whatever the callbacks are; and it is the default handler when there is none. So the
outcome is a matter of the characters of the views alone. -/
structure RespectsViews (json : JsonLibrary) (calls : List RouteCall)
    (p_method p_path : StringView) : Prop where
  within : ∀ view ∈ views calls p_method p_path, view.Terminated
  route : ∀ n, Latest (RouteCall.SameChars p_method p_path) calls n →
    ∀ (S : Type) (callbacks : ℕ → RequestCB S) (p_body : StringView) (p_stream_id : StreamId)
      (p_sender : S),
      (register_routes calls callbacks).handle_request json p_method p_path p_body p_stream_id
          p_sender
        = guarded json p_stream_id p_sender
            (callbacks n p_method p_path p_body p_stream_id p_sender)
  default : (∀ call ∈ calls, ¬ call.SameChars p_method p_path) →
    ∀ (S : Type) (callbacks : ℕ → RequestCB S) (p_body : StringView) (p_stream_id : StreamId)
      (p_sender : S),
      (register_routes calls callbacks).handle_request json p_method p_path p_body p_stream_id
          p_sender
        = guarded json p_stream_id p_sender
            (handle_default_routes json p_method p_path p_stream_id p_sender)

/-- **When they are**: every view's memory holds a NUL, and every registration has the
request's method and path as C strings if and only if it has them as characters, or is
followed by one that has them in both ways. -/
def ReadAlike (calls : List RouteCall) (p_method p_path : StringView) : Prop :=
  (∀ view ∈ views calls p_method p_path, view.Terminated)
    ∧ ∀ (n : ℕ) call, calls[n]? = some call →
        (call.SameKey p_method p_path ↔ call.SameChars p_method p_path)
          ∨ ∃ (m : ℕ) (later : RouteCall), n < m ∧ calls[m]? = some later
              ∧ later.SameKey p_method p_path ∧ later.SameChars p_method p_path

/-! ## What the table holds -/

section Table

variable (calls : List RouteCall) (callbacks : ℕ → H) (p_method p_path : StringView)

theorem register_routes_concat (call : RouteCall) :
    register_routes (calls ++ [call]) callbacks
      = (register_routes calls callbacks).register_route call.p_method call.p_path
          (callbacks calls.length) := by
  rw [register_routes, List.zipIdx_append, List.foldl_append]
  simp [register_routes]

/-- The route found is the latest one under the request's key. -/
theorem find_route_of_latest {n : ℕ} (h : Latest (RouteCall.SameKey p_method p_path) calls n) :
    (register_routes calls callbacks).find_route p_method p_path = some (callbacks n) := by
  induction calls using List.reverseRecOn with
  | nil => exact absurd h Record.not_stands_nil
  | append_singleton calls call ih =>
      rw [register_routes_concat, find_route, register_route]
      rcases Record.stands_concat_iff.mp h with ⟨rfl, hkey⟩ | ⟨hlatest, hkey⟩
      · rw [← hkey]
        exact Finmap.lookup_insert _
      · rw [Finmap.lookup_insert_of_ne _ (Ne.symm hkey)]
        exact ih hlatest

/-- No route is found when there is none under the request's key. -/
theorem find_route_eq_none (h : ∀ call ∈ calls, ¬ call.SameKey p_method p_path) :
    (register_routes calls callbacks).find_route p_method p_path = none := by
  induction calls using List.reverseRecOn with
  | nil => exact Finmap.lookup_empty _
  | append_singleton calls call ih =>
      rw [List.forall_mem_append, List.forall_mem_singleton] at h
      rw [register_routes_concat, find_route, register_route,
        Finmap.lookup_insert_of_ne _ (Ne.symm h.2)]
      exact ih h.1

end Table

/-! ## What runs -/

section Handling

variable (json : JsonLibrary) (calls : List RouteCall) (callbacks : ℕ → RequestCB S)
  (p_method p_path p_body : StringView) (p_stream_id : StreamId) (p_sender : S)

/-- The latest callback under the request's key runs. -/
theorem handle_request_of_latest {n : ℕ} (h : Latest (RouteCall.SameKey p_method p_path) calls n) :
    (register_routes calls callbacks).handle_request json p_method p_path p_body p_stream_id
        p_sender
      = guarded json p_stream_id p_sender
          (callbacks n p_method p_path p_body p_stream_id p_sender) := by
  rw [handle_request, find_route_of_latest calls callbacks p_method p_path h]
  rfl

/-- The default handler runs when there is no route under the request's key. -/
theorem handle_request_of_none (h : ∀ call ∈ calls, ¬ call.SameKey p_method p_path) :
    (register_routes calls callbacks).handle_request json p_method p_path p_body p_stream_id
        p_sender
      = guarded json p_stream_id p_sender
          (handle_default_routes json p_method p_path p_stream_id p_sender) := by
  rw [handle_request, find_route_eq_none calls callbacks p_method p_path h]
  rfl

end Handling

/-! ## Telling handlers apart -/

/-- The `n`-th of a family of callbacks that answer with different statuses, none of them one
of the default handler's. -/
def marker (n : ℕ) : RequestCB Unit := fun _ _ _ p_stream_id p_sender =>
  HandlerM.send p_sender p_stream_id { status_code := 1000 + n }

/-- The status of the first answer a handler gives. -/
def firstStatus (code : HandlerM Unit Unit) : Option ℤ :=
  ((HandlerM.exec code (World.serving .empty)).2.replies.head?).map fun reply =>
    reply.response.status_code

variable (json : JsonLibrary) (p_method p_path p_body : StringView) (p_stream_id : StreamId)

theorem firstStatus_marker (n : ℕ) :
    firstStatus (guarded json p_stream_id () (marker n p_method p_path p_body p_stream_id ()))
      = some (1000 + (n : ℤ)) := rfl

theorem firstStatus_default :
    firstStatus (guarded json p_stream_id ()
        (handle_default_routes json p_method p_path p_stream_id ())) = some 200
      ∨ firstStatus (guarded json p_stream_id ()
        (handle_default_routes json p_method p_path p_stream_id ())) = some 404 := by
  rw [handle_default_routes]
  split_ifs
  · exact Or.inl rfl
  · exact Or.inr rfl

/-- Different callbacks of the family are different handlers. -/
theorem eq_of_guarded_marker {n m : ℕ}
    (h : guarded json p_stream_id () (marker n p_method p_path p_body p_stream_id ())
      = guarded json p_stream_id () (marker m p_method p_path p_body p_stream_id ())) : n = m := by
  have hstatus := congrArg firstStatus h
  rw [firstStatus_marker, firstStatus_marker, Option.some.injEq] at hstatus
  omega

/-- No callback of the family is the default handler. -/
theorem guarded_marker_ne_default (n : ℕ) :
    guarded json p_stream_id () (marker n p_method p_path p_body p_stream_id ())
      ≠ guarded json p_stream_id ()
          (handle_default_routes json p_method p_path p_stream_id ()) := by
  intro h
  have hstatus := congrArg firstStatus h
  rw [firstStatus_marker] at hstatus
  rcases firstStatus_default json p_method p_path p_stream_id with hdefault | hdefault
  · rw [hdefault, Option.some.injEq] at hstatus
    omega
  · rw [hdefault, Option.some.injEq] at hstatus
    omega

/-! ## When the views are respected -/

variable {json p_method p_path} {calls : List RouteCall}

/-- The latest route by characters is then the latest by key. -/
theorem RespectsViews.latest_iff (h : RespectsViews json calls p_method p_path) (n : ℕ) :
    Latest (RouteCall.SameKey p_method p_path) calls n
      ↔ Latest (RouteCall.SameChars p_method p_path) calls n := by
  constructor
  · intro hkey
    have hruns := handle_request_of_latest json calls marker p_method p_path ⟨[], 0⟩ 1 () hkey
    by_cases hsome : ∃ call ∈ calls, call.SameChars p_method p_path
    · obtain ⟨m, hchars⟩ := Record.exists_last_iff.mpr hsome
      rw [h.route m hchars] at hruns
      exact eq_of_guarded_marker json p_method p_path _ 1 hruns ▸ hchars
    · rw [h.default fun call hcall hchars => hsome ⟨call, hcall, hchars⟩] at hruns
      exact absurd hruns.symm (guarded_marker_ne_default json p_method p_path _ 1 n)
  · intro hchars
    have hruns := h.route n hchars Unit marker ⟨[], 0⟩ 1 ()
    by_cases hsome : ∃ call ∈ calls, call.SameKey p_method p_path
    · obtain ⟨m, hkey⟩ := Record.exists_last_iff.mpr hsome
      rw [handle_request_of_latest json calls marker p_method p_path _ 1 () hkey] at hruns
      exact eq_of_guarded_marker json p_method p_path _ 1 hruns ▸ hkey
    · rw [handle_request_of_none json calls marker p_method p_path _ 1 ()
        fun call hcall hkey => hsome ⟨call, hcall, hkey⟩] at hruns
      exact absurd hruns.symm (guarded_marker_ne_default json p_method p_path _ 1 n)

/-- **When route lookup respects its views**: when no view is read past its memory, and the
registrations and the request are read alike as characters and as C strings. -/
theorem respectsViews_iff (json : JsonLibrary) (calls : List RouteCall)
    (p_method p_path : StringView) :
    RespectsViews json calls p_method p_path ↔ ReadAlike calls p_method p_path := by
  constructor
  · intro h
    exact ⟨h.within, Record.stands_iff_stands_iff.mp h.latest_iff⟩
  · rintro ⟨hwithin, halike⟩
    have hiff := Record.stands_iff_stands_iff.mpr halike
    refine ⟨hwithin, fun n hchars S callbacks p_body p_stream_id p_sender => ?_,
      fun hnone S callbacks p_body p_stream_id p_sender => ?_⟩
    · exact handle_request_of_latest json calls callbacks p_method p_path p_body p_stream_id
        p_sender ((hiff n).mpr hchars)
    · refine handle_request_of_none json calls callbacks p_method p_path p_body p_stream_id
        p_sender fun call hcall hkey => ?_
      -- a route under the key would be the latest by characters too
      obtain ⟨n, hlatest⟩ := Record.exists_last_iff.mpr ⟨call, hcall, hkey⟩
      obtain ⟨call', hcall', hchars⟩ := ((hiff n).mp hlatest).exists_mem
      exact hnone call' hcall' hchars

/-- The views are read alike where each of them ends at the first NUL of its memory. -/
theorem readAlike_of_exact (h : ∀ view ∈ views calls p_method p_path, view.Exact) :
    ReadAlike calls p_method p_path := by
  refine ⟨fun view hview => (h view hview).1, fun n call hcall => Or.inl ?_⟩
  have hmem : ∀ view ∈ [call.p_method, call.p_path], view ∈ views calls p_method p_path :=
    fun view hview => List.mem_cons_of_mem _ (List.mem_cons_of_mem _
      (List.mem_flatMap.mpr ⟨call, List.mem_of_getElem? hcall, hview⟩))
  rw [RouteCall.SameKey, routeKey, routeKey, Prod.mk.injEq, (h _ (hmem call.p_method (by simp))).2,
    (h _ (hmem call.p_path (by simp))).2, (h p_method (List.mem_cons_self ..)).2,
    (h p_path (List.mem_cons_of_mem _ (List.mem_cons_self ..))).2]
  rfl

/-- The views of whole strings without NUL are read alike, as those of a literal. -/
theorem readAlike_of_strings (h : ∀ view ∈ views calls p_method p_path,
    ∃ s : Bytes, (0 : UInt8) ∉ s ∧ view = .of s) : ReadAlike calls p_method p_path := by
  refine readAlike_of_exact fun view hview => ?_
  obtain ⟨s, hs, rfl⟩ := h view hview
  exact StringView.exact_of hs

/-- A route, registered with literals; a view of the method in a request line, which goes on
behind it; and a view of the first character of a path. -/
def route : RouteCall := ⟨.of (bytes "GET"), .of (bytes "/a")⟩

def methodInLine : StringView := ⟨nulTerminated (bytes "GET /a"), 3⟩

def firstOfPath : StringView := ⟨nulTerminated (bytes "/a"), 1⟩

/-- **Views are not respected**: with the first the route is missed, although the method and
the path are its own, and with the second it is hit, although the path is another. -/
theorem route_missed_and_hit :
    let json : JsonLibrary := ⟨fun _ => none, fun _ => []⟩
    ¬ RespectsViews json [route] methodInLine (.of (bytes "/a"))
      ∧ ¬ RespectsViews json [route] (.of (bytes "GET")) firstOfPath := by
  have hfirst : ∀ kind : RouteCall → Prop, Latest kind [route] 0 ↔ kind route := by
    intro kind
    constructor
    · rintro ⟨⟨call, hcall, hkind⟩, -⟩
      exact Option.some.inj hcall ▸ hkind
    · exact fun hkind => ⟨⟨route, rfl, hkind⟩, fun m call hm hcall => by
        rw [List.getElem?_eq_none_iff.mpr hm] at hcall
        exact absurd hcall (by simp)⟩
  constructor
  · intro h
    have hkey := ((h.latest_iff 0).trans (hfirst _)).mpr ⟨by decide, by decide⟩
    exact absurd ((hfirst _).mp hkey) (by rw [RouteCall.SameKey]; decide)
  · intro h
    have hkey : RouteCall.SameKey (.of (bytes "GET")) firstOfPath route := by
      rw [RouteCall.SameKey]
      decide
    have hchars := (hfirst _).mp ((h.latest_iff 0).mp ((hfirst _).mpr hkey))
    exact absurd hchars.2 (by decide)

end RequestHandler

end Http2Server
