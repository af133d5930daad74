import AuthGateway.Proofs.Gateway.Dispatch
import AuthGateway.Proofs.Gateway.Ways
import AuthGateway.Proofs.Net.Response
import AuthGateway.Proofs.Store.History

namespace AuthGateway

/-!
# An authentication fails closed

A request is let in as the owner of the session that it brings, and only if the session is marked or
its provider has just vouched for it and the marker could be stored.  It is sent to the login page just
when it brings no session of anybody or the provider disowns the session.  Everything else is an error
of the gateway, or the crash of the provider.  The services and the status page let nobody in whom the
authentication does not let in (`Gateway.fails_closed`).

The memory stays as it is unless the provider has vouched and the marker could be set.  Then the marker
is there, even where its deadline could not be set and the request fails for that
(`Gateway.marked_of_expiryDown`).
-/

open Net (HeaderMap Request Response)

namespace Authenticator

/-- A marker can be set, and then its deadline. -/
structure Storable (env : Surroundings) (cache : Cache) : Prop where
  set : env.conditions.outage (cache.calls + 1) .set = none
  dated : env.conditions.outage (cache.calls + 2) .expire = none

/-- Why the session cannot be checked: a call of the cache fails, or the provider does. -/
inductive Fault (a : Authenticator) (env : Surroundings) (cache : Cache) (info : Session) :
    GatewayError → Prop where
  | unsearched {reason : String} (fails : env.conditions.outage cache.calls .get = some reason) :
      Fault a env cache info (outageError reason)
  | refused (unmarked : Unmarked env cache info) {e : AuthError}
      (refusal : (a.answer env info).ending = .refused e) (known : e ≠ .noSuchUser)
      (enabled : e ≠ .accountDisabled) : Fault a env cache info (.ofAuth e)
  | unset (unmarked : Unmarked env cache info) (vouched : a.Vouches env info) {reason : String}
      (fails : env.conditions.outage (cache.calls + 1) .set = some reason) :
      Fault a env cache info (outageError reason)
  | undated (unmarked : Unmarked env cache info) (vouched : a.Vouches env info)
      (set : env.conditions.outage (cache.calls + 1) .set = none) {reason : String}
      (fails : env.conditions.outage (cache.calls + 2) .expire = some reason) :
      Fault a env cache info (outageError reason)

/-- Nobody is let in and nothing is written without a good reason. -/
structure Closed (a : Authenticator) (env : Surroundings) (cache : Cache) (headers : HeaderMap)
    (done : Authentication) : Prop where
  known : ∀ info, done.result = .ok (some info) ↔
    a.Presents env headers info ∧
      (Marked env cache info ∨
        (Unmarked env cache info ∧ a.Vouches env info ∧ Storable env cache))
  unknown : done.result = .ok none ↔
    (∀ info, ¬ a.Presents env headers info) ∨
      ∃ info, a.Presents env headers info ∧ Unmarked env cache info ∧ a.Disowns env info
  silent : (∀ info, ¬ a.Presents env headers info) → done.calls = [] ∧ done.cache = cache
  failed : ∀ e, done.result = .error (.error e) ↔
    ∃ info, a.Presents env headers info ∧ a.Fault env cache info e
  internal : ∀ e, done.result = .error (.error e) → e.status = 500
  crashed : ∀ message, done.result = .error (.crash message) ↔
    ∃ info, a.Presents env headers info ∧ Unmarked env cache info ∧
      (a.answer env info).ending = .crashed message
  written : ∀ info, a.Presents env headers info → Unmarked env cache info → a.Vouches env info →
    env.conditions.outage (cache.calls + 1) .set = none →
      done.cache.memory =
        if env.conditions.outage (cache.calls + 2) .expire = none then dating env cache info
        else marking env cache info
  kept : (∀ info, a.Presents env headers info → Unmarked env cache info → a.Vouches env info →
      env.conditions.outage (cache.calls + 1) .set ≠ none) → done.cache.memory = cache.memory

variable {a : Authenticator} {env : Surroundings} {cache : Cache} {headers : HeaderMap}
  {done : Authentication}

theorem Fault.status_eq {info : Session} {e : GatewayError} (fault : a.Fault env cache info e) :
    e.status = 500 := by
  cases fault with
  | _ => rfl

section

variable (ends : Ends a env cache headers done)

include ends

private theorem result_eq_some_iff (info : Session) :
    done.result = .ok (some info) ↔
      a.Presents env headers info ∧
        (Marked env cache info ∨
          (Unmarked env cache info ∧ a.Vouches env info ∧ Storable env cache)) := by
  constructor
  · intro known
    cases ends with
    | trusted presents marked =>
      cases known
      exact ⟨presents, Or.inl marked⟩
    | verified presents unmarked vouched set dated =>
      cases known
      exact ⟨presents, Or.inr ⟨unmarked, vouched, set, dated⟩⟩
    | _ => exact absurd known (by simp)
  · rw [← ends_iff.mp ends]
    rintro ⟨presents, marked | ⟨unmarked, vouched, storable⟩⟩
    · rw [authenticate_of_ends (.trusted presents marked)]
    · rw [authenticate_of_ends (.verified presents unmarked vouched storable.set storable.dated)]

private theorem result_eq_none_iff :
    done.result = .ok none ↔
      (∀ info, ¬ a.Presents env headers info) ∨
        ∃ info, a.Presents env headers info ∧ Unmarked env cache info ∧ a.Disowns env info := by
  constructor
  · intro unknown
    cases ends with
    | unknown nobody => exact Or.inl nobody
    | disowned presents unmarked disowned => exact Or.inr ⟨_, presents, unmarked, disowned⟩
    | _ => exact absurd unknown (by simp)
  · rw [← ends_iff.mp ends]
    rintro (nobody | ⟨info, presents, unmarked, disowned⟩)
    · rw [authenticate_of_ends (.unknown nobody)]
    · rw [authenticate_of_ends (.disowned presents unmarked disowned)]

private theorem result_eq_error_iff (e : GatewayError) :
    done.result = .error (.error e) ↔
      ∃ info, a.Presents env headers info ∧ a.Fault env cache info e := by
  constructor
  · intro failed
    cases ends with
    | unsearched presents fails =>
      cases failed
      exact ⟨_, presents, .unsearched fails⟩
    | refused presents unmarked refusal known enabled =>
      cases failed
      exact ⟨_, presents, .refused unmarked refusal known enabled⟩
    | unset presents unmarked vouched fails =>
      cases failed
      exact ⟨_, presents, .unset unmarked vouched fails⟩
    | undated presents unmarked vouched set fails =>
      cases failed
      exact ⟨_, presents, .undated unmarked vouched set fails⟩
    | _ => exact absurd failed (by simp)
  · rw [← ends_iff.mp ends]
    rintro ⟨info, presents, fault⟩
    cases fault with
    | unsearched fails => rw [authenticate_of_ends (.unsearched presents fails)]
    | refused unmarked refusal known enabled =>
      rw [authenticate_of_ends (.refused presents unmarked refusal known enabled)]
    | unset unmarked vouched fails =>
      rw [authenticate_of_ends (.unset presents unmarked vouched fails)]
    | undated unmarked vouched set fails =>
      rw [authenticate_of_ends (.undated presents unmarked vouched set fails)]

private theorem result_eq_crash_iff (message : String) :
    done.result = .error (.crash message) ↔
      ∃ info, a.Presents env headers info ∧ Unmarked env cache info ∧
        (a.answer env info).ending = .crashed message := by
  constructor
  · intro failed
    cases ends with
    | crashed presents unmarked crash =>
      cases failed
      exact ⟨_, presents, unmarked, crash⟩
    | _ => exact absurd failed (by simp)
  · rw [← ends_iff.mp ends]
    rintro ⟨info, presents, unmarked, crash⟩
    rw [authenticate_of_ends (.crashed presents unmarked crash)]

private theorem memory_of_vouched {info : Session} (presents : a.Presents env headers info)
    (unmarked : Unmarked env cache info) (vouched : a.Vouches env info)
    (set : env.conditions.outage (cache.calls + 1) .set = none) :
    done.cache.memory =
      if env.conditions.outage (cache.calls + 2) .expire = none then dating env cache info
      else marking env cache info := by
  rw [← ends_iff.mp ends]
  cases dated : env.conditions.outage (cache.calls + 2) .expire with
  | none =>
    rw [authenticate_of_ends (.verified presents unmarked vouched set dated)]
    rfl
  | some reason =>
    rw [authenticate_of_ends (.undated presents unmarked vouched set dated)]
    rfl

private theorem memory_of_unset
    (unset : ∀ info, a.Presents env headers info → Unmarked env cache info → a.Vouches env info →
      env.conditions.outage (cache.calls + 1) .set ≠ none) :
    done.cache.memory = cache.memory := by
  cases ends with
  | undated presents unmarked vouched set fails =>
    exact absurd set (unset _ presents unmarked vouched)
  | verified presents unmarked vouched set dated =>
    exact absurd set (unset _ presents unmarked vouched)
  | _ => rfl

end

variable (a env cache headers) in
/-- An authentication fails closed, whichever way it goes. -/
theorem closed_authenticate : Closed a env cache headers (a.authenticate env cache headers) := by
  have ends : Ends a env cache headers (a.authenticate env cache headers) := ends_iff.mpr rfl
  exact {
    known := result_eq_some_iff ends
    unknown := result_eq_none_iff ends
    silent := fun nobody => by
      rw [authenticate_of_ends (.unknown nobody)]
      exact ⟨rfl, rfl⟩
    failed := result_eq_error_iff ends
    internal := fun e failed => by
      rcases (result_eq_error_iff ends e).mp failed with ⟨info, -, fault⟩
      exact fault.status_eq
    crashed := result_eq_crash_iff ends
    written := fun _ => memory_of_vouched ends
    kept := memory_of_unset ends }

/-- A marker without a deadline is there for good, although its request has failed. -/
theorem marked_of_undated {info : Session} (presents : a.Presents env headers info)
    (unmarked : Unmarked env cache info) (vouched : a.Vouches env info)
    (set : env.conditions.outage (cache.calls + 1) .set = none) {reason : String}
    (fails : env.conditions.outage (cache.calls + 2) .expire = some reason) (later : Time.Instant) :
    (a.authenticate env cache headers).result = .error (.error (outageError reason)) ∧
      (a.authenticate env cache headers).cache.memory.get later (Marker.key info.id) ≠ "" := by
  have marker : (marking env cache info).get later (Marker.key info.id) = Marker.text env.time :=
    Memory.get_put_self { value := Marker.text env.time, deadline := none }
  rw [authenticate_of_ends (.undated presents unmarked vouched set fails)]
  refine ⟨rfl, ?_⟩
  change (marking env cache info).get later (Marker.key info.id) ≠ ""
  rw [marker]
  exact Marker.text_ne_empty env.time

end Authenticator

namespace Gateway

variable {g : Gateway} {env : Surroundings} {state : State} {request : Request}

/-- What comes of a request that is answered only after an authentication: whom that does not let in,
it sends to the login page or turns away, and nothing is sent on. -/
structure Guarded (done : Authentication) (state : State) (handled : Handled) : Prop where
  calls : handled.calls = done.calls
  state : handled.state = { state with cache := done.cache }
  unknown : done.result = .ok none →
    handled.sent = none ∧ ∃ response, handled.response = .ok response ∧ response.status = 303
  failed : ∀ e, done.result = .error (.error e) →
    handled.sent = none ∧ ∃ response, handled.response = .ok response ∧ response.status = e.status
  crashed : ∀ message, done.result = .error (.crash message) →
    handled.sent = none ∧
      (handled.response = .error message ∨
        ∃ response, handled.response = .ok response ∧ response.status = 500)

variable (g env state request) in
theorem guarded_handleService :
    Guarded (g.authenticator.authenticate env state.cache request.headers) state
      (g.handleService env state request) where
  calls := rfl
  state := rfl
  unknown := fun unknown => by
    simp only [handleService, dispatch, unknown, conclude]
    exact ⟨trivial, _, rfl, Response.status_sized⟩
  failed := fun e failed => by
    simp only [handleService, dispatch, failed, conclude]
    exact ⟨trivial, _, rfl, Response.status_sized.trans e.status_response⟩
  crashed := fun message crashed => by
    simp only [handleService, dispatch, crashed, conclude]
    exact ⟨trivial, Or.inr ⟨_, rfl, Response.status_sized⟩⟩

/-- Whatever the method, the status page has the status of its response. -/
private theorem status_finished (method : String) (response : Response) :
    (if method = "GET" then response.sized
      else if method = "HEAD" then response.sized.withoutBody
      else response.sized.allowing "GET,HEAD").status = response.status := by
  split
  · exact Response.status_sized
  · split
    · exact Response.status_withoutBody.trans Response.status_sized
    · exact (Response.status_allowing _).trans Response.status_sized

variable (g env state request) in
theorem guarded_handleStatus :
    Guarded (g.authenticator.authenticate env state.cache request.headers) state
      (g.handleStatus env state request) where
  calls := rfl
  state := rfl
  unknown := fun unknown => by
    simp only [handleStatus, unknown]
    exact ⟨trivial, _, rfl, status_finished request.method loginRedirect⟩
  failed := fun e failed => by
    simp only [handleStatus, failed, settle]
    exact ⟨trivial, _, rfl, (status_finished request.method e.response).trans e.status_response⟩
  crashed := fun message crashed => by
    simp only [handleStatus, crashed]
    exact ⟨trivial, Or.inl rfl⟩

/-- The authentication of a request fails closed, whichever cookies it brings, whatever the provider
does and whichever calls of the cache fail, and so do the services and the status page behind it. -/
theorem fails_closed (g : Gateway) (env : Surroundings) (state : State) (request : Request) :
    let done := g.authenticator.authenticate env state.cache request.headers
    g.authenticator.Closed env state.cache request.headers done ∧
      Guarded done state (g.handleService env state request) ∧
        Guarded done state (g.handleStatus env state request) :=
  ⟨g.authenticator.closed_authenticate env state.cache request.headers,
    guarded_handleService g env state request, guarded_handleStatus g env state request⟩

theorem presents_alice {env : Surroundings} (same : env.time = .epoch) :
    wikiGateway.authenticator.Presents env aliceRequest.headers alice := by
  let cookie := wikiGateway.authenticator.cookie
  have brought : aliceRequest.headers.getAll .cookie =
      [.ofVisible (cookie.pairText (cookie.encode 0 quiet.nonce alice))] := rfl
  have read : cookie.sessionIn Time.Timestamp.epoch.unixSeconds aliceRequest.headers = .ok alice :=
    SessionCookie.sessionIn_pairText (by decide) (by decide) (by decide) rfl alice brought (by decide)
  rw [← same] at read
  exact Authenticator.claimed_eq_some_iff.mp (Authenticator.claimed_of_sessionIn read (by decide))

/-- If no deadline can be set, the first request of a session fails and leaves a marker all the same. -/
theorem marked_of_expiryDown :
    let env := { quiet with conditions := { now := 0, outage := Store.expiryDown } }
    let a := wikiGateway.authenticator
    (∃ e, (a.authenticate env .empty aliceRequest.headers).result = .error (.error e) ∧
        e.status = 500) ∧
      Memory.empty.get 0 (Marker.key alice.id) = "" ∧
      (a.authenticate env .empty aliceRequest.headers).cache.memory.get 0 (Marker.key alice.id) ≠ "" := by
  intro env a
  have presents : a.Presents env aliceRequest.headers alice := presents_alice rfl
  have unmarked : Authenticator.Unmarked env .empty alice := ⟨rfl, rfl⟩
  have vouched : a.Vouches env alice := Authenticator.verdict_eq_ok_true_iff.mp rfl
  have fails : env.conditions.outage (Cache.empty.calls + 2) .expire = some "expire is down" := rfl
  rcases Authenticator.marked_of_undated presents unmarked vouched rfl fails 0 with ⟨failed, marked⟩
  exact ⟨⟨_, failed, rfl⟩, rfl, marked⟩

end Gateway

end AuthGateway
