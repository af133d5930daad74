import AuthGateway.Gateway.Authenticator
import AuthGateway.Proofs.Session.Marker

namespace AuthGateway

/-!
# The ways in which an authentication can go

A request brings a session of somebody or it does not.  If it does, the marker of the session is looked
for; if there is none, the provider is asked; if that vouches for the session, a marker is set, and then
its deadline.  The cache can fail at three places, and the provider can refuse or crash.  So there are
nine ways, each with its result, the calls of the provider and the cache that it leaves, and every
authentication goes just one of them (`Authenticator.ends_iff`).
-/

open Net (HeaderMap)

namespace Authenticator

/-- The request brings a token that can be read, of a session with an account. -/
structure Presents (a : Authenticator) (env : Surroundings) (headers : HeaderMap) (info : Session) :
    Prop where
  decoded : ∃ token, a.cookie.tokenIn headers = some token ∧
    a.cookie.decode env.time.unixSeconds token = .ok info
  named : info.account ≠ ""

/-- The marker of the session is found. -/
structure Marked (env : Surroundings) (cache : Cache) (info : Session) : Prop where
  works : env.conditions.outage cache.calls .get = none
  found : cache.memory.get env.conditions.now (Marker.key info.id) ≠ ""

/-- The marker of the session is looked for, and there is none. -/
structure Unmarked (env : Surroundings) (cache : Cache) (info : Session) : Prop where
  works : env.conditions.outage cache.calls .get = none
  missing : cache.memory.get env.conditions.now (Marker.key info.id) = ""

/-- What the provider says of the owner of the session. -/
def answer (a : Authenticator) (env : Surroundings) (info : Session) : Answer Identity :=
  env.provider.get (a.accountOf info)

/-- The provider vouches for the owner of the session. -/
def Vouches (a : Authenticator) (env : Surroundings) (info : Session) : Prop :=
  ∃ user, (a.answer env info).ending = .value user

/-- The provider does not know the owner of the session any more, or not as a user. -/
def Disowns (a : Authenticator) (env : Surroundings) (info : Session) : Prop :=
  (a.answer env info).ending = .refused .noSuchUser ∨
    (a.answer env info).ending = .refused .accountDisabled

/-- The memory with a new marker of the session, without a deadline. -/
def marking (env : Surroundings) (cache : Cache) (info : Session) : Memory :=
  cache.memory.set (Marker.key info.id) (Marker.text env.time)

/-- The memory with a new marker of the session that holds for as long as the session is trusted. -/
def dating (env : Surroundings) (cache : Cache) (info : Session) : Memory :=
  (marking env cache info).expire env.conditions.now (Marker.key info.id) Marker.validity

/-- The error for a call of the cache that has failed. -/
def outageError (reason : String) : GatewayError :=
  .ofCache (.backend reason)

/-- The cache after a call that has changed nothing. -/
def asked (cache : Cache) : Cache :=
  cache.called cache.memory

section

variable (a : Authenticator) (env : Surroundings) (cache : Cache) (headers : HeaderMap)

/-- The ways, each with all that comes of it. -/
inductive Ends : Authentication → Prop where
  | unknown (nobody : ∀ info, ¬ a.Presents env headers info) :
      Ends { result := .ok none, calls := [], cache := cache }
  | unsearched {info : Session} (presents : a.Presents env headers info) {reason : String}
      (fails : env.conditions.outage cache.calls .get = some reason) :
      Ends { result := .error (.error (outageError reason)), calls := [], cache := asked cache }
  | trusted {info : Session} (presents : a.Presents env headers info)
      (marked : Marked env cache info) :
      Ends { result := .ok (some info), calls := [], cache := asked cache }
  | disowned {info : Session} (presents : a.Presents env headers info)
      (unmarked : Unmarked env cache info) (disowned : a.Disowns env info) :
      Ends { result := .ok none, calls := (a.answer env info).calls, cache := asked cache }
  | refused {info : Session} (presents : a.Presents env headers info)
      (unmarked : Unmarked env cache info) {e : AuthError}
      (refusal : (a.answer env info).ending = .refused e) (known : e ≠ .noSuchUser)
      (enabled : e ≠ .accountDisabled) :
      Ends {
        result := .error (.error (.ofAuth e))
        calls := (a.answer env info).calls
        cache := asked cache }
  | crashed {info : Session} (presents : a.Presents env headers info)
      (unmarked : Unmarked env cache info) {message : String}
      (crash : (a.answer env info).ending = .crashed message) :
      Ends {
        result := .error (.crash message)
        calls := (a.answer env info).calls
        cache := asked cache }
  | unset {info : Session} (presents : a.Presents env headers info)
      (unmarked : Unmarked env cache info) (vouched : a.Vouches env info) {reason : String}
      (fails : env.conditions.outage (cache.calls + 1) .set = some reason) :
      Ends {
        result := .error (.error (outageError reason))
        calls := (a.answer env info).calls
        cache := asked (asked cache) }
  | undated {info : Session} (presents : a.Presents env headers info)
      (unmarked : Unmarked env cache info) (vouched : a.Vouches env info)
      (set : env.conditions.outage (cache.calls + 1) .set = none) {reason : String}
      (fails : env.conditions.outage (cache.calls + 2) .expire = some reason) :
      Ends {
        result := .error (.error (outageError reason))
        calls := (a.answer env info).calls
        cache := asked ((asked cache).called (marking env cache info)) }
  | verified {info : Session} (presents : a.Presents env headers info)
      (unmarked : Unmarked env cache info) (vouched : a.Vouches env info)
      (set : env.conditions.outage (cache.calls + 1) .set = none)
      (dated : env.conditions.outage (cache.calls + 2) .expire = none) :
      Ends {
        result := .ok (some info)
        calls := (a.answer env info).calls
        cache := ((asked cache).called (marking env cache info)).called (dating env cache info) }

end

variable {a : Authenticator} {env : Surroundings} {cache : Cache} {headers : HeaderMap}

section Presented

theorem claimed_eq_some_iff {info : Session} :
    a.claimed env headers = some info ↔ a.Presents env headers info := by
  unfold claimed SessionCookie.sessionIn
  constructor
  · intro claimed
    cases brought : a.cookie.tokenIn headers with
    | none => simp [brought] at claimed
    | some token =>
      rw [brought] at claimed
      dsimp only at claimed
      cases read : a.cookie.decode env.time.unixSeconds token with
      | error e => simp [read] at claimed
      | ok found =>
        rw [read] at claimed
        dsimp only at claimed
        split at claimed
        · rename_i authenticated
          cases claimed
          exact ⟨⟨token, brought, read⟩, of_decide_eq_true authenticated⟩
        · exact absurd claimed (by simp)
  · rintro ⟨⟨token, brought, read⟩, named⟩
    have authenticated : info.isAuthenticated = true := decide_eq_true named
    simp only [brought, read, authenticated, if_true]

theorem claimed_eq_none_iff :
    a.claimed env headers = none ↔ ∀ info, ¬ a.Presents env headers info := by
  rw [Option.eq_none_iff_forall_ne_some]
  exact forall_congr' fun info => not_congr claimed_eq_some_iff

/-- The verdict is a yes just when the provider vouches. -/
theorem verdict_eq_ok_true_iff {info : Session} :
    verdict (a.answer env info).ending = .ok true ↔ a.Vouches env info := by
  unfold Vouches
  cases (a.answer env info).ending with
  | value user => exact iff_of_true rfl ⟨user, rfl⟩
  | crashed message => exact iff_of_false (by simp [verdict]) (by simp)
  | refused e => exact iff_of_false (by cases e <;> simp [verdict]) (by simp)

end Presented

section Evaluated

variable {info : Session}

/-- What comes of the validation is what comes of the authentication. -/
private theorem authenticate_of_run (presents : a.Presents env headers info)
    {validation : Validation Failure} {left : Cache}
    (run : (Marker.validate (fun e => Failure.error (.ofCache e)) info.id env.time
      (verdict (a.answer env info).ending)).run env.conditions cache = (validation, left)) :
    a.authenticate env cache headers =
      { result := validation.result.map fun valid => if valid then some info else none
        calls := if validation.verified then (a.answer env info).calls else []
        cache := left } := by
  unfold answer at run
  simp only [authenticate, claimed_eq_some_iff.mpr presents, check, run, answer]
  cases validation.result with
  | error failure => rfl
  | ok valid => rfl

/-- All that the provider says but a yes is passed on. -/
private theorem authenticate_of_denied (presents : a.Presents env headers info)
    (unmarked : Unmarked env cache info) {verify : Except Failure Bool}
    (said : verdict (a.answer env info).ending = verify) (denied : verify ≠ .ok true) :
    a.authenticate env cache headers =
      { result := verify.map fun valid => if valid then some info else none
        calls := (a.answer env info).calls
        cache := asked cache } := by
  have run := Marker.run_validate_of_denied info.id env.time (fun e => Failure.error (.ofCache e))
    verify unmarked.works unmarked.missing denied
  rw [← said] at run
  rw [authenticate_of_run presents run, said]
  rfl

/-- A yes is passed on if the marker can be left. -/
private theorem authenticate_of_left (presents : a.Presents env headers info)
    (unmarked : Unmarked env cache info) (vouched : a.Vouches env info)
    {left : Except CacheError Unit × Cache}
    (leaves : (Marker.leave info.id env.time).run env.conditions (asked cache) = left) :
    a.authenticate env cache headers =
      { result := (left.1.mapError fun e => Failure.error (.ofCache e)).map fun () => some info
        calls := (a.answer env info).calls
        cache := left.2 } := by
  have yes : verdict (a.answer env info).ending = .ok true := verdict_eq_ok_true_iff.mpr vouched
  have run := Marker.run_validate_of_confirmed info.id env.time
    (fun e => Failure.error (.ofCache e)) unmarked.works unmarked.missing
  rw [← yes, show (Marker.leave info.id env.time).run env.conditions (cache.called cache.memory) = left
    from leaves] at run
  rw [authenticate_of_run presents run]
  cases left.1 with
  | error e => rfl
  | ok done => rfl

end Evaluated

/-- Whichever way it goes, this comes of it. -/
theorem authenticate_of_ends {done : Authentication} (ends : Ends a env cache headers done) :
    a.authenticate env cache headers = done := by
  cases ends with
  | unknown nobody => simp only [authenticate, claimed_eq_none_iff.mpr nobody]
  | @unsearched info presents reason fails =>
    rw [authenticate_of_run presents (Marker.run_validate_of_fails info.id env.time _ _ fails)]
    rfl
  | @trusted info presents marked =>
    rw [authenticate_of_run presents
      (Marker.run_validate_of_found info.id env.time _ _ marked.works marked.found)]
    rfl
  | @disowned info presents unmarked disowned =>
    have no : verdict (a.answer env info).ending = .ok false := by
      rcases disowned with missing | disabled
      · rw [missing]
        rfl
      · rw [disabled]
        rfl
    rw [authenticate_of_denied presents unmarked no (by simp)]
    rfl
  | @refused info presents unmarked e refusal known enabled =>
    have failed : verdict (a.answer env info).ending = .error (.error (.ofAuth e)) := by
      rw [refusal]
      cases e with
      | noSuchUser => exact absurd rfl known
      | accountDisabled => exact absurd rfl enabled
      | _ => rfl
    rw [authenticate_of_denied presents unmarked failed (by simp)]
    rfl
  | @crashed info presents unmarked message crash =>
    have failed : verdict (a.answer env info).ending = .error (.crash message) := by
      rw [crash]
      rfl
    rw [authenticate_of_denied presents unmarked failed (by simp)]
    rfl
  | @unset info presents unmarked vouched reason fails =>
    exact authenticate_of_left presents unmarked vouched
      (Marker.run_leave_of_unset info.id env.time fails)
  | @undated info presents unmarked vouched set reason fails =>
    exact authenticate_of_left presents unmarked vouched
      (Marker.run_leave_of_endless info.id env.time set fails)
  | @verified info presents unmarked vouched set dated =>
    exact authenticate_of_left presents unmarked vouched
      (Marker.run_leave_of_works env.conditions (asked cache) info.id env.time set dated)

/-- There is no other way if the provider has to be asked, and then its calls are all that show. -/
theorem exists_ends_of_unmarked {info : Session} (presents : a.Presents env headers info)
    (unmarked : Unmarked env cache info) :
    ∃ done, Ends a env cache headers done ∧ done.calls = (a.answer env info).calls := by
  cases said : (a.answer env info).ending with
  | refused e =>
    by_cases known : e = .noSuchUser
    · exact ⟨_, .disowned presents unmarked (Or.inl (known ▸ said)), rfl⟩
    · by_cases enabled : e = .accountDisabled
      · exact ⟨_, .disowned presents unmarked (Or.inr (enabled ▸ said)), rfl⟩
      · exact ⟨_, .refused presents unmarked said known enabled, rfl⟩
  | crashed message => exact ⟨_, .crashed presents unmarked said, rfl⟩
  | value user =>
    cases set : env.conditions.outage (cache.calls + 1) .set with
    | some reason => exact ⟨_, .unset presents unmarked ⟨user, said⟩ set, rfl⟩
    | none =>
      cases dated : env.conditions.outage (cache.calls + 2) .expire with
      | some reason => exact ⟨_, .undated presents unmarked ⟨user, said⟩ set dated, rfl⟩
      | none => exact ⟨_, .verified presents unmarked ⟨user, said⟩ set dated, rfl⟩

variable (a env cache headers) in
theorem exists_ends : ∃ done, Ends a env cache headers done := by
  by_cases nobody : ∀ info, ¬ a.Presents env headers info
  · exact ⟨_, .unknown nobody⟩
  · rcases not_forall_not.mp nobody with ⟨info, presents⟩
    cases works : env.conditions.outage cache.calls .get with
    | some reason => exact ⟨_, .unsearched presents works⟩
    | none =>
      by_cases missing : cache.memory.get env.conditions.now (Marker.key info.id) = ""
      · rcases exists_ends_of_unmarked presents ⟨works, missing⟩ with ⟨done, ends, -⟩
        exact ⟨done, ends⟩
      · exact ⟨_, .trusted presents ⟨works, missing⟩⟩

/-- The ways are all that can come of an authentication, and each comes where it leads. -/
theorem ends_iff {done : Authentication} :
    Ends a env cache headers done ↔ a.authenticate env cache headers = done := by
  constructor
  · exact authenticate_of_ends
  · rintro rfl
    rcases exists_ends a env cache headers with ⟨done, ends⟩
    rw [authenticate_of_ends ends]
    exact ends

end Authenticator

end AuthGateway
