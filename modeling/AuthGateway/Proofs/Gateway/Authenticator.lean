import AuthGateway.Proofs.Gateway.Ways
import AuthGateway.Proofs.Store.Keys

namespace AuthGateway

/-!
# How an authentication ends

Only the cache and the provider can make an authentication fail.  Unless the provider crashes, that
is an internal error.  If neither fails, whoever the provider vouches for is known.  In any case the
provider is asked for nothing but a user, and in the cache nothing but a marker is touched.
-/

namespace Authenticator

variable {a : Authenticator} {env : Surroundings} {cache : Cache} {headers : Net.HeaderMap}

/-- If no provider crashes, a failure is an internal error. -/
theorem internal_of_authenticate
    (calm : ∀ account message, (env.provider.get account).ending ≠ .crashed message)
    {failure : Failure} (failed : (a.authenticate env cache headers).result = .error failure) :
    ∃ reason, failure = .error (.internal reason) := by
  generalize left : a.authenticate env cache headers = done at failed
  cases ends_iff.mpr left with
  | unsearched presents fails => exact ⟨_, (Except.error.inj failed).symm⟩
  | refused presents unmarked refusal known enabled => exact ⟨_, (Except.error.inj failed).symm⟩
  | crashed presents unmarked crash => exact absurd crash (calm _ _)
  | unset presents unmarked vouched fails => exact ⟨_, (Except.error.inj failed).symm⟩
  | undated presents unmarked vouched set fails => exact ⟨_, (Except.error.inj failed).symm⟩
  | _ => exact absurd failed (by simp)

theorem claimed_of_sessionIn {info : Session}
    (read : a.cookie.sessionIn env.time.unixSeconds headers = .ok info)
    (authenticated : info.isAuthenticated = true) : a.claimed env headers = some info := by
  simp only [claimed, read, authenticated, if_true]

theorem authenticate_of_vouched (calm : env.conditions.Calm) {info : Session}
    (claimed : a.claimed env headers = some info)
    (vouched : verdict (env.provider.get (a.accountOf info)).ending = .ok true) :
    (a.authenticate env cache headers).result = .ok (some info) := by
  have presents := claimed_eq_some_iff.mp claimed
  have vouches : a.Vouches env info := verdict_eq_ok_true_iff.mp vouched
  have works : env.conditions.outage cache.calls .get = none := calm cache.calls .get
  by_cases missing : cache.memory.get env.conditions.now (Marker.key info.id) = ""
  · rw [authenticate_of_ends
      (.verified presents ⟨works, missing⟩ vouches (calm _ .set) (calm _ .expire))]
  · rw [authenticate_of_ends (.trusted presents ⟨works, missing⟩)]

/-- Without a marker the provider is asked who the owner of the session is. -/
theorem calls_authenticate_of_missing {info : Session} (claimed : a.claimed env headers = some info)
    (works : env.conditions.outage cache.calls .get = none)
    (missing : cache.memory.get env.conditions.now (Marker.key info.id) = "") :
    (a.authenticate env cache headers).calls = (env.provider.get (a.accountOf info)).calls := by
  rcases exists_ends_of_unmarked (claimed_eq_some_iff.mp claimed) ⟨works, missing⟩ with
    ⟨done, ends, calls⟩
  rw [authenticate_of_ends ends, calls]
  rfl

/-- The provider is asked who somebody is, if at all. -/
theorem exists_get_of_mem_calls {call : Call}
    (made : call ∈ (a.authenticate env cache headers).calls) :
    ∃ account, call ∈ (env.provider.get account).calls := by
  generalize left : a.authenticate env cache headers = done at made
  cases ends_iff.mpr left with
  | unknown nobody => exact absurd made List.not_mem_nil
  | unsearched presents fails => exact absurd made List.not_mem_nil
  | trusted presents marked => exact absurd made List.not_mem_nil
  | _ => exact ⟨_, made⟩

/-- What is no marker stays as it is. -/
theorem live?_authenticate {key : String} (other : ∀ session, key ≠ Marker.key session)
    (now : Time.Instant) :
    (a.authenticate env cache headers).cache.memory.live? now key = cache.memory.live? now key := by
  generalize left : a.authenticate env cache headers = done
  cases ends_iff.mpr left with
  | @undated info presents unmarked vouched set reason fails =>
    exact Memory.live?_set_of_ne (other info.id) _
  | @verified info presents unmarked vouched set dated =>
    exact (Memory.live?_expire_of_ne (other info.id) _).trans (Memory.live?_set_of_ne (other info.id) _)
  | _ => rfl

end Authenticator

end AuthGateway
