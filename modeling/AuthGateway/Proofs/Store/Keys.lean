import AuthGateway.Login.Throttle
import AuthGateway.Proofs.Cache.Script
import AuthGateway.Proofs.Text.Split
import AuthGateway.Session.Marker

namespace AuthGateway

/-!
# Whose entry is whose

Counters and markers have keys that begin differently, and two accounts have different counters as
long as no kind of user has a colon in its name.  So what is done for one account or session leaves
the entries of the others alone.
-/

/-- The kind of user has no colon in its name. -/
def Plain (userType : String) : Prop :=
  ':' ∉ userType.toList

instance (userType : String) : Decidable (Plain userType) :=
  inferInstanceAs (Decidable (_ ∉ _))

theorem Marker.toList_key (session : String) :
    (key session).toList = "secure-proxy:session:".toList ++ session.toList :=
  String.toList_append

namespace Throttle

theorem toList_key (userType account : String) :
    (key userType account).toList = "secure-proxy:user:".toList ++
      (userType.toList ++ ':' :: (account.toList ++ ":login-count".toList)) := by
  have colon : ":".toList = [':'] := rfl
  unfold key
  rw [String.toList_append, String.toList_append, String.toList_append, String.toList_append, colon]
  generalize "secure-proxy:user:".toList = front
  generalize ":login-count".toList = back
  simp only [List.append_assoc, List.cons_append, List.nil_append]

/-- The colon behind the kind of user is the first one. -/
theorem key_injective {userType userType' account account' : String} (plain : Plain userType)
    (plain' : Plain userType') (same : key userType account = key userType' account') :
    userType = userType' ∧ account = account' := by
  have lists := congrArg String.toList same
  rw [toList_key, toList_key] at lists
  have tails := List.append_cancel_left lists
  rcases Text.eq_of_append_first plain plain' tails with ⟨types, accounts⟩
  exact ⟨String.toList_inj.mp types, String.toList_inj.mp (List.append_cancel_right accounts)⟩

/-- With a colon in the kind of user two accounts could share a counter. -/
example : key "local" "a:b" = key "local:a" "b" := by
  decide

/-- No counter is a marker. -/
theorem key_ne_markerKey (userType account session : String) :
    key userType account ≠ Marker.key session := by
  intro same
  have lists := congrArg String.toList same
  have front : "secure-proxy:user:".toList = "secure-proxy:".toList ++ 'u' :: "ser:".toList := by
    decide
  have front' : "secure-proxy:session:".toList = "secure-proxy:".toList ++ 's' :: "ession:".toList := by
    decide
  rw [toList_key, Marker.toList_key, front, front', List.append_assoc, List.append_assoc] at lists
  exact absurd (List.cons.inj (List.append_cancel_left lists)).1 (by decide)

theorem readsOnly_check (userType account : String) : (check userType account).ReadsOnly := by
  rintro (_ | value)
  · trivial
  · simp only
    split
    · trivial
    · split
      · trivial
      · rintro (_ | retryAfter)
        · trivial
        · trivial

theorem avoids_check (userType account key : String) : (check userType account).Avoids key :=
  (readsOnly_check userType account).avoids key

theorem avoids_record {userType account other : String} (different : other ≠ key userType account) :
    (record userType account).Avoids other := by
  refine ⟨different, ?_⟩
  rintro (_ | attempts)
  · trivial
  · refine ⟨different, ?_⟩
    rintro (_ | _)
    · trivial
    · trivial

end Throttle

namespace Marker

open Time (Timestamp)

theorem key_injective {session session' : String} (same : key session = key session') :
    session = session' := by
  have lists := congrArg String.toList same
  rw [toList_key, toList_key] at lists
  exact String.toList_inj.mp (List.append_cancel_left lists)

theorem avoids_find (session other : String) : (find session).Avoids other :=
  fun _ => trivial

theorem avoids_leave {session other : String} (different : other ≠ key session) (time : Timestamp) :
    (leave session time).Avoids other := by
  refine ⟨different, ?_⟩
  rintro (_ | _)
  · trivial
  · exact ⟨different, fun _ => trivial⟩

theorem avoids_validate {ε : Type} (ofCache : CacheError → ε) {session other : String}
    (different : other ≠ key session) (time : Timestamp) (verify : Except ε Bool) :
    (validate ofCache session time verify).Avoids other := by
  refine (avoids_find session other).bind ?_
  rintro (_ | (_ | _))
  · trivial
  · cases verify with
    | error _ => trivial
    | ok valid =>
      cases valid with
      | false => trivial
      | true =>
        refine (avoids_leave different time).bind ?_
        rintro (_ | _)
        · trivial
        · trivial
  · trivial

end Marker

end AuthGateway
