import AuthGateway.Proofs.Gateway.Traffic
import AuthGateway.Proofs.Provider.Directory
import Mathlib.Algebra.BigOperators.Group.List.Lemmas
import Mathlib.Algebra.Order.BigOperators.Group.List
import Mathlib.Algebra.Order.Group.Nat

namespace AuthGateway

/-!
# Each spelling of a name has guesses of its own

The throttle counts failures under the name that was typed.  Which entry of a directory is meant is for
the directory to say, and it may find one entry under many names, as most directories do under the same
letters in another case.  So the binds at one entry that a directory refuses are limited for each name
apart: no window of ten minutes holds more than six of them that were made under one name, and an
attempt under a name is let through to the entry as long as the failures of this name allow it, however
many there have been under others (`Gateway.failedBinds_of_spellings`).

A refused bind is a failed login, so that the failures of a name contain all binds that were refused
under it.
-/

open Net (Request Response)
open Throttle (chain inWindow)
open Time (Instant)

namespace Provider

/-- The call is a bind as `dn` that the directory of the provider refuses. -/
def refusesBind (p : Provider) (dn : String) : Call → Bool
  | .bind other password =>
    match p with
    | .directory source => other = dn && !(source.service.bind other password).isOk
    | .localUsers _ _ | .database | .composite _ _ _ _ | .foreign _ => false
  | .search _ | .ask _ _ _ => false

variable (p : Provider) (dn account password : String)

private theorem refusesBind_of_not_directory {p : Provider} (other : ∀ source, p ≠ .directory source)
    (call : Call) : p.refusesBind dn call = false := by
  cases call with
  | bind entry password =>
    cases p with
    | directory source => exact absurd rfl (other source)
    | _ => rfl
  | search filter => rfl
  | ask name question account => rfl

/-- To find an account again, no bind is refused. -/
theorem refusesBind_of_get {call : Call} (made : call ∈ (p.get account).calls) :
    p.refusesBind dn call = false := by
  by_cases directory : ∃ source, p = .directory source
  · rcases directory with ⟨source, rfl⟩
    rw [get, Directory.Source.calls_get, List.mem_singleton] at made
    rw [made]
    rfl
  · exact refusesBind_of_not_directory dn (fun source same => directory ⟨source, same⟩) call

/-- In a login one bind at most is refused, and then the login fails. -/
theorem refusedBinds_login :
    (p.login account password).calls.filter (p.refusesBind dn) = [] ∨
      ∃ call, (p.login account password).calls.filter (p.refusesBind dn) = [call] ∧
        (p.login account password).ending.isRefused = true := by
  by_cases directory : ∃ source, p = .directory source
  case neg =>
    left
    exact List.filter_eq_nil_iff.mpr fun call _ => Bool.eq_false_iff.mp
      (refusesBind_of_not_directory dn (fun source same => directory ⟨source, same⟩) call)
  case pos =>
    rcases directory with ⟨source, rfl⟩
    by_cases empty : password = ""
    · rw [empty, login, Directory.Source.login_of_empty]
      exact Or.inl rfl
    · rw [login, Directory.Source.calls_login _ _ _ empty, List.filter_cons_of_neg Bool.false_ne_true]
      cases found : source.service.search (source.filterFor account) with
      | error e => exact Or.inl rfl
      | ok entries =>
        cases entries with
        | nil => exact Or.inl rfl
        | cons entry more =>
          dsimp only
          by_cases refused : (directory source).refusesBind dn (.bind entry.dn password) = true
          · rw [List.filter_cons_of_pos refused, Directory.Source.ending_login_of_found empty found]
            refine Or.inr ⟨_, rfl, ?_⟩
            cases bound : source.service.bind entry.dn password with
            | error e => rfl
            | ok _ => simp [refusesBind, bound, Except.isOk, Except.toBool] at refused
          · rw [List.filter_cons_of_neg refused]
            exact Or.inl rfl

end Provider

namespace Gateway

variable (g : Gateway) (assets : Assets) (dn : String)

/-- The binds as `dn` that are refused in an event, each with its instant and with the name that was
tried. -/
def failedBindsIn (s : Situation) : Event → List (Instant × String)
  | .request env request =>
    let calls := (g.handle assets (s.around env) s.state request).calls
    (calls.filter (env.provider.refusesBind dn)).map fun _ =>
      (s.now, ((g.attempt? request).map Attempt.username).getD "")
  | .sweep | .advance _ => []

/-- The binds as `dn` that are refused in the events, in their order. -/
def failedBinds (s : Situation) : List Event → List (Instant × String)
  | [] => []
  | event :: rest => g.failedBindsIn assets dn s event ++ failedBinds (g.step assets s event) rest

variable {g} in
/-- The counter of a name is that of its failures. -/
private theorem counts_of_name (start : Instant) (events : List Event) (name : String) :
    Counts Directory.Source.userType name (g.run assets start events)
      (g.failures assets Directory.Source.userType name start events).reverse :=
  counts_run (by decide) start events

/-- A list in which each element stands six times at most is six times as long at most as the list of the
distinct ones. -/
private theorem length_le_of_count_le {names : List String} (few : ∀ name, names.count name ≤ 6) :
    names.length ≤ 6 * names.dedup.length := by
  calc names.length
    _ = (names.dedup.map fun name => names.count name).sum :=
      (List.sum_map_count_dedup_eq_length names).symm
    _ ≤ (names.dedup.map fun name => names.count name).length • 6 := by
      refine List.sum_le_card_nsmul _ 6 fun count listed => ?_
      rcases List.mem_map.mp listed with ⟨name, -, rfl⟩
      exact few name
    _ = 6 * names.dedup.length := by
      rw [List.length_map]
      exact Nat.mul_comm _ _

section

variable {g} (ldap : g.config.authType = .ldap)

include ldap

/-! ## One event -/

private theorem userType_of_attempt? {request : Request} {attempt : Attempt}
    (tried : g.attempt? request = some attempt) :
    attempt.userType = Directory.Source.userType := by
  rcases form_of_attempt? tried with ⟨-, -, form, -, complete⟩
  have resolved := (parts_of_attempt? complete).2.1
  rw [userTypeOf?, ldap] at resolved
  exact (Option.some.inj resolved).symm

/-- In an event one bind at most is refused, and then a login has failed under the name. -/
private theorem failedBindsIn_cases (s : Situation) (event : Event) :
    g.failedBindsIn assets dn s event = [] ∨
      ∃ name, g.failedBindsIn assets dn s event = [(s.now, name)] ∧
        g.fails assets Directory.Source.userType name s event = true := by
  cases event with
  | sweep => exact Or.inl rfl
  | advance span => exact Or.inl rfl
  | request env request =>
    rw [failedBindsIn]
    cases tried : g.attempt? request with
    | none =>
      left
      rw [List.filter_eq_nil_iff.mpr]
      · rfl
      · intro call made
        rcases (handle_of_no_attempt assets tried).1 call made with ⟨account, got⟩
        exact Bool.eq_false_iff.mp (env.provider.refusesBind_of_get dn account got)
    | some attempt =>
      by_cases passes : g.Passes (s.around env) s.state attempt
      · rw [(handle_of_passes assets tried passes).1]
        rcases env.provider.refusedBinds_login dn (g.accountOf attempt) attempt.password with
          none | ⟨call, single, refused⟩
        · left
          exact congrArg (List.map _) none
        · right
          refine ⟨attempt.username, congrArg (List.map _) single, fails_iff.mpr ?_⟩
          have named := userType_of_attempt? ldap tried
          rw [← named]
          exact ⟨attempt.password, tried, passes, refused⟩
      · left
        rw [(handle_of_stopped assets tried passes).1]
        rfl

/-! ## All events -/

/-- Under each name the refused binds are among the failed logins of the name. -/
private theorem failedBinds_sublist (name : String) (s : Situation) (events : List Event) :
    List.Sublist (((g.failedBinds assets dn s events).filter (·.2 = name)).map Prod.fst)
      ((occasions (g.step assets) (g.fails assets Directory.Source.userType name) s events).map
        Situation.now) := by
  induction events generalizing s with
  | nil => exact List.Sublist.slnil
  | cons event rest inductionHypothesis =>
    have later := inductionHypothesis (g.step assets s event)
    rw [failedBinds, occasions, List.filter_append, List.map_append]
    rcases failedBindsIn_cases assets dn ldap s event with nothing | ⟨tried, single, failed⟩
    · rw [nothing]
      split
      · exact later.cons _
      · exact later
    · rw [single]
      by_cases same : tried = name
      · have kept : [(s.now, tried)].filter (·.2 = name) = [(s.now, tried)] := by simp [same]
        rw [kept, if_pos (same ▸ failed)]
        exact later.cons_cons s.now
      · have dropped : [(s.now, tried)].filter (·.2 = name) = [] := by simp [same]
        rw [dropped]
        split
        · exact later.cons _
        · exact later

/-- No window holds more than six refused binds under one name. -/
private theorem count_failedBinds_le (start : Instant) (events : List Event) (first : Instant)
    (name : String) :
    (((g.failedBinds assets dn { now := start, state := .start } events).filter
      fun bind => inWindow first bind.1).map Prod.snd).count name ≤ 6 := by
  have failures_le : (g.failures assets Directory.Source.userType name start events).countP
      (inWindow first) ≤ 6 := by
    rw [← List.countP_reverse]
    exact Throttle.countP_inWindow_le (counts_of_name assets start events name).paced
      (List.pairwise_reverse.mpr (pairwise_failures start events)) first
  have sublist := failedBinds_sublist assets dn ldap name { now := start, state := .start } events
  refine Nat.le_trans (Nat.le_of_eq ?_)
    (Nat.le_trans (sublist.countP_le (p := inWindow first)) failures_le)
  rw [List.count, List.countP_map, List.countP_filter, List.countP_map, List.countP_filter]
  refine List.countP_congr fun bind _ => ?_
  simp only [Function.comp_apply, Bool.and_eq_true, beq_iff_eq, decide_eq_true_eq, and_comm]

/-- An attempt that passes is one whose name has fewer than six chained failures. -/
private theorem passes_iff (start : Instant) (events : List Event) (env : Surroundings)
    {request : Request} {attempt : Attempt} (tried : g.attempt? request = some attempt) :
    let s := g.run assets start events
    g.Passes (s.around env) s.state attempt ↔
      (s.state.flood.check g.config.loginRatePerMinute env.floodClock).1 = true ∧
        chain s.now (g.failures assets Directory.Source.userType attempt.username start events).reverse
          < 6 := by
  intro s
  rcases attempt with ⟨userType, name, password⟩
  have named : userType = Directory.Source.userType := userType_of_attempt? ldap tried
  subst named
  have checked : (checked (s.around env) s.state.cache
      { userType := Directory.Source.userType, username := name, password }).1 = .ok () ↔
      chain s.now (g.failures assets Directory.Source.userType name start events).reverse < 6 := by
    rw [(counts_of_name assets start events name).checked_eq env password]
    split
    · rename_i few
      exact iff_of_true rfl (Nat.lt_succ_of_le few)
    · rename_i many
      exact iff_of_false (by simp) fun few => many (Nat.le_of_lt_succ few)
  exact and_congr Iff.rfl checked

end

/-- In any traffic with a directory from an empty cache on, no window of ten minutes holds more than six
refused binds at an entry for each of the names under which they were made.  There is no other limit: an
attempt that the flood limiter lets pass binds at the entry that is found for its name just when less
than six failures of this name are chained to one another and to now, whatever has been tried at the
entry under other names. -/
theorem failedBinds_of_spellings (ldap : g.config.authType = .ldap) (start : Instant)
    (events : List Event) (dn : String) :
    let s := g.run assets start events
    (∀ first,
      let names := ((g.failedBinds assets dn { now := start, state := .start } events).filter
        fun bind => inWindow first bind.1).map Prod.snd
      (∀ name, names.count name ≤ 6) ∧ names.length ≤ 6 * names.dedup.length) ∧
    ∀ env source request attempt, env.provider = .directory source →
      g.attempt? request = some attempt →
      (.bind dn attempt.password ∈ (g.handle assets (s.around env) s.state request).calls ↔
        (s.state.flood.check g.config.loginRatePerMinute env.floodClock).1 = true ∧
          chain s.now
            (g.failures assets Directory.Source.userType attempt.username start events).reverse < 6 ∧
          ∃ entry more, entry.dn = dn ∧
            source.service.search (source.filterFor attempt.username) = .ok (entry :: more)) := by
  intro s
  constructor
  · intro first names
    have few := count_failedBinds_le assets dn ldap start events first
    exact ⟨few, length_le_of_count_le few⟩
  · intro env source request attempt asked tried
    have allowed : g.Passes (s.around env) s.state attempt ↔ _ ∧ _ :=
      passes_iff assets ldap start events env tried
    rw [← and_assoc, ← allowed]
    by_cases passes : g.Passes (s.around env) s.state attempt
    case neg =>
      rw [(handle_of_stopped assets tried passes).1]
      exact iff_of_false List.not_mem_nil fun bound => passes bound.1
    case pos =>
      rcases form_of_attempt? tried with ⟨-, -, form, -, complete⟩
      have password_ne : attempt.password ≠ "" :=
        fun empty => (parts_of_attempt? complete).1 (Or.inr empty)
      have calls : (g.handle assets (s.around env) s.state request).calls =
          (source.login attempt.username attempt.password).calls := by
        have account : g.accountOf attempt = attempt.username := by
          rw [accountOf, providerAccount, ldap, if_neg (by decide)]
        have made := (handle_of_passes assets tried passes).1
        change _ = (env.provider.login _ _).calls at made
        rw [made, asked, account]
        rfl
      rw [calls, Directory.Source.calls_login _ _ _ password_ne]
      cases found : source.service.search (source.filterFor attempt.username) with
      | error e => simp [passes]
      | ok entries =>
        cases entries with
        | nil => simp [passes]
        | cons entry more => simp [passes, eq_comm]

/-- The gateway to a directory. -/
def directoryGateway : Gateway :=
  { homeGateway with config := { Config.standard with authType := .ldap } }

/-- A directory that finds the same entry under all names, and so in all spellings of them. -/
def oneEntry : Directory.Source where
  service := {
    search := fun _ => .ok [{ dn := "cn=alice", attributes := [] }]
    bind := fun _ password => if password = "secret" then .ok () else .error .invalidPassword }
  settings := LdapConfig.standard
  users := []

/-- What surrounds a request there. -/
def atWork : Surroundings :=
  { atHome with provider := .directory oneEntry }

/-- Six guesses, and a seventh in capitals. -/
def spelledGuesses : List Event :=
  List.replicate 6 (.request atWork (formRequest "username=alice&password=guess")) ++
    [.request atWork (formRequest "username=ALICE&password=guess")]

theorem failedBinds_of_spellings_capitals :
    let s := directoryGateway.run .empty 0 spelledGuesses
    let request := formRequest "username=ALICE&password=guess"
    let names := ((directoryGateway.failedBinds .empty "cn=alice" { now := 0, state := .start }
      spelledGuesses).filter fun bind => inWindow 0 bind.1).map Prod.snd
    names.dedup = ["alice", "ALICE"] ∧ names.length ≤ 12 ∧
      .bind "cn=alice" "guess" ∈
        (directoryGateway.handle .empty (s.around atWork) s.state request).calls := by
  intro s request names
  have spelled : names.dedup = ["alice", "ALICE"] := by decide +kernel
  have tried : directoryGateway.attempt? request =
      some { userType := "ldap", username := "ALICE", password := "guess" } := by decide +kernel
  have passed : (s.state.flood.check directoryGateway.config.loginRatePerMinute atWork.floodClock).1 =
      true := by decide +kernel
  have chained : chain s.now
      (directoryGateway.failures .empty "ldap" "ALICE" 0 spelledGuesses).reverse < 6 := by
    decide +kernel
  rcases failedBinds_of_spellings directoryGateway .empty rfl 0 spelledGuesses "cn=alice" with
    ⟨windows, binds⟩
  have length := (windows 0).2
  change names.length ≤ 6 * names.dedup.length at length
  rw [spelled] at length
  refine ⟨spelled, length, ?_⟩
  exact (binds atWork oneEntry request _ rfl tried).mpr ⟨passed, chained, _, _, rfl, rfl⟩

/-- Seven guesses at one entry are made at one instant, although the directory does not heed the case of
letters. -/
theorem seven_failedBinds :
    (∀ account account', Directory.sameLetters account account' = true →
      oneEntry.service.search (oneEntry.filterFor account) =
        oneEntry.service.search (oneEntry.filterFor account')) ∧
    directoryGateway.config.authType = .ldap ∧
    ((directoryGateway.failedBinds .empty "cn=alice" { now := 0, state := .start }
      spelledGuesses).countP fun bind => inWindow 0 bind.1) = 7 := by
  refine ⟨fun _ _ _ => rfl, rfl, ?_⟩
  decide +kernel

end Gateway

end AuthGateway
