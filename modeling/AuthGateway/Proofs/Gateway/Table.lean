import AuthGateway.Config.Validation
import AuthGateway.Proofs.Text.Split
import Mathlib.Data.List.Nodup

namespace AuthGateway

/-!
# The backend that a host means

Each backend of a configuration has a host.  A host that is looked up is that of the backend that
is found, or that of the backend with a colon and the number of a service behind it.
-/

theorem BackendConfig.host_ne_empty_of_toBackend {config : BackendConfig} {backend : Backend}
    (made : config.toBackend = .ok backend) : backend.host ≠ "" := by
  rw [toBackend] at made
  split at made
  · exact absurd made (by simp)
  · rename_i given
    split at made
    · exact absurd made (by simp)
    · split at made
      · exact absurd made (by simp)
      · rw [← Except.ok.inj made]
        exact fun empty => given (Or.inl empty)

namespace Config

/-- Every backend of the table has a host. -/
theorem host_ne_empty_of_addBackends : ∀ {before after : List Backend} {configs : List BackendConfig},
    (∀ backend ∈ before, backend.host ≠ "") → addBackends before configs = .ok after →
      ∀ backend ∈ after, backend.host ≠ "" := by
  intro before after configs
  induction configs generalizing before with
  | nil =>
    intro named added
    rw [← Except.ok.inj added]
    exact named
  | cons config rest inductionHypothesis =>
    intro named added
    rw [addBackends] at added
    split at added
    · exact absurd added (by simp)
    · rename_i backend made
      split at added
      · exact absurd added (by simp)
      · refine inductionHypothesis ?_ added
        intro other listed
        rcases List.mem_append.mp listed with early | new
        · exact named other early
        · rw [List.mem_singleton.mp new]
          exact BackendConfig.host_ne_empty_of_toBackend made

theorem host_ne_empty_of_backendTable {c : Config} {table : BackendTable}
    (made : c.backendTable = .ok table) : ∀ backend ∈ table.backends, backend.host ≠ "" := by
  rw [backendTable] at made
  cases added : addBackends [] c.backends with
  | error _ =>
    rw [added] at made
    exact absurd made (by simp [Except.map])
  | ok backends =>
    rw [added] at made
    rw [← Except.ok.inj made]
    exact host_ne_empty_of_addBackends (fun _ listed => absurd listed List.not_mem_nil) added

end Config

namespace BackendTable

theorem get?_eq_some {table : BackendTable} {host : String} {backend : Backend}
    (found : table.get? host = some backend) : backend ∈ table.backends ∧ backend.host = host :=
  ⟨List.mem_of_find?_eq_some found, of_decide_eq_true (List.find?_some found :)⟩

/-- Where no two backends share a host, each is found by its own. -/
theorem get?_eq_some_iff {table : BackendTable} (distinct : (table.backends.map (·.host)).Nodup)
    {host : String} {backend : Backend} :
    table.get? host = some backend ↔ backend ∈ table.backends ∧ backend.host = host := by
  refine ⟨get?_eq_some, fun ⟨member, own⟩ => ?_⟩
  cases found : table.get? host with
  | none => exact absurd (decide_eq_true own) (List.find?_eq_none.mp found backend member)
  | some other =>
    rcases get?_eq_some found with ⟨listed, same⟩
    rw [List.inj_on_of_nodup_map distinct listed member (same.trans own.symm)]

/-- A found backend is one of the table, and its host is the front of the host that was asked. -/
theorem resolve?_eq_some {table : BackendTable} {host : String} {backend : Backend}
    (found : table.resolve? host = some backend) :
    backend ∈ table.backends ∧ backend.host.toList <+: host.toList := by
  rw [resolve?] at found
  split at found
  · rename_i direct listed
    rcases get?_eq_some listed with ⟨member, same⟩
    rw [← Option.some.inj found]
    exact ⟨member, same ▸ List.prefix_refl _⟩
  · split at found
    · rename_i name service cut
      split at found
      · rcases get?_eq_some found with ⟨member, same⟩
        rw [Text.eq_append_of_cutLast? cut, same]
        exact ⟨member, List.prefix_append _ _⟩
      · exact absurd found (by simp)
    · exact absurd found (by simp)

/-- No host means no backend. -/
theorem resolve?_empty {table : BackendTable} (named : ∀ backend ∈ table.backends, backend.host ≠ "") :
    table.resolve? "" = none := by
  cases found : table.resolve? "" with
  | none => rfl
  | some backend =>
    rcases resolve?_eq_some found with ⟨member, front⟩
    exact absurd (String.toList_inj.mp (List.prefix_nil.mp front)) (named backend member)

end BackendTable

end AuthGateway
