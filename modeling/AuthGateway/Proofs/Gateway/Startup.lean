import AuthGateway.Proofs.Config.Checks
import AuthGateway.Proofs.Gateway.Dispatch
import AuthGateway.Proofs.Gateway.Table

namespace AuthGateway

/-!
# Which configurations start a gateway

A configuration is accepted just where it is acceptable, and what is said of any other is the error of the
first check that fails (`Gateway.starts_iff_acceptable`).  An accepted one starts: the gateway reads its
keys and its header again, and has one backend for each that is listed, found by the host of its own.
-/

open Net (HeaderName)

namespace Gateway

/-- What a gateway has from the configuration that it starts with. -/
structure Starts (g : Gateway) (c : Config) : Prop where
  config : g.config = c
  hashKey : Config.WritesKey c.session.hashKey g.authenticator.cookie.hashKey
  blockKey : Config.WritesKey c.session.blockKey g.authenticator.cookie.blockKey
  clientIpHeader : g.clientIpHeader.isSome = c.clientIpHeader.isSome
  spelled : ∀ header name, c.clientIpHeader = some header → g.clientIpHeader = some name →
    name.text = Text.lowerAscii header
  backends : List.Forall₂ BackendConfig.Makes c.backends g.table.backends
  hosts : (g.table.backends.map (·.host)).Nodup
  found : ∀ host backend,
    g.table.get? host = some backend ↔ backend ∈ g.table.backends ∧ backend.host = host

/-- Each backend has the host that is listed for it. -/
theorem map_host_of_makes {configs : List BackendConfig} {backends : List Backend}
    (makes : List.Forall₂ BackendConfig.Makes configs backends) :
    backends.map (·.host) = configs.map (·.host) := by
  induction makes with
  | nil => rfl
  | cons first _ inductionHypothesis => rw [List.map_cons, List.map_cons, first.host, inductionHypothesis]

theorem exists_starts {c : Config} (acceptable : c.Acceptable) : ∃ g, ofConfig c = .ok g ∧ g.Starts c := by
  rcases c.runs_hashKey.exists_ok_of_passes (Config.passes_keyChecks_iff.mpr acceptable.hashKey) with
    ⟨hashKey, signs, hashWritten⟩
  rcases c.runs_blockKey.exists_ok_of_passes (Config.passes_keyChecks_iff.mpr acceptable.blockKey) with
    ⟨blockKey, hides, blockWritten⟩
  have listed : Config.Passes (Config.tableChecks [] c.backends) :=
    Config.passes_tableChecks_iff.mpr
      ⟨acceptable.backends, fun _ _ => List.not_mem_nil, acceptable.hosts⟩
  rcases c.runs_backendTable.exists_ok_of_passes listed with ⟨table, tabled, makes⟩
  have distinct : (table.backends.map (·.host)).Nodup := by
    rw [map_host_of_makes makes]
    exact acceptable.hosts
  have named : c.clientIpHeaderName.isSome = c.clientIpHeader.isSome := by
    rw [Config.clientIpHeaderName]
    cases configured : c.clientIpHeader with
    | none => rfl
    | some header =>
      exact Option.isSome_iff_exists.mpr
        (HeaderName.exists_parse?_iff.mpr (acceptable.clientIpHeader header configured))
  rw [ofConfig, signs, hides, tabled]
  refine ⟨_, rfl, ?_⟩
  exact {
    config := rfl
    hashKey := hashWritten
    blockKey := blockWritten
    clientIpHeader := named
    spelled := by
      intro header name configured read
      have parsed : c.clientIpHeaderName = some name := read
      rw [Config.clientIpHeaderName, configured] at parsed
      exact (HeaderName.parse?_eq_some_iff.mp parsed).2
    backends := makes
    hosts := distinct
    found := fun _ _ => BackendTable.get?_eq_some_iff distinct }

/-- A configuration is accepted just where it is acceptable, else the first check that fails gives the
error, and an acceptable one starts a gateway. -/
theorem starts_iff_acceptable (c : Config) :
    (c.validate = .ok () ↔ c.Acceptable) ∧
    (∀ e, c.validate = .error e ↔ Config.FirstFailing c.checks e) ∧
    (c.Acceptable → ∃ g, ofConfig c = .ok g ∧ g.Starts c) := by
  refine ⟨?_, fun e => c.runs_validate.eq_error_iff, exists_starts⟩
  rw [← Config.passes_checks_iff]
  constructor
  · intro accepted
    exact (accepted ▸ c.runs_validate).passes_of_ok
  · intro passes
    rcases c.runs_validate.exists_ok_of_passes passes with ⟨⟨⟩, accepted, -⟩
    exact accepted

/-- Two services, where requests to the second lose one header and get another. -/
def ruledConfig : Config :=
  { wikiConfig with
    clientIpHeader := some "X-Real-IP"
    backends := wikiConfig.backends ++ [{
      host := "files"
      address := "[::1]:9001"
      privilege := .restricted
      groups := ["staff", "staff"]
      users := []
      headers := [{ key := "Referer", value := "" }, { key := "X-Origin", value := "gateway" }] }] }

theorem starts_ruledConfig :
    ruledConfig.Acceptable ∧ ∃ g, ofConfig ruledConfig = .ok g ∧ g.Starts ruledConfig := by
  have accepted : ruledConfig.validate = .ok () := rfl
  have acceptable : ruledConfig.Acceptable := (starts_iff_acceptable ruledConfig).1.mp accepted
  exact ⟨acceptable, (starts_iff_acceptable ruledConfig).2.2 acceptable⟩

end Gateway

end AuthGateway
