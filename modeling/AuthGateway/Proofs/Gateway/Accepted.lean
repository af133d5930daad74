import AuthGateway.Proofs.Gateway.Journey

namespace AuthGateway

/-!
# What an accepted configuration makes of its cookie

The check of a configuration asks nothing of the name and the domain of the session cookie.  A cookie
is set and cleared just where both can stand in a header value, and the pair that it leaves with a
browser brings the session back just where the name is findable (`Gateway.cookie_of_accepted`).  Other
names and domains are accepted as well: with them a login or a logout ends in an internal error, or no
session is ever found (`Gateway.session_lost_of_accepted`).
-/

open Net (HeaderMap HeaderValue)
open SessionCookie (Findable Settable)

/-- What a browser keeps of a cookie and brings back. -/
def Net.HeaderValue.beforeSemicolon (v : HeaderValue) : HeaderValue where
  bytes := v.bytes.takeWhile (· ≠ 0x3B)
  legal := List.all_eq_true.mpr fun b member =>
    List.all_eq_true.mp v.legal b ((List.takeWhile_sublist _).subset member)

/-- The configuration with another name and domain for its cookie. -/
def Config.withCookie (c : Config) (name : String) (domain : Option String) : Config :=
  { c with session := { c.session with cookieName := name, cookieDomain := domain } }

/-- A configuration is accepted whatever the name and the domain of its cookie are. -/
theorem Config.validate_withCookie (c : Config) (name : String) (domain : Option String) :
    (c.withCookie name domain).validate = c.validate :=
  rfl

namespace Gateway

variable {g : Gateway} {c : Config}

private theorem settable_iff (made : MadeOf g c) :
    Settable g.authenticator.cookie.name g.authenticator.cookie.domain ↔
      Settable c.session.cookieName c.session.cookieDomain := by
  rw [made.cookieName, made.cookieDomain]

/-- The token that is issued when a session is opened. -/
def tokenFor (g : Gateway) (env : Surroundings) (info : Session) : String :=
  g.authenticator.cookie.encode env.time.unixSeconds env.nonce info

private theorem exists_setHeader_tokenFor_iff (env : Surroundings) (info : Session) :
    (∃ header, g.authenticator.cookie.setHeader (g.tokenFor env info) = .ok header) ↔
      Settable g.authenticator.cookie.name g.authenticator.cookie.domain :=
  SessionCookie.exists_setHeader_iff
    (g.authenticator.cookie.issue env.time.unixSeconds env.nonce info)

/-- A session is opened just where its cookie can be set. -/
theorem exists_openSession_iff (env : Surroundings) (info : Session) :
    (∃ response, g.openSession env info = .ok response) ↔
      Settable g.authenticator.cookie.name g.authenticator.cookie.domain := by
  rw [← exists_setHeader_tokenFor_iff env info, openSession, tokenFor]
  split
  · rename_i refused
    simp [refused]
  · rename_i header opened
    simp [opened]

/-- A logout clears the cookie, or it is an internal error. -/
theorem status_logout :
    (Settable g.authenticator.cookie.name g.authenticator.cookie.domain ∧
      g.logout.status = 303) ∨
    (¬ Settable g.authenticator.cookie.name g.authenticator.cookie.domain ∧
      g.logout.status = 500) := by
  rw [← SessionCookie.exists_clearHeader_iff, logout]
  split
  · rename_i header cleared
    exact Or.inl ⟨⟨header, cleared⟩, rfl⟩
  · rename_i refused
    refine Or.inr ⟨?_, rfl⟩
    rintro ⟨header, cleared⟩
    rw [refused] at cleared
    exact absurd cleared (by simp)

/-- The one line of cookies of a request is the pair of the cookie that was set for a session. -/
structure BringsBack (g : Gateway) (env : Surroundings) (info : Session) (headers : HeaderMap) : Prop where
  nonce : env.nonce.length = Crypto.Gcm.nonceLength
  pair : ∃ header, g.authenticator.cookie.setHeader (g.tokenFor env info) = .ok header ∧
    headers.getAll .cookie = [header.beforeSemicolon]

/-- A session comes back under a findable name, while its token is not too old. -/
theorem sessionIn_of_bringsBack {env : Surroundings} {info : Session} {headers : HeaderMap}
    (brings : g.BringsBack env info headers) (findable : Findable g.authenticator.cookie.name) :
    g.authenticator.cookie.tokenIn headers = some (g.tokenFor env info) ∧
    ∀ now, g.authenticator.cookie.isStale now env.time.unixSeconds = false →
      g.authenticator.cookie.sessionIn now headers = .ok info := by
  rcases brings.pair with ⟨header, set, only⟩
  rcases env.time.unixSeconds_bounds with ⟨low, high⟩
  have found : g.authenticator.cookie.tokenIn headers = some (g.tokenFor env info) :=
    SessionCookie.tokenIn_of_setHeader findable (SessionCookie.cleanValue_text _) set rfl only
  exact ⟨found, fun now fresh =>
    SessionCookie.sessionIn_of_tokenIn low high brings.nonce info found fresh⟩

/-- No session is ever found under any other name. -/
theorem sessionIn_of_unfindable (lost : ¬ Findable g.authenticator.cookie.name)
    (headers : HeaderMap) : g.authenticator.cookie.tokenIn headers = none ∧
      ∀ now, g.authenticator.cookie.sessionIn now headers = .error .invalidToken := by
  have missing : g.authenticator.cookie.tokenIn headers = none :=
    Option.eq_none_iff_forall_ne_some.mpr fun token found =>
      lost (SessionCookie.findable_of_tokenIn found)
  refine ⟨missing, fun now => ?_⟩
  rw [SessionCookie.sessionIn, missing]

/-- With an accepted configuration, cookies are set and cleared just where the configured texts can
stand in a header value, and sessions come back just where the configured name is findable. -/
theorem cookie_of_accepted (valid : c.validate = .ok ()) :
    ∃ g, ofConfig c = .ok g ∧
    (∀ env info,
      ((∃ header, g.authenticator.cookie.setHeader (g.tokenFor env info) = .ok header) ↔
        Settable c.session.cookieName c.session.cookieDomain) ∧
      ((∃ response, g.openSession env info = .ok response) ↔
        Settable c.session.cookieName c.session.cookieDomain)) ∧
    ((∃ header, g.authenticator.cookie.clearHeader = .ok header) ↔
      Settable c.session.cookieName c.session.cookieDomain) ∧
    (g.logout.status = 500 ↔ ¬ Settable c.session.cookieName c.session.cookieDomain) ∧
    ∀ env info headers, g.BringsBack env info headers →
      (Findable c.session.cookieName →
        g.authenticator.cookie.tokenIn headers = some (g.tokenFor env info) ∧
        ∀ now, (c.session.maxAge = 0 ∨ now - env.time.unixSeconds ≤ c.session.maxAge) →
          g.authenticator.cookie.sessionIn now headers = .ok info) ∧
      (¬ Findable c.session.cookieName →
        g.authenticator.cookie.tokenIn headers = none ∧
        ∀ now, g.authenticator.cookie.sessionIn now headers = .error .invalidToken) := by
  rcases exists_ofConfig valid with ⟨g, built⟩
  have made := madeOf_of_ofConfig built
  refine ⟨g, built, fun env info => ⟨?set, ?opened⟩, ?cleared, ?loggedOut, ?found⟩
  case set => rw [exists_setHeader_tokenFor_iff, settable_iff made]
  case opened => rw [exists_openSession_iff, settable_iff made]
  case cleared => rw [SessionCookie.exists_clearHeader_iff, settable_iff made]
  case loggedOut =>
    rw [← settable_iff made]
    rcases g.status_logout with ⟨settable, status⟩ | ⟨illegal, status⟩
    · simp [status, settable]
    · simp [status, illegal]
  case found =>
    intro env info headers brings
    rw [← made.cookieName, ← made.maxAge]
    refine ⟨fun findable => ?_, fun lost => sessionIn_of_unfindable lost headers⟩
    rcases sessionIn_of_bringsBack brings findable with ⟨found, read⟩
    exact ⟨found, fun now fresh =>
      read now (g.authenticator.cookie.isStale_eq_false_iff.mpr (fresh.imp Int.le_of_eq id))⟩

/-- The configuration of the wiki is accepted with any cookie. -/
private theorem validate_homeWiki (name : String) (domain : Option String) :
    (homeWikiConfig.withCookie name domain).validate = .ok () :=
  (Config.validate_withCookie homeWikiConfig name domain).trans rfl

/-- A name and a domain that no other rule would allow, and that serve as well as any. -/
def quotedConfig : Config :=
  homeWikiConfig.withCookie "the \"wiki\", [at home] " (some "home; away")

theorem cookie_of_accepted_quoted :
    quotedConfig.validate = .ok () ∧ ∃ g header, ofConfig quotedConfig = .ok g ∧
      g.authenticator.cookie.setHeader (g.tokenFor atHome alice) = .ok header ∧
      g.logout.status ≠ 500 ∧
      g.authenticator.cookie.sessionIn 3600 { fields := [(.cookie, header.beforeSemicolon)] } =
        .ok alice := by
  have settable : Settable quotedConfig.session.cookieName quotedConfig.session.cookieDomain :=
    { name := by decide
      domain := fun text named => Option.some.inj named ▸ by decide }
  have findable : Findable quotedConfig.session.cookieName :=
    { shown := by decide, unbroken := by decide, unequal := by decide, front := by decide }
  have valid : quotedConfig.validate = .ok () := validate_homeWiki _ _
  rcases cookie_of_accepted valid with ⟨g, built, opened, -, loggedOut, found⟩
  rcases (opened atHome alice).1.mpr settable with ⟨header, set⟩
  have brings : g.BringsBack atHome alice { fields := [(.cookie, header.beforeSemicolon)] } :=
    { nonce := rfl, pair := ⟨header, set, rfl⟩ }
  exact ⟨valid, g, header, built, set, fun failed => loggedOut.mp failed settable,
    ((found atHome alice _ brings).1 findable).2 3600 (Or.inr (by decide))⟩

/-- An equals sign in the name is accepted, and the session that was opened is never found; a line end
in the domain is accepted, and no logout succeeds. -/
theorem session_lost_of_accepted :
    (homeWikiConfig.withCookie "gate=way" none).validate = .ok () ∧
    (∃ g header, ofConfig (homeWikiConfig.withCookie "gate=way" none) = .ok g ∧
      g.authenticator.cookie.setHeader (g.tokenFor atHome alice) = .ok header ∧
      g.authenticator.cookie.tokenIn { fields := [(.cookie, header.beforeSemicolon)] } = none) ∧
    (homeWikiConfig.withCookie "gateway" (some "home\n")).validate = .ok () ∧
    ∃ g, ofConfig (homeWikiConfig.withCookie "gateway" (some "home\n")) = .ok g ∧
      g.logout.status = 500 := by
  refine ⟨validate_homeWiki _ _, ?_, validate_homeWiki _ _, ?_⟩
  · rcases exists_ofConfig (validate_homeWiki "gate=way" none) with ⟨g, built⟩
    have made := madeOf_of_ofConfig built
    have settable : Settable "gate=way" none :=
      { name := by decide, domain := fun _ named => absurd named (by simp) }
    rcases (exists_setHeader_tokenFor_iff atHome alice).mpr ((settable_iff made).mpr settable) with
      ⟨header, set⟩
    refine ⟨g, header, built, set, (sessionIn_of_unfindable ?_ _).1⟩
    rw [made.cookieName]
    exact fun findable => findable.unequal (by decide)
  · rcases exists_ofConfig (validate_homeWiki "gateway" (some "home\n")) with ⟨g, built⟩
    have illegal : ¬ Settable g.authenticator.cookie.name g.authenticator.cookie.domain := by
      rw [settable_iff (madeOf_of_ofConfig built)]
      exact fun settable => absurd (settable.domain "home\n" rfl) (by decide)
    exact ⟨g, built, (g.status_logout.resolve_left fun opened => illegal opened.1).2⟩

end Gateway

end AuthGateway
