import AuthGateway.Proofs.Gateway.Outbound

namespace AuthGateway

/-!
# The hops that are sent on

A request names the hops that it has made in a list, which may be spread over several lines.  The gateway
sends one line on, with the hops of the first line of the request and the client behind them
(`Outbound.hops_of_first_line`).  So no hop is lost if all of them are named in the first line; those that
only another line names are lost (`Outbound.hops_lost`).
-/

open Net (HeaderMap HeaderName HeaderValue SocketAddress)

namespace Inbound

/-- The entries of a list in a header: what stands between its commas, without blanks around it.  What is
empty then is no entry. -/
def entries (list : String) : List String :=
  ((Text.parts ',' list).map Text.trim).filter (· ≠ "")

theorem IsEntry.entries_eq {entry : String} (single : IsEntry entry) (nonempty : entry ≠ "") :
    entries entry = [entry] := by
  rw [entries, Text.parts_of_not_mem single.single, List.map_singleton, single.trimmed]
  simp [nonempty]

/-- A blank in front of a list makes no difference. -/
private theorem entries_space (list : String) : entries (" " ++ list) = entries list := by
  have chars : (" " ++ list).toList = ' ' :: list.toList := by
    rw [String.toList_append]
    rfl
  have front : ∀ c ∈ " ".toList, Text.isBlank c = true := List.all_eq_true.mp (by decide)
  have back : ∀ c ∈ "".toList, Text.isBlank c = true := List.all_eq_true.mp (by decide)
  have blank : ∀ part : List Char,
      Text.trim (String.ofList (' ' :: part)) = Text.trim (String.ofList part) := by
    intro part
    have whole : String.ofList (' ' :: part) = " " ++ String.ofList part ++ "" :=
      String.toList_inj.mp (by simp)
    exact (congrArg Text.trim whole).trans (Text.trim_append front back (String.ofList part))
  rcases List.exists_cons_of_ne_nil (Text.splitAll_ne_nil ',' list.toList) with ⟨first, rest, cut⟩
  have spaced : Text.splitAll ',' (" " ++ list).toList = (' ' :: first) :: rest := by
    rw [chars, Text.splitAll, if_neg (by decide), cut]
  rw [entries, entries, Text.parts, Text.parts, spaced, cut, List.map_cons, List.map_cons,
    List.map_cons, List.map_cons, blank]

/-- The entries of one list come before those of a list that is appended. -/
theorem entries_append (front back : String) :
    entries (front ++ ", " ++ back) = entries front ++ entries back := by
  have cut : (front ++ ", " ++ back).toList = front.toList ++ ',' :: (" " ++ back).toList := by
    simp only [String.toList_append, List.append_assoc]
    rfl
  rw [← entries_space back, entries, Text.parts, cut, Text.splitAll_append_cons, List.map_append,
    List.map_append, List.filter_append]
  rfl

/-- The address of a client is never empty. -/
theorem clientIp_ne_empty {remote : Option SocketAddress}
    (legal : ∀ address, remote = some address → address.ip.Legal) (headers : HeaderMap)
    (header : Option HeaderName) : clientIp headers header remote ≠ "" := by
  have far : ∀ headers, clientIp headers none remote ≠ "" := by
    intro headers
    cases remote with
    | some address => exact Net.IpAddress.text_ne_empty (legal address rfl)
    | none => exact (by decide : "-" ≠ "")
  cases header with
  | none => exact far headers
  | some name =>
    unfold clientIp
    dsimp only
    split
    · rename_i named
      exact named
    · exact far headers

end Inbound

/-- The entries that a value lists, if it is text. -/
def Net.HeaderValue.entries (v : HeaderValue) : List String :=
  match v.text? with
  | some list => Inbound.entries list
  | none => []

/-- The hops that a message names, one line after the other. -/
def Net.HeaderMap.hops (m : HeaderMap) : List String :=
  (m.getAll .xForwardedFor).flatMap HeaderValue.entries

namespace Outbound

/-- The first line names hops before the client. -/
private theorem entries_hops {clientIp : String} (entry : Inbound.IsEntry clientIp)
    (nonempty : clientIp ≠ "") (inbound : HeaderMap) :
    Inbound.entries (hops inbound clientIp) =
      ((inbound.getAll .xForwardedFor).take 1).flatMap HeaderValue.entries ++ [clientIp] := by
  have first : ((inbound.getAll .xForwardedFor).take 1).flatMap HeaderValue.entries =
      match inbound.text? .xForwardedFor with
      | some list => Inbound.entries list
      | none => [] := by
    rw [HeaderMap.text?, HeaderMap.get?]
    cases inbound.getAll .xForwardedFor with
    | nil => rfl
    | cons line rest => exact List.flatMap_singleton HeaderValue.entries line
  rw [first]
  unfold hops
  cases inbound.text? .xForwardedFor with
  | none => exact entry.entries_eq nonempty
  | some list =>
    dsimp only
    split
    · rename_i empty
      rw [empty, entry.entries_eq nonempty]
      rfl
    · rw [Inbound.entries_append, entry.entries_eq nonempty]

private theorem exists_line_of_headers {inbound : HeaderMap} {backend : Backend} {sender : Sender}
    {upgrade : Bool} {out : HeaderMap} (entry : Inbound.IsEntry sender.clientIp)
    (nonempty : sender.clientIp ≠ "") (free : backend.ruleFor? .xForwardedFor = none)
    (made : Outbound.headers inbound backend sender upgrade = .ok out) :
    ∃ line, out.getAll .xForwardedFor = [line] ∧ line.text?.isSome = true ∧
      line.entries =
        ((inbound.getAll .xForwardedFor).take 1).flatMap HeaderValue.entries ++ [sender.clientIp] := by
  rcases exists_getAll_of_headers entry free made with ⟨line, only, text⟩
  refine ⟨line, only, Option.isSome_of_eq_some text, ?_⟩
  rw [HeaderValue.entries, text]
  exact entries_hops entry nonempty inbound

/-- Without a rule for them, the hops that are sent on are those of the first line of the request, and
behind them the client.  No hop is lost just where no other line names one. -/
theorem hops_of_first_line (inbound : HeaderMap) {backend : Backend}
    (free : backend.ruleFor? .xForwardedFor = none) (account : String) (seen : HeaderMap)
    (header : Option HeaderName) {remote : Option SocketAddress}
    (legal : ∀ address, remote = some address → address.ip.Legal) (upgrade : Bool) {out : HeaderMap} :
    let sender : Sender := { account, clientIp := Inbound.clientIp seen header remote }
    Outbound.headers inbound backend sender upgrade = .ok out →
    ∃ line, out.getAll .xForwardedFor = [line] ∧ line.text?.isSome = true ∧
      line.entries =
        ((inbound.getAll .xForwardedFor).take 1).flatMap HeaderValue.entries ++ [sender.clientIp] ∧
      (line.entries = inbound.hops ++ [sender.clientIp] ↔
        ∀ other ∈ (inbound.getAll .xForwardedFor).drop 1, other.entries = []) := by
  intro sender made
  rcases exists_line_of_headers (Inbound.isEntry_clientIp seen header remote)
    (Inbound.clientIp_ne_empty legal seen header) free made with ⟨line, only, text, named⟩
  have lines : inbound.hops = ((inbound.getAll .xForwardedFor).take 1).flatMap HeaderValue.entries ++
      ((inbound.getAll .xForwardedFor).drop 1).flatMap HeaderValue.entries := by
    rw [← List.flatMap_append, List.take_append_drop]
    rfl
  refine ⟨line, only, text, named, ?_⟩
  rw [named, lines, List.append_left_inj, List.self_eq_append_right, List.flatMap_eq_nil_iff]

/-- A list with blanks and an empty entry, and a second line that names nothing. -/
def proxiedHeaders : HeaderMap where
  fields := [
    (.xForwardedFor, .ofVisible " 192.0.2.1,,198.51.100.2 "),
    (.accept, .ofVisible "text/html"),
    (.xForwardedFor, .ofVisible " , ")]

theorem hops_of_first_line_proxied :
    ∃ out line,
      Outbound.headers proxiedHeaders ruledBackend { account := "alice", clientIp := "203.0.113.7" }
        false = .ok out ∧
      out.getAll .xForwardedFor = [line] ∧
      line.entries = ["192.0.2.1", "198.51.100.2", "203.0.113.7"] := by
  let remote : SocketAddress := { ip := .v4 [203, 0, 113, 7], service := 443 }
  have legal : ∀ address, some remote = some address → address.ip.Legal := by
    rintro address ⟨⟩
    rfl
  have client : Inbound.clientIp .empty none (some remote) = "203.0.113.7" := by decide
  have made : ∃ out, Outbound.headers proxiedHeaders ruledBackend
      { account := "alice", clientIp := Inbound.clientIp .empty none (some remote) } false = .ok out :=
    ⟨_, rfl⟩
  rcases made with ⟨out, made⟩
  rcases hops_of_first_line proxiedHeaders (by decide) "alice" .empty none legal false made with
    ⟨line, only, -, named, -⟩
  rw [client] at made named
  exact ⟨out, line, made, only, named.trans (by decide)⟩

/-- Two proxies, of which each has named its hop in a line of its own. -/
def twoLines : HeaderMap where
  fields := [(.xForwardedFor, .ofVisible "192.0.2.1"), (.xForwardedFor, .ofVisible "198.51.100.2")]

/-- The hop in the second line is lost. -/
theorem hops_lost :
    (∀ line ∈ twoLines.getAll .xForwardedFor, line.text?.isSome = true) ∧
      ruledBackend.ruleFor? .xForwardedFor = none ∧
      twoLines.hops = ["192.0.2.1", "198.51.100.2"] ∧
      ∃ out, Outbound.headers twoLines ruledBackend { account := "alice", clientIp := "203.0.113.7" }
          false = .ok out ∧
        out.hops = ["192.0.2.1", "203.0.113.7"] ∧
        out.hops ≠ twoLines.hops ++ ["203.0.113.7"] := by
  refine ⟨by decide, by decide, by decide, _, rfl, by decide, by decide⟩

end Outbound

end AuthGateway
