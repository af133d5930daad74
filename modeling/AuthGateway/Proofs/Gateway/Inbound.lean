import AuthGateway.Gateway.Dispatch
import AuthGateway.Proofs.Net.Header
import AuthGateway.Proofs.Text.Blank
import AuthGateway.Proofs.Text.Case
import AuthGateway.Proofs.Text.Split

namespace AuthGateway

/-!
# What a request says about itself

Of a header that is to name one thing the first value counts, and it counts only if it is visible text
(`Inbound.Says`).  If nothing is said, something else stands for it: the authority of the target for the
host, the far end of the connection for the client, and else a dash (`Inbound.SaidOr`).  A change of the
protocol is asked for by any value of the one header and by the first value of the other.
-/

open Net (HeaderMap HeaderName HeaderValue Request SocketAddress)

namespace Inbound

variable {headers : HeaderMap} {name : HeaderName} {text : String}

/-- The first value under the name is this text. -/
def Says (headers : HeaderMap) (name : HeaderName) (text : String) : Prop :=
  ∃ value more, headers.getAll name = value :: more ∧ value.Spells text

theorem text?_eq_some_iff : headers.text? name = some text ↔ Says headers name text := by
  unfold HeaderMap.text? HeaderMap.get? Says
  cases headers.getAll name with
  | nil => simp
  | cons value more =>
    rw [List.head?_cons, Option.bind_some, HeaderValue.text?_eq_some_iff]
    constructor
    · exact fun spells => ⟨value, more, rfl, spells⟩
    · rintro ⟨_, _, same, spells⟩
      exact (List.cons.inj same).1 ▸ spells

/-- What is said, or this fallback if nothing is. -/
def SaidOr (said : String → Prop) (fallback s : String) : Prop :=
  said s ∨ (∀ other, ¬ said other) ∧ s = fallback

theorem saidOr_getD {said : String → Prop} {found : Option String}
    (finds : ∀ s, found = some s ↔ said s) (fallback : String) :
    SaidOr said fallback (found.getD fallback) := by
  cases found with
  | some s => exact Or.inl ((finds s).mp rfl)
  | none => exact Or.inr ⟨fun other spoken => absurd ((finds other).mpr spoken) (by simp), rfl⟩

theorem SaidOr.eq_of_said {fallback s : String} (shown : SaidOr (Says headers name) fallback s)
    (said : Says headers name text) : s = text := by
  rcases shown with spoken | ⟨silent, -⟩
  · exact Option.some.inj ((text?_eq_some_iff.mpr spoken).symm.trans (text?_eq_some_iff.mpr said))
  · exact absurd said (silent text)

theorem SaidOr.eq_of_silent {said : String → Prop} {fallback s : String} (shown : SaidOr said fallback s)
    (silent : ∀ other, ¬ said other) : s = fallback := by
  rcases shown with spoken | ⟨-, same⟩
  · exact absurd spoken (silent s)
  · exact same

theorem saidOr_shown (headers : HeaderMap) (name : HeaderName) :
    SaidOr (Says headers name) "-" (shown headers name) :=
  saidOr_getD (fun _ => text?_eq_some_iff) "-"

/-- An empty host is none, and so it is the same whether it is said or not. -/
theorem saidOr_hostOf (request : Request) :
    SaidOr (Says request.headers .host) (request.uri.authority.getD "") (Gateway.hostOf request) := by
  have same : Gateway.hostOf request =
      (request.headers.text? .host).getD (request.uri.authority.getD "") := by
    have dropped : ∀ found : Option String, (found.filter (· ≠ "")).getD "" = found.getD "" := by
      intro found
      cases found with
      | none => rfl
      | some s =>
        by_cases empty : s = ""
        · rw [empty]
          rfl
        · rw [Option.filter_some, if_pos (decide_eq_true empty)]
    rw [Gateway.hostOf, host?, dropped]
    cases request.headers.text? .host with
    | none => rfl
    | some s => rfl
  rw [same]
  exact saidOr_getD (fun _ => text?_eq_some_iff) _

/-! ## The client -/

/-- The header that is configured for the client holds a list that begins with this entry. -/
structure NamesClient (headers : HeaderMap) (header : Option HeaderName) (entry : String) : Prop where
  said : ∃ name text, header = some name ∧ Says headers name text ∧
    Text.Trimmed entry (String.ofList (text.toList.takeWhile (· ≠ ',')))
  nonempty : entry ≠ ""

private theorem headD_parts (s : String) :
    (Text.parts ',' s).headD "" = String.ofList (s.toList.takeWhile (· ≠ ',')) := by
  have cut : ∀ cs : List Char, (Text.splitAll ',' cs).head? = some (cs.takeWhile (· ≠ ',')) := by
    intro cs
    induction cs with
    | nil => rfl
    | cons c rest inductionHypothesis =>
      rw [Text.splitAll]
      by_cases comma : c = ','
      · simp [comma]
      · rcases List.head?_eq_some_iff.mp inductionHypothesis with ⟨parts, listed⟩
        simp [comma, listed]
  rw [Text.parts, List.headD_eq_head?_getD, List.head?_map, cut]
  rfl

theorem saidOr_clientIp (headers : HeaderMap) (header : Option HeaderName) (remote : Option SocketAddress) :
    SaidOr (NamesClient headers header) ((remote.map fun address => address.ip.text).getD "-")
      (clientIp headers header remote) := by
  have read : clientIp headers header remote =
      if header.elim "" (namedClient headers) ≠ "" then header.elim "" (namedClient headers)
      else (remote.map fun address => address.ip.text).getD "-" := by
    cases header with
    | none =>
      cases remote with
      | none => rfl
      | some address => rfl
    | some name =>
      cases remote with
      | none => rfl
      | some address => rfl
  have named : ∀ entry, entry ≠ "" →
      (header.elim "" (namedClient headers) = entry ↔ NamesClient headers header entry) := by
    intro entry nonempty
    constructor
    · intro first
      refine { said := ?_, nonempty := nonempty }
      cases header with
      | none => exact absurd first.symm nonempty
      | some name =>
        rw [Option.elim_some, namedClient] at first
        split at first
        · rename_i text spoken
          rw [headD_parts] at first
          exact ⟨name, text, rfl, text?_eq_some_iff.mp spoken, Text.trim_eq_iff.mp first⟩
        · exact absurd first.symm nonempty
    · rintro ⟨⟨name, text, rfl, said, trimmed⟩, -⟩
      rw [Option.elim_some, namedClient, text?_eq_some_iff.mpr said]
      exact (congrArg Text.trim (headD_parts text)).trans (Text.trim_eq_iff.mpr trimmed)
  rw [read]
  split
  · rename_i nonempty
    exact Or.inl ((named _ nonempty).mp rfl)
  · rename_i empty
    refine Or.inr ⟨fun entry names => ?_, rfl⟩
    exact empty (((named entry names.nonempty).mpr names).symm ▸ names.nonempty)

/-! ## The change of the protocol -/

theorem mentions_iff {part cs : List Char} : mentions part cs = true ↔ part <:+: cs := by
  induction cs with
  | nil => rw [mentions, List.isEmpty_iff, List.infix_nil]
  | cons c rest inductionHypothesis =>
    rw [mentions, Bool.or_eq_true, List.isPrefixOf_iff_prefix, inductionHypothesis, List.infix_cons_iff]

/-- The connection is to be upgraded, in some case of the letters, and a protocol is named. -/
structure AsksUpgrade (headers : HeaderMap) : Prop where
  connection : ∃ value ∈ headers.getAll .connection, ∃ text, value.Spells text ∧
    ∃ word, word <:+: text.toList ∧ Text.InAnyCase "upgrade" (String.ofList word)
  protocol : ∃ text, Says headers .upgrade text ∧ ∃ c ∈ text.toList, Text.isBlank c = false

private theorem mentions_lowerAscii_iff {word : String} (small : ∀ c ∈ word.toList, c.isUpper = false)
    {s : String} : mentions word.toList (Text.lowerAscii s).toList = true ↔
      ∃ part, part <:+: s.toList ∧ Text.InAnyCase word (String.ofList part) := by
  rw [mentions_iff, Text.lowerAscii, String.toList_ofList, List.infix_map_iff]
  refine exists_congr fun part => and_congr_right fun _ => ?_
  rw [← Text.lowerAscii_eq_iff small, Text.lowerAscii, String.toList_ofList, ← String.toList_inj,
    String.toList_ofList, eq_comm]

theorem isUpgrade_iff : isUpgrade headers = true ↔ AsksUpgrade headers := by
  have small : ∀ c ∈ "upgrade".toList, c.isUpper = false := by simp
  have asked : (((headers.getAll .connection).filterMap HeaderValue.text?).any fun value =>
      mentions "upgrade".toList (Text.lowerAscii value).toList) = true ↔
      ∃ value ∈ headers.getAll .connection, ∃ text, value.Spells text ∧
        ∃ word, word <:+: text.toList ∧ Text.InAnyCase "upgrade" (String.ofList word) := by
    simp only [List.any_eq_true, List.mem_filterMap, HeaderValue.text?_eq_some_iff,
      mentions_lowerAscii_iff small]
    constructor
    · rintro ⟨text, ⟨value, listed, spells⟩, mentioned⟩
      exact ⟨value, listed, text, spells, mentioned⟩
    · rintro ⟨value, listed, text, spells, mentioned⟩
      exact ⟨text, ⟨value, listed, spells⟩, mentioned⟩
  have named : ((headers.text? .upgrade).any fun value => Text.trim value ≠ "") = true ↔
      ∃ text, Says headers .upgrade text ∧ ∃ c ∈ text.toList, Text.isBlank c = false := by
    simp only [Option.any_eq_true, text?_eq_some_iff, decide_eq_true_eq, ne_eq, Text.trim_eq_empty_iff,
      not_forall, Bool.not_eq_true, exists_prop]
  rw [isUpgrade, Bool.and_eq_true, asked, named]
  exact ⟨fun ⟨connection, protocol⟩ => ⟨connection, protocol⟩,
    fun asks => ⟨asks.connection, asks.protocol⟩⟩

/-! ## Static assets -/

/-- The path ends in one of the endings of static assets, in any case. -/
def StaticAsset (path : String) : Prop :=
  ∃ ending ∈ assetEndings, ∃ front tail, path = front ++ tail ∧ Text.InAnyCase ending tail

theorem isStaticAsset_iff {path : String} : isStaticAsset path = true ↔ StaticAsset path := by
  have small : ∀ ending ∈ assetEndings, ∀ c ∈ ending.toList, c.isUpper = false := by
    intro ending listed
    have all : assetEndings.all (fun ending => ending.toList.all fun c => !c.isUpper) = true := by decide
    simpa using List.all_eq_true.mp all ending listed
  unfold isStaticAsset StaticAsset
  simp only [List.any_eq_true]
  refine exists_congr fun ending => and_congr_right fun listed => ?_
  rw [List.isSuffixOf_iff_suffix, Text.lowerAscii, String.toList_ofList, List.suffix_map_iff]
  constructor
  · rintro ⟨tail, ⟨front, whole⟩, lowered⟩
    refine ⟨String.ofList front, String.ofList tail, ?_, ?_⟩
    · rw [← String.toList_inj, String.toList_append, String.toList_ofList, String.toList_ofList, whole]
    · rw [← Text.lowerAscii_eq_iff (small ending listed), Text.lowerAscii, String.toList_ofList, ← lowered,
        String.ofList_toList]
  · rintro ⟨front, tail, rfl, spelled⟩
    rw [← Text.lowerAscii_eq_iff (small ending listed)] at spelled
    refine ⟨tail.toList, ?_, ?_⟩
    · rw [String.toList_append]
      exact List.suffix_append _ _
    · rw [← spelled, Text.lowerAscii, String.toList_ofList]

end Inbound

end AuthGateway
