import AuthGateway.Config.Validation
import AuthGateway.Proofs.Net.Header
import AuthGateway.Proofs.Text.Base64
import Mathlib.Data.List.Forall2

namespace AuthGateway

/-!
# The checks that a configuration must pass

A configuration is read with a list of checks, each of which has an error of its own.  First come the two
keys, then the age of a session and the header of the client, and then the backends one after the other,
each with the rules for its headers and with a host that no backend before it has (`Config.checks`).

All of them pass just where the configuration is acceptable (`Config.passes_checks_iff`), and the error of
one that is refused is that of the first check that fails (`Config.runs_validate`).  What is made of a
configuration on the way is what it says: keys (`Config.runs_hashKey`, `Config.runs_blockKey`) and one
backend for each that is listed, with the rules in their order (`Config.runs_backendTable`).
-/

open Net (HeaderName HeaderValue)
open Text (Bytes)

namespace Config

/-- What must hold, and the error if it does not. -/
structure Check where
  holds : Prop
  error : ConfigError

def Passes (checks : List Check) : Prop :=
  ∀ check ∈ checks, check.holds

/-- The error is that of the first check that fails. -/
inductive FirstFailing : List Check → ConfigError → Prop where
  | here {check : Check} {rest : List Check} (fails : ¬ check.holds) :
      FirstFailing (check :: rest) check.error
  | later {check : Check} {rest : List Check} {e : ConfigError} (holds : check.holds)
      (further : FirstFailing rest e) : FirstFailing (check :: rest) e

/-- There is a result as described if all checks pass, and else the error of the first that fails. -/
inductive Runs {α : Type} (checks : List Check) (Fits : α → Prop) : Except ConfigError α → Prop where
  | passed {made : α} (passes : Passes checks) (fits : Fits made) : Runs checks Fits (.ok made)
  | failed {e : ConfigError} (first : FirstFailing checks e) : Runs checks Fits (.error e)

theorem Passes.append {first second : List Check} (front : Passes first) (back : Passes second) :
    Passes (first ++ second) :=
  List.forall_mem_append.mpr ⟨front, back⟩

theorem FirstFailing.append {first : List Check} {e : ConfigError} (failing : FirstFailing first e)
    (second : List Check) : FirstFailing (first ++ second) e := by
  induction failing with
  | here fails => exact .here fails
  | later holds _ inductionHypothesis => exact .later holds inductionHypothesis

theorem FirstFailing.behind {first second : List Check} {e : ConfigError} (passes : Passes first)
    (failing : FirstFailing second e) : FirstFailing (first ++ second) e := by
  induction first with
  | nil => exact failing
  | cons check rest inductionHypothesis =>
    rcases List.forall_mem_cons.mp passes with ⟨holds, others⟩
    exact .later holds (inductionHypothesis others)

theorem FirstFailing.not_passes {checks : List Check} {e : ConfigError}
    (failing : FirstFailing checks e) : ¬ Passes checks := by
  induction failing with
  | here fails => exact fun passes => fails (List.forall_mem_cons.mp passes).1
  | later _ _ inductionHypothesis =>
    exact fun passes => inductionHypothesis (List.forall_mem_cons.mp passes).2

/-- No two checks are the first that fails. -/
theorem FirstFailing.unique {checks : List Check} {e e' : ConfigError} (one : FirstFailing checks e)
    (other : FirstFailing checks e') : e = e' := by
  induction one with
  | here fails =>
    cases other with
    | here _ => rfl
    | later holds _ => exact absurd holds fails
  | later holds _ inductionHypothesis =>
    cases other with
    | here fails => exact absurd holds fails
    | later _ further => exact inductionHypothesis further

namespace Runs

variable {α β : Type} {checks first second : List Check} {result : Except ConfigError α}
  {Fits : α → Prop} {FitsToo : β → Prop}

theorem exists_ok_of_passes (runs : Runs checks Fits result) (passes : Passes checks) :
    ∃ made, result = .ok made ∧ Fits made := by
  cases runs with
  | passed _ fits => exact ⟨_, rfl, fits⟩
  | failed failing => exact absurd passes failing.not_passes

theorem passes_of_ok {made : α} (runs : Runs checks Fits (.ok made)) : Passes checks := by
  cases runs with
  | passed passes _ => exact passes

theorem fits_of_ok {made : α} (runs : Runs checks Fits (.ok made)) : Fits made := by
  cases runs with
  | passed _ fits => exact fits

theorem eq_error_iff (runs : Runs checks Fits result) {e : ConfigError} :
    result = .error e ↔ FirstFailing checks e := by
  cases runs with
  | passed passes _ => exact iff_of_false (by simp) fun failing => failing.not_passes passes
  | failed failing =>
    constructor
    · intro same
      exact Except.error.inj same ▸ failing
    · intro other
      rw [failing.unique other]

theorem done {made : α} (fits : Fits made) : Runs [] Fits (.ok made) :=
  .passed (fun _ member => absurd member List.not_mem_nil) fits

/-- A check before others. -/
theorem cons {check : Check} {rest : List Check} (passed : check.holds → Runs rest Fits result)
    (failed : ¬ check.holds → result = .error check.error) : Runs (check :: rest) Fits result := by
  by_cases holds : check.holds
  · cases passed holds with
    | passed passes fits => exact .passed (List.forall_mem_cons.mpr ⟨holds, passes⟩) fits
    | failed failing => exact .failed (.later holds failing)
  · rw [failed holds]
    exact .failed (.here holds)

/-- What is done with a result has checks of its own, which come later. -/
theorem bind {next : α → Except ConfigError β} (runs : Runs first Fits result)
    (further : ∀ made, Fits made → Runs second FitsToo (next made)) :
    Runs (first ++ second) FitsToo (result.bind next) := by
  cases runs with
  | failed failing => exact .failed (failing.append second)
  | @passed made passes fits =>
    have rest : Runs second FitsToo (next made) := further made fits
    change Runs (first ++ second) FitsToo (next made)
    generalize next made = last at rest
    cases rest with
    | passed others fit => exact .passed (passes.append others) fit
    | failed failing => exact .failed (failing.behind passes)

theorem map {next : α → β} (runs : Runs checks Fits result)
    (further : ∀ made, Fits made → FitsToo (next made)) :
    Runs checks FitsToo (result.map next) := by
  cases runs with
  | passed passes fits => exact .passed passes (further _ fits)
  | failed failing => exact .failed failing

theorem weaken {FitsMore : α → Prop} (runs : Runs checks Fits result)
    (further : ∀ made, Fits made → FitsMore made) : Runs checks FitsMore result := by
  cases runs with
  | passed passes fits => exact .passed passes (further _ fits)
  | failed failing => exact .failed failing

/-- The checks of a list are those of its members, one after the other. -/
theorem mapM {checks : α → List Check} {make : α → Except ConfigError β} {Makes : α → β → Prop}
    {items : List α} (each : ∀ item ∈ items, Runs (checks item) (Makes item) (make item)) :
    Runs (items.flatMap checks) (List.Forall₂ Makes items) (items.mapM make) := by
  induction items with
  | nil => exact done .nil
  | cons item others inductionHypothesis =>
    rcases List.forall_mem_cons.mp each with ⟨front, back⟩
    rw [List.mapM_cons, List.flatMap_cons]
    exact front.bind fun made makes =>
      (inductionHypothesis back).map fun mades all => .cons makes all

end Runs

/-- The text is the bytes in base64, with blanks around it. -/
def WritesKey (text : String) (key : Bytes) : Prop :=
  Text.trim text = Text.Base64.encode Text.Base64.standard key

theorem decode?_eq_some_iff {text : String} {key : Bytes} :
    Text.Base64.decode? Text.Base64.standard (Text.trim text) = some key ↔ WritesKey text key :=
  Text.Base64.decode?_eq_some_iff Text.Base64.standard_proper

theorem WritesKey.unique {text : String} {key other : Bytes} (writes : WritesKey text key)
    (again : WritesKey text other) : other = key :=
  Option.some.inj ((decode?_eq_some_iff.mpr again).symm.trans (decode?_eq_some_iff.mpr writes))

/-- What a field with a key must satisfy; the demand says which lengths are right. -/
def keyChecks (field text : String) (right : Nat → Prop) (demand : String) : List Check :=
  [⟨text ≠ "", .invalid (field ++ " is required")⟩,
    ⟨∃ key, WritesKey text key, .invalid (field ++ " must be a base64 encoded string")⟩,
    ⟨∀ key, WritesKey text key → right key.length, .invalid (field ++ " must decode to " ++ demand)⟩]

end Config

namespace HeaderRule

structure Acceptable (rule : HeaderRule) : Prop where
  name : HeaderName.Spelled rule.key
  value : ∀ c ∈ rule.value.toList, Net.isFieldChar c = true

/-- The header is written in small letters, and an empty value removes it. -/
structure Makes (rule : HeaderRule) (edit : HeaderEdit) : Prop where
  name : edit.name.text = Text.lowerAscii rule.key
  removes : rule.value = "" → edit.value = none
  sets : rule.value ≠ "" → ∃ value, edit.value = some value ∧ value.bytes = Text.encode rule.value

end HeaderRule

namespace BackendConfig

structure Acceptable (b : BackendConfig) : Prop where
  host : b.host ≠ ""
  address : b.address ≠ ""
  read : ∃ url, parseAddress b.address = .ok url
  rules : ∀ rule ∈ b.headers, rule.Acceptable

structure Makes (b : BackendConfig) (backend : Backend) : Prop where
  host : backend.host = b.host
  address : parseAddress b.address = .ok backend.address
  privilege : backend.privilege = b.privilege
  groups : ∀ group, group ∈ backend.groups ↔ group ∈ b.groups
  users : ∀ user, user ∈ backend.users ↔ user ∈ b.users
  edits : List.Forall₂ HeaderRule.Makes b.headers backend.edits

/-- What a rule of a backend must satisfy. -/
def ruleChecks (b : BackendConfig) (rule : HeaderRule) : List Config.Check :=
  [⟨HeaderName.Spelled rule.key, .invalid ("invalid header name " ++ rule.key ++ " for " ++ b.host)⟩,
    ⟨∀ c ∈ rule.value.toList, Net.isFieldChar c = true,
      .invalid ("invalid header value for " ++ rule.key ++ " on " ++ b.host)⟩]

/-- What is said of an address that is not read. -/
def complaint : Except Net.Url.ParseError Net.Url → String
  | .ok _ => ""
  | .error e => e.message

/-- What a backend must satisfy by itself. -/
def checks (b : BackendConfig) : List Config.Check :=
  ⟨b.host ≠ "" ∧ b.address ≠ "",
      .invalid ("host and upstream are required for " ++ b.host ++ ":" ++ b.address)⟩
    :: ⟨∃ url, parseAddress b.address = .ok url,
      .invalid ("invalid upstream for " ++ b.host ++ ": " ++ complaint (parseAddress b.address))⟩
    :: b.headers.flatMap b.ruleChecks

end BackendConfig

namespace Config

/-- What backends must satisfy where the hosts are taken. -/
def tableChecks (hosts : List String) : List BackendConfig → List Check
  | [] => []
  | b :: rest =>
    b.checks
      ++ ⟨b.host ∉ hosts, .invalid ("duplicate backend host " ++ b.host)⟩
      :: tableChecks (hosts ++ [b.host]) rest

def headerCheck (header : String) : Check :=
  ⟨HeaderName.Spelled header, .invalid ("invalid client_ip_header " ++ header)⟩

/-- What a configuration must satisfy, in the order in which it is checked. -/
def checks (c : Config) : List Check :=
  keyChecks "session.hash_key" c.session.hashKey (32 ≤ ·) "at least 32 bytes"
    ++ (keyChecks "session.block_key" c.session.blockKey (· = 32) "exactly 32 bytes"
    ++ ⟨0 ≤ c.session.maxAge, .invalid "session.max_age must not be negative"⟩
    :: (c.clientIpHeader.toList.map headerCheck ++ tableChecks [] c.backends))

/-- The text of a key is not empty, and it is base64 of a right length. -/
def KeyAcceptable (text : String) (right : Nat → Prop) : Prop :=
  text ≠ "" ∧ ∃ key, WritesKey text key ∧ right key.length

structure Acceptable (c : Config) : Prop where
  hashKey : KeyAcceptable c.session.hashKey (32 ≤ ·)
  blockKey : KeyAcceptable c.session.blockKey (· = 32)
  maxAge : 0 ≤ c.session.maxAge
  clientIpHeader : ∀ header, c.clientIpHeader = some header → HeaderName.Spelled header
  backends : ∀ b ∈ c.backends, b.Acceptable
  hosts : (c.backends.map (·.host)).Nodup

end Config

/-! ### Which configurations pass -/

theorem BackendConfig.passes_ruleChecks_iff {b : BackendConfig} {rule : HeaderRule} :
    Config.Passes (b.ruleChecks rule) ↔ rule.Acceptable := by
  rw [Config.Passes, ruleChecks, List.forall_mem_cons, List.forall_mem_singleton]
  exact ⟨fun ⟨name, value⟩ => ⟨name, value⟩, fun legal => ⟨legal.name, legal.value⟩⟩

theorem BackendConfig.passes_checks_iff {b : BackendConfig} : Config.Passes b.checks ↔ b.Acceptable := by
  have rules : (∀ check ∈ b.headers.flatMap b.ruleChecks, check.holds) ↔
      ∀ rule ∈ b.headers, rule.Acceptable := by
    rw [List.forall_mem_flatMap]
    exact forall₂_congr fun rule _ => passes_ruleChecks_iff
  rw [Config.Passes, checks, List.forall_mem_cons, List.forall_mem_cons, rules]
  constructor
  · rintro ⟨given, read, legal⟩
    exact { host := given.1, address := given.2, read := read, rules := legal }
  · intro acceptable
    exact ⟨⟨acceptable.host, acceptable.address⟩, acceptable.read, acceptable.rules⟩

namespace Config

theorem passes_keyChecks_iff {field text demand : String} {right : Nat → Prop} :
    Passes (keyChecks field text right demand) ↔ KeyAcceptable text right := by
  rw [Passes, keyChecks, List.forall_mem_cons, List.forall_mem_cons, List.forall_mem_singleton]
  constructor
  · rintro ⟨given, ⟨key, writes⟩, fits⟩
    exact ⟨given, key, writes, fits key writes⟩
  · rintro ⟨given, key, writes, fits⟩
    refine ⟨given, ⟨key, writes⟩, fun other again => ?_⟩
    rw [writes.unique again]
    exact fits

/-- The hosts of a table differ from those before, and from each other. -/
theorem passes_tableChecks_iff {configs : List BackendConfig} : ∀ {hosts : List String},
    Passes (tableChecks hosts configs) ↔
      (∀ b ∈ configs, b.Acceptable) ∧ (∀ b ∈ configs, b.host ∉ hosts) ∧
        (configs.map (·.host)).Nodup := by
  induction configs with
  | nil => exact fun {hosts} => iff_of_true (fun _ member => absurd member List.not_mem_nil) (by simp)
  | cons b rest inductionHypothesis =>
    intro hosts
    have apart : (∀ other ∈ rest, other.host ∉ hosts ++ [b.host]) ↔
        (∀ other ∈ rest, other.host ∉ hosts) ∧ b.host ∉ rest.map (·.host) := by
      simp only [List.mem_append, List.mem_singleton, not_or, List.mem_map, not_exists, not_and]
      exact forall₂_and
    rw [Passes, tableChecks, List.forall_mem_append, List.forall_mem_cons, ← Passes, ← Passes,
      BackendConfig.passes_checks_iff, inductionHypothesis, apart, List.forall_mem_cons,
      List.forall_mem_cons, List.map_cons, List.nodup_cons]
    constructor
    · rintro ⟨first, free, others, ⟨new, single⟩, distinct⟩
      exact ⟨⟨first, others⟩, ⟨free, new⟩, single, distinct⟩
    · rintro ⟨⟨first, others⟩, ⟨free, new⟩, single, distinct⟩
      exact ⟨first, free, others, ⟨new, single⟩, distinct⟩

theorem passes_checks_iff {c : Config} : Passes c.checks ↔ c.Acceptable := by
  have header : (∀ check ∈ c.clientIpHeader.toList.map headerCheck, check.holds) ↔
      ∀ header, c.clientIpHeader = some header → HeaderName.Spelled header := by
    rw [List.forall_mem_map]
    simp only [Option.mem_toList]
    rfl
  rw [Passes, checks, List.forall_mem_append, List.forall_mem_append, List.forall_mem_cons,
    List.forall_mem_append, header, ← Passes, ← Passes, ← Passes, passes_keyChecks_iff,
    passes_keyChecks_iff, passes_tableChecks_iff]
  constructor
  · rintro ⟨signs, hides, lasting, named, backends, -, distinct⟩
    exact {
      hashKey := signs
      blockKey := hides
      maxAge := lasting
      clientIpHeader := named
      backends := backends
      hosts := distinct }
  · intro acceptable
    exact ⟨acceptable.hashKey, acceptable.blockKey, acceptable.maxAge, acceptable.clientIpHeader,
      acceptable.backends, fun _ _ => List.not_mem_nil, acceptable.hosts⟩

end Config

/-! ### What is made of a configuration -/

namespace BackendConfig

open Config (Runs)

theorem runs_edit (b : BackendConfig) (rule : HeaderRule) :
    Runs (b.ruleChecks rule) rule.Makes (b.edit rule) := by
  rw [edit]
  refine .cons (fun spelled => ?_) fun unspelled => ?_
  · rcases HeaderName.exists_parse?_iff.mpr spelled with ⟨name, read⟩
    have written : name.text = Text.lowerAscii rule.key := (HeaderName.parse?_eq_some_iff.mp read).2
    rw [read]
    dsimp only
    refine .cons (fun legal => ?_) fun illegal => ?_
    · split
      · rename_i empty
        exact .done { name := written, removes := fun _ => rfl, sets := fun given => absurd empty given }
      · rename_i given
        rcases Option.isSome_iff_exists.mp (HeaderValue.isSome_ofText?_iff.mpr legal) with ⟨value, made⟩
        rw [made]
        exact .done {
          name := written
          removes := fun empty => absurd empty given
          sets := fun _ => ⟨value, rfl, HeaderValue.ofText?_eq_some_iff.mp made⟩ }
    · have given : rule.value ≠ "" := by
        intro empty
        rw [empty] at illegal
        exact illegal fun c member => absurd member List.not_mem_nil
      have unmade : HeaderValue.ofText? rule.value = none :=
        Option.not_isSome_iff_eq_none.mp fun made => illegal (HeaderValue.isSome_ofText?_iff.mp made)
      rw [if_neg given, unmade]
  · rw [HeaderName.parse?_eq_none_iff.mpr unspelled]

theorem runs_toBackend (b : BackendConfig) : Runs b.checks b.Makes b.toBackend := by
  rw [toBackend]
  refine .cons (fun given => ?_) fun missing => ?_
  · rw [if_neg fun empty => empty.elim given.1 given.2]
    refine .cons (fun read => ?_) fun unread => ?_
    · rcases read with ⟨url, parsed⟩
      rw [parsed]
      have edits : Runs (b.headers.flatMap b.ruleChecks) (List.Forall₂ HeaderRule.Makes b.headers)
          (b.headers.mapM b.edit) := .mapM fun rule _ => b.runs_edit rule
      have backend : Runs (b.headers.flatMap b.ruleChecks) b.Makes ((b.headers.mapM b.edit).map
          fun edits => {
            host := b.host
            address := url
            privilege := b.privilege
            groups := .ofList b.groups
            users := .ofList b.users
            edits }) := edits.map fun made makes => {
        host := rfl
        address := parsed
        privilege := rfl
        groups := fun _ => TextSet.mem_ofList
        users := fun _ => TextSet.mem_ofList
        edits := makes }
      cases made : b.headers.mapM b.edit <;> rwa [made] at backend
    · cases parsed : parseAddress b.address with
      | ok url => exact absurd ⟨url, parsed⟩ unread
      | error e => rfl
  · have empty : b.host = "" ∨ b.address = "" := by
      rwa [not_and_or, not_ne_iff, not_ne_iff] at missing
    rw [if_pos empty]

theorem makes_of_toBackend {b : BackendConfig} {backend : Backend} (made : b.toBackend = .ok backend) :
    b.Makes backend :=
  (made ▸ b.runs_toBackend).fits_of_ok

end BackendConfig

namespace Config

/-- A key is read, and then its length must be right. -/
private theorem runs_key {field text demand : String} {right : Nat → Prop}
    {next : Bytes → Except ConfigError Bytes}
    (passed : ∀ key, right key.length → next key = .ok key)
    (failed : ∀ key, ¬ right key.length →
      next key = .error (.invalid (field ++ " must decode to " ++ demand))) :
    Runs (keyChecks field text right demand) (WritesKey text) ((decodeKey field text).bind next) := by
  rw [decodeKey]
  refine .cons (fun given => ?_) fun empty => ?_
  · rw [if_neg (show text ≠ "" from given)]
    refine .cons (fun written => ?_) fun unwritten => ?_
    · rcases written with ⟨key, writes⟩
      rw [decode?_eq_some_iff.mpr writes]
      change Runs _ _ (next key)
      refine .cons (fun fits => ?_) fun unfit => ?_
      · rw [passed key (fits key writes)]
        exact .done writes
      · refine failed key fun fits => unfit fun other again => ?_
        rw [writes.unique again]
        exact fits
    · have unread : Text.Base64.decode? Text.Base64.standard (Text.trim text) = none :=
        Option.eq_none_iff_forall_ne_some.mpr fun key read =>
          unwritten ⟨key, decode?_eq_some_iff.mp read⟩
      rw [unread]
      rfl
  · rw [if_pos (show text = "" from Decidable.not_not.mp empty)]
    rfl

theorem runs_hashKey (c : Config) :
    Runs (keyChecks "session.hash_key" c.session.hashKey (32 ≤ ·) "at least 32 bytes")
      (WritesKey c.session.hashKey) c.hashKey := by
  have steps : c.hashKey = (decodeKey "session.hash_key" c.session.hashKey).bind fun key =>
      if key.length < 32 then .error (.invalid "session.hash_key must decode to at least 32 bytes")
      else .ok key := by
    rw [hashKey]
    cases decodeKey "session.hash_key" c.session.hashKey <;> rfl
  rw [steps]
  refine runs_key (fun key long => if_neg (Nat.not_lt.mpr long)) fun key short => ?_
  rw [if_pos (Nat.not_le.mp short)]
  rfl

theorem runs_blockKey (c : Config) :
    Runs (keyChecks "session.block_key" c.session.blockKey (· = 32) "exactly 32 bytes")
      (WritesKey c.session.blockKey) c.blockKey := by
  have steps : c.blockKey = (decodeKey "session.block_key" c.session.blockKey).bind fun key =>
      if key.length = 32 then .ok key
      else .error (.invalid "session.block_key must decode to exactly 32 bytes") := by
    rw [blockKey]
    cases decodeKey "session.block_key" c.session.blockKey <;> rfl
  rw [steps]
  refine runs_key (fun key fits => if_pos fits) fun key unfit => ?_
  rw [if_neg unfit]
  rfl

/-- Backends are added to those before, one for each that is listed. -/
theorem runs_addBackends (configs : List BackendConfig) : ∀ before : List Backend,
    Runs (tableChecks (before.map (·.host)) configs)
      (fun after => ∃ added, after = before ++ added ∧ List.Forall₂ BackendConfig.Makes configs added)
      (addBackends before configs) := by
  induction configs with
  | nil => exact fun before => .done ⟨[], (List.append_nil before).symm, .nil⟩
  | cons b rest inductionHypothesis =>
    intro before
    have steps : addBackends before (b :: rest) = b.toBackend.bind fun backend =>
        if before.any (·.host = backend.host) then
          .error (.invalid ("duplicate backend host " ++ backend.host))
        else addBackends (before ++ [backend]) rest := by
      rw [addBackends]
      cases b.toBackend <;> rfl
    rw [steps]
    refine b.runs_toBackend.bind fun backend makes => ?_
    have taken : before.any (·.host = backend.host) = true ↔ b.host ∈ before.map (·.host) := by
      rw [List.any_eq_true, List.mem_map, makes.host]
      simp only [decide_eq_true_eq]
    refine .cons (fun free => ?_) fun again => ?_
    · rw [if_neg fun found => free (taken.mp found)]
      have further := inductionHypothesis (before ++ [backend])
      rw [List.map_append, List.map_singleton, makes.host] at further
      refine further.weaken ?_
      rintro after ⟨added, rfl, all⟩
      exact ⟨backend :: added, List.append_assoc before [backend] added, .cons makes all⟩
    · rw [if_pos (taken.mpr (Decidable.not_not.mp again)), makes.host]

theorem runs_backendTable (c : Config) :
    Runs (tableChecks [] c.backends)
      (fun table => List.Forall₂ BackendConfig.Makes c.backends table.backends) c.backendTable := by
  refine (runs_addBackends c.backends []).map ?_
  rintro after ⟨added, rfl, makes⟩
  exact makes

/-- The first check that fails gives the error. -/
theorem runs_validate (c : Config) : Runs c.checks (fun _ => True) c.validate := by
  have table : Runs (tableChecks [] c.backends) (fun _ => True) (c.backendTable.map fun _ => ()) :=
    c.runs_backendTable.map fun _ _ => trivial
  have steps : c.validate = c.hashKey.bind fun _ => c.blockKey.bind fun _ =>
      if c.session.maxAge < 0 then .error (.invalid "session.max_age must not be negative")
      else c.clientIpHeader.elim (c.backendTable.map fun _ => ()) fun header =>
        (HeaderName.parse? header).elim (.error (.invalid ("invalid client_ip_header " ++ header)))
          fun _ => c.backendTable.map fun _ => () := by
    rw [validate]
    cases c.hashKey with
    | error _ => rfl
    | ok _ =>
      cases c.blockKey with
      | error _ => rfl
      | ok _ =>
        cases c.clientIpHeader with
        | none => rfl
        | some header =>
          dsimp only [Option.elim_some]
          cases HeaderName.parse? header <;> rfl
  rw [steps]
  refine c.runs_hashKey.bind fun _ _ => c.runs_blockKey.bind fun _ _ => ?_
  refine .cons (fun lasting => ?_) fun negative => ?_
  · rw [if_neg (Int.not_lt.mpr lasting)]
    cases c.clientIpHeader with
    | none => exact table
    | some header =>
      refine .cons (fun spelled => ?_) fun unspelled => ?_
      · rcases HeaderName.exists_parse?_iff.mpr spelled with ⟨name, read⟩
        rw [Option.elim_some, read]
        exact table
      · rw [Option.elim_some, HeaderName.parse?_eq_none_iff.mpr unspelled]
        rfl
  · rw [if_pos (Int.not_le.mp negative)]

end Config

end AuthGateway
