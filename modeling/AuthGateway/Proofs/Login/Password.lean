import AuthGateway.Login.Password
import AuthGateway.Proofs.Text.Base64
import AuthGateway.Proofs.Text.Case

namespace AuthGateway

/-!
# Which passwords are accepted

The comparison of two runs goes through all their pairs and gathers the differences in one byte.  A bit
that has been set is never cleared, so the byte is zero at the end just where no pair differed, and runs
of one length without a difference are the same (`sameBytes_eq_true_iff`).  Base64 has one written form
for every run, so in that scheme, too, a password is accepted from one stored text only, and a tag that
names no scheme accepts nothing (`verify_under_tags`).
-/

open Text (Bytes InAnyCase)

namespace Password

/-! ## The comparison -/

/-- The gathered bits are zero at the end if they were at the start and every pair agrees. -/
theorem foldl_differences_eq_zero_iff (pairs : List (UInt8 × UInt8)) (bits : UInt8) :
    pairs.foldl (fun bits (x, y) => bits ||| (x ^^^ y)) bits = 0 ↔
      bits = 0 ∧ ∀ pair ∈ pairs, pair.1 = pair.2 := by
  induction pairs generalizing bits with
  | nil => simp
  | cons pair rest inductionHypothesis =>
    rw [List.foldl_cons, inductionHypothesis, UInt8.or_eq_zero_iff, UInt8.xor_eq_zero_iff,
      List.forall_mem_cons, and_assoc]

theorem difference_eq_zero_iff {a b : Bytes} :
    difference a b = 0 ↔ ∀ pair ∈ a.zip b, pair.1 = pair.2 :=
  (foldl_differences_eq_zero_iff (a.zip b) 0).trans (and_iff_right rfl)

/-- The comparison tells exactly whether two runs are the same. -/
theorem sameBytes_eq_true_iff {a b : Bytes} : sameBytes a b = true ↔ a = b := by
  -- Pairs end with the shorter run, so that without the lengths a run would be the same as its beginning.
  calc sameBytes a b = true
    _ ↔ a.length = b.length ∧ ∀ pair ∈ a.zip b, pair.1 = pair.2 := by
      rw [sameBytes, Bool.and_eq_true, beq_iff_eq, beq_iff_eq, difference_eq_zero_iff]
    _ ↔ List.Forall₂ (· = ·) a b := by
      rw [List.forall₂_iff_zip, Prod.forall]
    _ ↔ a = b := by
      rw [List.forall₂_eq_eq_eq]

/-! ## The schemes -/

/-- The names of a scheme, in small letters. -/
def Scheme.names : Scheme → List String
  | .plain => ["", "plain"]
  | .base64 => ["base64"]
  | .bcrypt => ["bcrypt"]

/-- A tag stands for a scheme exactly if it is one of its names in any case. -/
theorem Scheme.parse?_eq_some_iff {tag : String} {scheme : Scheme} :
    parse? tag = some scheme ↔ ∃ name ∈ scheme.names, InAnyCase name tag := by
  have small : ∀ name ∈ scheme.names, ∀ c ∈ name.toList, c.isUpper = false := by
    cases scheme <;> simp [names]
  have named : (∃ name ∈ scheme.names, InAnyCase name tag) ↔ Text.lowerAscii tag ∈ scheme.names := by
    constructor
    · rintro ⟨name, listed, spelled⟩
      rw [(Text.lowerAscii_eq_iff (small name listed)).mpr spelled]
      exact listed
    · intro listed
      exact ⟨_, listed, (Text.lowerAscii_eq_iff (small _ listed)).mp rfl⟩
  rw [named, parse?]
  generalize Text.lowerAscii tag = word
  split
  · rename_i plain
    rcases plain with rfl | rfl <;> cases scheme <;> decide
  rename_i plain
  split
  · rename_i base64
    subst base64
    cases scheme <;> decide
  rename_i base64
  split
  · rename_i bcrypt
    subst bcrypt
    cases scheme <;> decide
  · rename_i bcrypt
    refine iff_of_false (by simp) ?_
    cases scheme <;> simp [names, base64, bcrypt, not_or.mp plain]

theorem Scheme.parse?_of_unnamed {tag : String}
    (unnamed : ∀ name ∈ ["", "plain", "base64", "bcrypt"], ¬ InAnyCase name tag) :
    parse? tag = none := by
  have known : ∀ scheme : Scheme, ∀ name ∈ scheme.names, name ∈ ["", "plain", "base64", "bcrypt"] := by
    rintro (_ | _ | _) <;> decide
  rw [Option.eq_none_iff_forall_ne_some]
  intro scheme read
  rcases parse?_eq_some_iff.mp read with ⟨name, listed, spelled⟩
  exact unnamed name (known scheme name listed) spelled

theorem Scheme.verify_base64_iff {stored candidate : String} :
    Scheme.base64.verify stored candidate = true ↔
      Text.trim stored = Text.Base64.encode Text.Base64.standard (Text.encode candidate) := by
  rw [← Text.Base64.decode?_eq_some_iff Text.Base64.standard_proper, verify]
  cases Text.Base64.decode? Text.Base64.standard (Text.trim stored) with
  | none => simp
  | some password => exact sameBytes_eq_true_iff.trans Option.some_inj.symm

/-- Under a plain tag just the stored bytes are accepted.  Under a tag for base64 a candidate is accepted
just if the stored text, without white space around it, is the one written form of its bytes.  Under a
tag that is no name of a scheme in any case nothing is.  The comparison that decides tells exactly
whether two runs are the same. -/
theorem verify_under_tags (stored candidate : String) :
    (∀ tag, InAnyCase "" tag ∨ InAnyCase "plain" tag →
      (verify stored candidate tag = true ↔ Text.encode stored = Text.encode candidate)) ∧
    (∀ tag, InAnyCase "base64" tag →
      (verify stored candidate tag = true ↔
        Text.trim stored = Text.Base64.encode Text.Base64.standard (Text.encode candidate))) ∧
    (∀ tag, (∀ name ∈ ["", "plain", "base64", "bcrypt"], ¬ InAnyCase name tag) →
      verify stored candidate tag = false) ∧
    ∀ a b : Bytes, sameBytes a b = true ↔ a = b := by
  refine ⟨?_, ?_, ?_, fun a b => sameBytes_eq_true_iff⟩
  · intro tag named
    have scheme : Scheme.parse? tag = some .plain :=
      Scheme.parse?_eq_some_iff.mpr (by simpa [Scheme.names] using named)
    rw [verify, scheme]
    exact sameBytes_eq_true_iff
  · intro tag named
    have scheme : Scheme.parse? tag = some .base64 :=
      Scheme.parse?_eq_some_iff.mpr ⟨_, List.mem_singleton_self _, named⟩
    rw [verify, scheme]
    exact Scheme.verify_base64_iff
  · intro tag unnamed
    rw [verify, Scheme.parse?_of_unnamed unnamed]

/-- The last text would spell the password if the unused bits of its last digit were ignored. -/
theorem verify_under_tags_secret :
    InAnyCase "plain" "PLAIN" ∧ verify "secret" "secret" "PLAIN" = true ∧
    InAnyCase "base64" "Base64" ∧ verify " c2VjcmU=\n" "secre" "Base64" = true ∧
    (∀ name ∈ ["", "plain", "base64", "bcrypt"], ¬ InAnyCase name "md5") ∧
    verify "secret" "secret" "md5" = false ∧
    ¬ verify "c2VjcmV=" "secre" "Base64" = true := by
  have plain : InAnyCase "plain" "PLAIN" := by decide
  have base64 : InAnyCase "base64" "Base64" := by decide
  have unnamed : ∀ name ∈ ["", "plain", "base64", "bcrypt"], ¬ InAnyCase name "md5" := by decide
  refine ⟨plain, ?_, base64, ?_, unnamed, ?_, ?_⟩
  · exact ((verify_under_tags "secret" "secret").1 "PLAIN" (Or.inr plain)).mpr rfl
  · exact ((verify_under_tags " c2VjcmU=\n" "secre").2.1 "Base64" base64).mpr (by decide)
  · exact (verify_under_tags "secret" "secret").2.2.1 "md5" unnamed
  · exact ((verify_under_tags "c2VjcmV=" "secre").2.1 "Base64" base64).not.mpr (by decide)

end Password

end AuthGateway
