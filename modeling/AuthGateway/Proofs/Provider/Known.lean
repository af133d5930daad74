import AuthGateway.Proofs.Provider.Directory
import AuthGateway.Proofs.Provider.Local
import AuthGateway.Proofs.Provider.Tree

namespace AuthGateway

/-!
# Users whom the gateway knows itself

The provider of a configuration is a list of users, a directory, or both.  Whoever is let in by it or
found by it is one of the listed users or an entry of the directory (`Provider.known_of_answer`), so what
holds of these two kinds of identities holds of all.
-/

/-- The user is one that a provider of the gateway itself knows. -/
inductive Identity.Known : Identity → Prop where
  | listed (user : LocalUser) : Known user.identity
  | entry (source : Directory.Source) (asked : String) (entry : Directory.Entry) :
    Known (source.identity asked entry)

namespace Provider

/-- No provider in the tree is outside of the gateway. -/
def isOwn : Provider → Bool
  | composite _ first _ second => first.isOwn && second.isOwn
  | foreign _ => false
  | localUsers .. | database | directory _ => true

theorem isOwn_of_ofConfig {c : Config} {service : Directory.Service} {p : Provider}
    (made : ofConfig c service = .ok p) : p.isOwn = true := by
  have directory : ∀ {p}, directoryOf c service = .ok p → p.isOwn = true := by
    intro p made
    unfold directoryOf at made
    split at made
    · exact absurd made (by simp)
    · rw [← Except.ok.inj made]
      rfl
  unfold ofConfig at made
  split at made
  · rw [← Except.ok.inj made]
    rfl
  · exact directory made
  · rw [← Except.ok.inj made]
    rfl
  · split at made
    · exact absurd made (by simp)
    · rename_i second found
      rw [← Except.ok.inj made]
      exact Bool.and_eq_true_iff.mpr ⟨rfl, directory found⟩

private theorem known_of_vouch {listed : LocalUser} {user : Identity}
    (vouched : listed.vouch = .ok user) : user.Known := by
  unfold LocalUser.vouch at vouched
  split at vouched
  · exact absurd vouched (by simp)
  · rw [← Except.ok.inj vouched]
    exact .listed listed

private theorem known_of_localUsers {check : PasswordCheck} {users : List LocalUser}
    {question : Question} {account : String} {user : Identity}
    (answered : ((localUsers check users).answer question account).ending = .value user) :
    user.Known := by
  cases question with
  | login password =>
    have opened := Ending.ofExcept_eq_value_iff.mp answered
    rcases LocalUser.login_outcome check users account password with
      ⟨listed, -, -, vouched⟩ | ⟨e, refused, -⟩
    · exact known_of_vouch (vouched.symm.trans opened)
    · exact absurd (opened.symm.trans refused) (by simp)
  | get =>
    have found := Ending.ofExcept_eq_value_iff.mp answered
    unfold LocalUser.get at found
    split at found
    · exact absurd found (by simp)
    · exact known_of_vouch found

private theorem known_of_directory {source : Directory.Source} {question : Question}
    {account : String} {user : Identity}
    (answered : ((directory source).answer question account).ending = .value user) : user.Known := by
  cases question with
  | login password =>
    rcases (Directory.Source.get_of_login answered).2 with ⟨entry, rfl⟩
    exact .entry source account entry
  | get =>
    change (source.get account).ending = _ at answered
    rw [Directory.Source.get, Directory.Source.find_eq] at answered
    split at answered
    · exact absurd answered (by simp [Answer.bind, Answer.after, Answer.plain])
    · exact absurd answered (by simp [Answer.bind, Answer.after, Answer.plain])
    · rename_i entry more found
      change (source.vouch account entry).ending = _ at answered
      rw [Directory.Source.ending_vouch] at answered
      split at answered
      · exact absurd answered (by simp)
      · rw [← Ending.value.inj answered]
        exact .entry source account entry

theorem known_of_answer {p : Provider} (own : p.isOwn = true) {question : Question} {account : String}
    {user : Identity} (answered : (p.answer question account).ending = .value user) : user.Known := by
  induction p generalizing account with
  | localUsers check users => exact known_of_localUsers answered
  | database =>
    cases question with
    | login password => cases answered
    | get => cases answered
  | directory source => exact known_of_directory answered
  | composite firstName first secondName second firstHypothesis secondHypothesis =>
    rcases Bool.and_eq_true_iff.mp own with ⟨firstOwn, secondOwn⟩
    rw [answer_composite] at answered
    split at answered
    · exact firstHypothesis firstOwn answered
    · exact secondHypothesis secondOwn answered
    · rw [Answer.ending_orElse] at answered
      split at answered
      · exact secondHypothesis secondOwn answered
      · exact firstHypothesis firstOwn answered
  | foreign outside => exact absurd own Bool.false_ne_true

end Provider

end AuthGateway
