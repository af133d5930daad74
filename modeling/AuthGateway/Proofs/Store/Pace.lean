import AuthGateway.Proofs.Store.Throttle

namespace AuthGateway

/-!
# Six failures in ten minutes

When every login waits for the throttle, a failure comes when the chain of the earlier ones is at
most five long.  The failures of any window of ten minutes are all chained to one another, whether
or not the chain reaches further back, so that there are at most six of them
(`Throttle.countP_inWindow_le`).
-/

open Time (Instant)

namespace Throttle

/-- Each of the instants, with the latest first, has come when the chain of the earlier ones was
tolerated. -/
def Paced : List Instant → Prop
  | [] => True
  | last :: earlier => chain last earlier ≤ 5 ∧ Paced earlier

theorem Paced.chain_le {times : List Instant} (paced : Paced times) (now : Instant) :
    chain now times ≤ 6 := by
  cases times with
  | nil => exact Nat.zero_le 6
  | cons last earlier =>
    rw [chain]
    split
    · exact Nat.succ_le_succ paced.1
    · exact Nat.zero_le 6

/-- The instant lies in the window that starts then; the end does not belong to it. -/
def inWindow (first instant : Instant) : Bool :=
  first ≤ instant && instant < first + window.nanos

theorem inWindow_iff {first instant : Instant} :
    inWindow first instant = true ↔ first ≤ instant ∧ instant < first + window.nanos := by
  rw [inWindow, Bool.and_eq_true, decide_eq_true_eq, decide_eq_true_eq]

/-- The earlier instants of a window are chained to every later one in it. -/
theorem countP_inWindow_le_chain {first now : Instant} {times : List Instant}
    (inside : now < first + window.nanos)
    (ordered : (now :: times).Pairwise fun later earlier => earlier ≤ later) :
    times.countP (inWindow first) ≤ chain now times := by
  induction times generalizing now with
  | nil => exact Nat.le_refl 0
  | cons last earlier inductionHypothesis =>
    rcases List.pairwise_cons.mp ordered with ⟨before, rest⟩
    have lastBefore : last ≤ now := before last List.mem_cons_self
    by_cases reached : first ≤ last
    · have linked : Linked now last := Nat.lt_of_lt_of_le inside (Nat.add_le_add_right reached _)
      have lastInside : last < first + window.nanos := Nat.lt_of_le_of_lt lastBefore inside
      have counted : inWindow first last = true := inWindow_iff.mpr ⟨reached, lastInside⟩
      rw [List.countP_cons_of_pos counted, chain, if_pos linked]
      exact Nat.succ_le_succ (inductionHypothesis lastInside rest)
    · have none : (last :: earlier).countP (inWindow first) = 0 := by
        rw [List.countP_eq_zero]
        intro instant listed counted
        have late : instant ≤ last := by
          rcases List.mem_cons.mp listed with rfl | further
          · exact Nat.le_refl _
          · exact (List.pairwise_cons.mp rest).1 instant further
        exact reached (Nat.le_trans (inWindow_iff.mp counted).1 late)
      rw [none]
      exact Nat.zero_le _

/-- No window holds more than six. -/
theorem countP_inWindow_le {times : List Instant} (paced : Paced times)
    (ordered : times.Pairwise fun later earlier => earlier ≤ later) (first : Instant) :
    times.countP (inWindow first) ≤ 6 := by
  induction times with
  | nil => exact Nat.zero_le 6
  | cons last earlier inductionHypothesis =>
    by_cases counted : inWindow first last = true
    · have inside : last < first + window.nanos := (inWindow_iff.mp counted).2
      rw [List.countP_cons_of_pos counted]
      exact Nat.succ_le_succ (Nat.le_trans (countP_inWindow_le_chain inside ordered) paced.1)
    · rw [List.countP_cons_of_neg counted]
      exact inductionHypothesis paced.2 (List.pairwise_cons.mp ordered).2

end Throttle

end AuthGateway
