import AuthGateway.Text.Integer
import AuthGateway.Time.Timestamp

namespace AuthGateway

namespace Time

/-!
# The calendar fits into 64 bits

The years that have a calendar are so few that the seconds in them can be written and read as numbers
of 64 bits.
-/

private theorem daysInMonth_le (year : Int) (month : Nat) : daysInMonth year month ≤ 31 := by
  unfold daysInMonth
  split
  · split <;> omega
  · split
    · omega
    · split <;> omega

theorem Date.Legal.bounds {d : Date} (legal : d.Legal) : d.month ≤ 12 ∧ d.day ≤ 31 := by
  rcases legal with ⟨-, -, first, last⟩
  refine ⟨?_, Nat.le_trans last (daysInMonth_le d.year d.month)⟩
  unfold daysInMonth at last
  split at last
  · omega
  · split at last
    · omega
    · split at last <;> omega

private theorem ofYear_le (year : Int) (months : List Nat) :
    ∀ sum, months.foldl (fun sum m => sum + daysInMonth year (m + 1)) sum ≤ sum + 31 * months.length := by
  induction months with
  | nil => exact fun sum => Nat.le_refl sum
  | cons month rest inductionHypothesis =>
    intro sum
    have here := daysInMonth_le year (month + 1)
    have later := inductionHypothesis (sum + daysInMonth year (month + 1))
    rw [List.foldl_cons, List.length_cons]
    omega

private theorem daysSinceEpoch_bounds {d : Date} (legal : d.Legal) :
    -100000000 ≤ d.daysSinceEpoch ∧ d.daysSinceEpoch ≤ 100000000 := by
  rcases legal.bounds with ⟨month, day⟩
  rcases legal with ⟨first, last, -⟩
  have ofYear := ofYear_le d.year (List.range (d.month - 1)) 0
  rw [List.length_range] at ofYear
  simp only [firstYear, lastYear] at first last
  simp only [Date.daysSinceEpoch, Int.ofNat_eq_natCast]
  omega

/-- The seconds of every instant are numbers of 64 bits. -/
theorem Timestamp.unixSeconds_bounds (t : Timestamp) :
    Text.int64Min ≤ t.unixSeconds ∧ t.unixSeconds ≤ Text.int64Max := by
  have days := daysSinceEpoch_bounds t.date_legal
  have second := t.time_legal.1
  simp only [unixSeconds, secondsPerDay, Text.int64Min, Text.int64Max] at second ⊢
  omega

end Time

end AuthGateway
