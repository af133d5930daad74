import Mathlib.Data.List.Induction

namespace AuthGateway

/-!
# The occasions of a run

A run takes a state through a list of events.  Its occasions are the states in which the chosen
events happen, where the choice may depend on the state.  On a clock that never goes back they
follow one another in time, so that the last one is the latest.
-/

variable {σ ε : Type} (step : σ → ε → σ) (chosen : σ → ε → Bool)

/-- The states in which the chosen events happen, in their order. -/
def occasions : σ → List ε → List σ
  | _, [] => []
  | s, event :: rest =>
    if chosen s event then s :: occasions (step s event) rest else occasions (step s event) rest

variable {step chosen}

theorem occasions_append_singleton (s : σ) (events : List ε) (event : ε) :
    occasions step chosen s (events ++ [event]) =
      occasions step chosen s events ++
        if chosen (events.foldl step s) event then [events.foldl step s] else [] := by
  induction events generalizing s with
  | nil => rfl
  | cons first rest inductionHypothesis =>
    rw [List.cons_append, occasions, occasions, inductionHypothesis, List.foldl_cons]
    split
    · rfl
    · rfl

section

variable {time : σ → Nat} (onwards : ∀ s event, time s ≤ time (step s event))

include onwards

theorem time_le_of_mem_occasions {s occasion : σ} {events : List ε}
    (listed : occasion ∈ occasions step chosen s events) : time s ≤ time occasion := by
  induction events generalizing s with
  | nil => exact absurd listed List.not_mem_nil
  | cons first rest inductionHypothesis =>
    rw [occasions] at listed
    split at listed
    · rcases List.mem_cons.mp listed with rfl | later
      · exact Nat.le_refl _
      · exact Nat.le_trans (onwards s first) (inductionHypothesis later)
    · exact Nat.le_trans (onwards s first) (inductionHypothesis listed)

/-- Occasions follow one another in time. -/
theorem pairwise_occasions (s : σ) (events : List ε) :
    (occasions step chosen s events).Pairwise fun earlier later => time earlier ≤ time later := by
  induction events generalizing s with
  | nil => exact List.Pairwise.nil
  | cons first rest inductionHypothesis =>
    rw [occasions]
    split
    · apply List.Pairwise.cons
      · intro later listed
        exact Nat.le_trans (onwards s first) (time_le_of_mem_occasions onwards listed)
      · exact inductionHypothesis _
    · exact inductionHypothesis _

end

/-- What holds for a while after each of the occasions holds longest after the last one. -/
theorem exists_mem_iff_getLast? {time : σ → Nat} {occasions : List σ}
    (ordered : occasions.Pairwise fun earlier later => time earlier ≤ time later) {now span : Nat} :
    (∃ occasion ∈ occasions, now < time occasion + span) ↔
      ∃ occasion, occasions.getLast? = some occasion ∧ now < time occasion + span := by
  constructor
  · rintro ⟨occasion, listed, holds⟩
    induction occasions using List.reverseRecOn with
    | nil => exact absurd listed List.not_mem_nil
    | append_singleton earlier last _ =>
      refine ⟨last, List.getLast?_concat, ?_⟩
      rcases List.mem_append.mp listed with before | same
      · have order := (List.pairwise_append.mp ordered).2.2 occasion before last List.mem_cons_self
        exact Nat.lt_of_lt_of_le holds (Nat.add_le_add_right order span)
      · exact List.mem_singleton.mp same ▸ holds
  · rintro ⟨occasion, latest, holds⟩
    exact ⟨occasion, List.mem_of_getLast? latest, holds⟩

end AuthGateway
