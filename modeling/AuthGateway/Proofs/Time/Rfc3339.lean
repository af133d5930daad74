import AuthGateway.Time.Rfc3339
import AuthGateway.Proofs.Text.Integer
import AuthGateway.Proofs.Time.Timestamp
import Mathlib.Data.List.TakeDrop

namespace AuthGateway

namespace Time

namespace Rfc3339

/-!
# Instants are read back

Every instant that is written to the nanosecond is read as the same instant, in any year of the
calendar and in a leap second too (`parse?_format`).  So two instants that are written alike are
the same instant.  The text is made of digits and a few marks (`of_mem_format`).

Every number in the text is closed by a character that is no digit.  That is what lets the freer
reader find the numbers that the writer wrote.
-/

open Text (digits?)

theorem length_fixedDigits (count n : Nat) : (fixedDigits count n).length = count := by
  induction count generalizing n with
  | zero => rfl
  | succ count inductionHypothesis =>
    rw [fixedDigits, List.length_append, inductionHypothesis, List.length_singleton]

theorem isDigit_of_mem_fixedDigits (count n : Nat) :
    ∀ c ∈ fixedDigits count n, c.isDigit = true := by
  induction count generalizing n with
  | zero => exact fun c member => absurd member List.not_mem_nil
  | succ count inductionHypothesis =>
    intro c member
    rw [fixedDigits] at member
    rcases List.mem_append.mp member with early | last
    · exact inductionHypothesis (n / 10) c early
    · have all : ∀ m : Fin 10, (Nat.digitChar m).isDigit = true := by decide
      rw [List.mem_singleton.mp last]
      exact all ⟨n % 10, Nat.mod_lt n (by decide)⟩

private theorem ofDigitChars_fixedDigits (count n : Nat) :
    Nat.ofDigitChars 10 (fixedDigits count n) 0 = n % Nat.pow 10 count := by
  induction count generalizing n with
  | zero => exact (Nat.mod_one n).symm
  | succ count inductionHypothesis =>
    have power : Nat.pow 10 (count + 1) = 10 * Nat.pow 10 count := Nat.mul_comm (Nat.pow 10 count) 10
    rw [fixedDigits, Nat.ofDigitChars_append, inductionHypothesis,
      Nat.ofDigitChars_cons_digitChar_of_lt_ten (Nat.mod_lt n (by decide)), Nat.ofDigitChars_nil,
      power, Nat.mod_mul, Nat.add_comm]

theorem digits?_fixedDigits {count n : Nat} (positive : 0 < count) (small : n < Nat.pow 10 count) :
    digits? (fixedDigits count n) = some n := by
  have nonempty : fixedDigits count n ≠ [] := by
    intro empty
    have length := length_fixedDigits count n
    rw [empty] at length
    exact absurd length (Nat.ne_of_lt positive)
  rw [Text.digits?_eq nonempty (isDigit_of_mem_fixedDigits count n), ofDigitChars_fixedDigits,
    Nat.mod_eq_of_lt small]

/-- What follows starts with no digit. -/
def Stops (rest : List Char) : Prop :=
  ∀ c ∈ rest.head?, c.isDigit = false

theorem stops_cons {c : Char} (other : c.isDigit = false) (rest : List Char) : Stops (c :: rest) := by
  intro d first
  rw [← Option.some.inj first]
  exact other

private theorem takeWhile_digits {ds : List Char} (digits : ∀ c ∈ ds, c.isDigit = true)
    {rest : List Char} (stops : Stops rest) : (ds ++ rest).takeWhile Char.isDigit = ds := by
  rw [List.takeWhile_append_of_pos digits]
  cases rest with
  | nil => rw [List.takeWhile_nil, List.append_nil]
  | cons c more => rw [List.takeWhile_cons_of_neg (by simp [stops c rfl]), List.append_nil]

/-- A number takes all its digits when a character that is no digit follows. -/
theorem number?_append {limit : Nat} {ds : List Char} {n : Nat}
    (digits : ∀ c ∈ ds, c.isDigit = true) (value : digits? ds = some n) (fits : ds.length ≤ limit)
    {rest : List Char} (stops : Stops rest) : number? limit (ds ++ rest) = some (n, rest) := by
  have cut : Stops (rest.take (limit - ds.length)) := by
    intro c first
    rw [List.head?_take] at first
    split at first
    · exact absurd first (by simp)
    · exact stops c first
  have taken : ((ds ++ rest).take limit).takeWhile Char.isDigit = ds := by
    rw [List.take_append, List.take_of_length_le fits, takeWhile_digits digits cut]
  rw [number?, taken]
  simp only [value, Option.map_some, List.drop_left]

private theorem skipBlank_cons {c : Char} (solid : Text.isBlank c = false) (rest : List Char) :
    skipBlank (c :: rest) = c :: rest :=
  List.dropWhile_cons_of_neg (by simp [solid])

private theorem isBlank_of_isDigit {c : Char} (digit : c.isDigit = true) : Text.isBlank c = false := by
  have range := Char.isDigit_iff_toNat.mp digit
  change 48 ≤ c.toNat ∧ c.toNat ≤ 57 at range
  simp only [Text.isBlank, Bool.or_eq_false_iff, Bool.and_eq_false_iff, decide_eq_false_iff_not,
    beq_eq_false_iff_ne]
  omega

private theorem skipBlank_digits {ds : List Char} (nonempty : ds ≠ [])
    (digits : ∀ c ∈ ds, c.isDigit = true) (rest : List Char) :
    skipBlank (ds ++ rest) = ds ++ rest := by
  cases ds with
  | nil => exact absurd rfl nonempty
  | cons d more =>
    rw [List.cons_append, skipBlank_cons (isBlank_of_isDigit (digits d List.mem_cons_self))]

private theorem after?_cons {c : Char} (solid : Text.isBlank c = false) (rest : List Char) :
    after? c (c :: rest) = some rest := by
  rw [after?, skipBlank_cons solid]
  simp

/-- A field of two digits. -/
theorem field?_fixedDigits {limit n : Nat} (bound : n ≤ limit) (small : n < 100) {rest : List Char}
    (stops : Stops rest) : field? limit (fixedDigits 2 n ++ rest) = some (n, rest) := by
  have value : digits? (fixedDigits 2 n) = some n := digits?_fixedDigits (by decide) small
  have nonempty : fixedDigits 2 n ≠ [] := by simp [fixedDigits]
  rw [field?, skipBlank_digits nonempty (isDigit_of_mem_fixedDigits 2 n),
    number?_append (isDigit_of_mem_fixedDigits 2 n) value (Nat.le_of_eq (length_fixedDigits 2 n)) stops]
  simp [bound]

private theorem toDigits_padded (m zeros : Nat) :
    (∀ c ∈ List.replicate zeros '0' ++ Nat.toDigits 10 m, c.isDigit = true) ∧
      digits? (List.replicate zeros '0' ++ Nat.toDigits 10 m) = some m := by
  have digits : ∀ c ∈ List.replicate zeros '0' ++ Nat.toDigits 10 m, c.isDigit = true := by
    intro c member
    rcases List.mem_append.mp member with zero | digit
    · rw [(List.mem_replicate.mp zero).2]
      rfl
    · exact Nat.isDigit_of_mem_toDigits (by decide) (by decide) digit
  refine ⟨digits, ?_⟩
  rw [Text.digits?_eq (List.append_ne_nil_of_right_ne_nil _ Nat.toDigits_ne_nil) digits,
    Nat.ofDigitChars_append, Nat.ofDigitChars_replicate_zero, Nat.mul_zero,
    Nat.ofDigitChars_ten_toDigits]

/-- A year is read back, behind its sign if it has one. -/
theorem year?_yearChars (year : Int) {rest : List Char} (stops : Stops rest) :
    year? (yearChars year ++ rest) = some (year, rest) := by
  unfold yearChars
  split
  · rename_i plain
    have small : year.toNat < 10000 := by omega
    have value : digits? (fixedDigits 4 year.toNat) = some year.toNat :=
      digits?_fixedDigits (by decide) small
    have read := number?_append (isDigit_of_mem_fixedDigits 4 year.toNat) value
      (Nat.le_of_eq (length_fixedDigits 4 year.toNat)) stops
    have unsigned : ∀ c more, fixedDigits 4 year.toNat ++ rest = c :: more → c.isDigit = true := by
      intro c more whole
      refine isDigit_of_mem_fixedDigits 4 year.toNat c ?_
      rcases List.append_eq_cons_iff.mp whole with ⟨empty, -⟩ | ⟨others, front, -⟩
      · simp [fixedDigits] at empty
      · exact front ▸ List.mem_cons_self
    rw [year?, skipBlank_digits (by simp [fixedDigits]) (isDigit_of_mem_fixedDigits 4 year.toNat)]
    split
    · rename_i more whole
      exact absurd (unsigned '-' more whole) (by decide)
    · rename_i more whole
      exact absurd (unsigned '+' more whole) (by decide)
    · rw [read, Option.map_some]
      exact congrArg (fun y => some (y, rest)) (Int.toNat_of_nonneg plain.1)
  · rename_i extended
    rcases toDigits_padded year.natAbs (4 - (Nat.toDigits 10 year.natAbs).length) with ⟨digits, value⟩
    have fits : (List.replicate (4 - (Nat.toDigits 10 year.natAbs).length) '0'
        ++ Nat.toDigits 10 year.natAbs).length ≤
      (List.replicate (4 - (Nat.toDigits 10 year.natAbs).length) '0'
        ++ Nat.toDigits 10 year.natAbs ++ rest).length := (List.prefix_append _ rest).length_le
    have read := number?_append digits value fits stops
    by_cases negative : year < 0
    · simp only [if_pos negative, List.cons_append]
      rw [year?, skipBlank_cons rfl]
      simp only [read, Option.map_some, Int.ofNat_eq_natCast]
      exact congrArg (fun y => some (y, rest)) (by omega)
    · simp only [if_neg negative, List.cons_append]
      rw [year?, skipBlank_cons rfl]
      simp only [read, Option.map_some, Int.ofNat_eq_natCast]
      exact congrArg (fun y => some (y, rest)) (by omega)

private theorem fraction?_digits {count n : Nat} (positive : 0 < count) (most : count ≤ 9)
    (small : n < Nat.pow 10 count) {rest : List Char} (stops : Stops rest) :
    fraction? ('.' :: (fixedDigits count n ++ rest)) = some (n * Nat.pow 10 (9 - count), rest) := by
  have taken := takeWhile_digits (isDigit_of_mem_fixedDigits count n) stops
  have dropped : (fixedDigits count n ++ rest).dropWhile Char.isDigit = rest := by
    rw [List.dropWhile_append_of_pos (isDigit_of_mem_fixedDigits count n)]
    cases rest with
    | nil => rfl
    | cons c more => rw [List.dropWhile_cons_of_neg (by simp [stops c rfl])]
  have length := length_fixedDigits count n
  simp only [fraction?, taken, dropped, List.take_of_length_le (Nat.le_trans (Nat.le_of_eq length) most),
    digits?_fixedDigits positive small, length, Option.bind_eq_bind, Option.bind_some]
  rfl

/-- Unless it is left out, a fraction is read back to the nanosecond. -/
theorem fraction?_fractionChars {fraction : Fraction} (shown : fraction ≠ .none) {nano : Nat}
    (small : nano < 1000000000) {rest : List Char} (stops : Stops rest) (point : rest.head? ≠ some '.') :
    fraction? (fractionChars fraction nano ++ rest) = some (nano, rest) := by
  cases fraction with
  | none => exact absurd rfl shown
  | nine =>
    rw [fractionChars, List.cons_append, fraction?_digits (by decide) (by decide) small stops]
    exact congrArg (fun n => some (n, rest)) (Nat.mul_one nano)
  | shortest =>
    simp only [fractionChars]
    split
    · rename_i whole
      rw [List.nil_append, whole]
      unfold fraction?
      split
      · exact absurd rfl point
      · rfl
    · split
      · rename_i millis
        have whole : nano / 1000000 * 1000000 = nano := by omega
        have below : nano / 1000000 < 1000 := by omega
        rw [List.cons_append, fraction?_digits (by decide) (by decide) below stops]
        exact congrArg (fun n => some (n, rest)) whole
      · split
        · rename_i micros
          have whole : nano / 1000 * 1000 = nano := by omega
          have below : nano / 1000 < 1000000 := by omega
          rw [List.cons_append, fraction?_digits (by decide) (by decide) below stops]
          exact congrArg (fun n => some (n, rest)) whole
        · rw [List.cons_append, fraction?_digits (by decide) (by decide) small stops]
          exact congrArg (fun n => some (n, rest)) (Nat.mul_one nano)

/-- A way to write the zero offset that cannot be taken for more of the time. -/
private def Closes (written : List Char) : Prop :=
  Stops written ∧ written.head? ≠ some '.' ∧ offset? (skipBlank written) = some (0, [])

private theorem stops_fractionChars (fraction : Fraction) (nano : Nat) {rest : List Char}
    (stops : Stops rest) : Stops (fractionChars fraction nano ++ rest) := by
  have point : ∀ more, Stops ('.' :: more) := stops_cons rfl
  cases fraction with
  | none => exact stops
  | nine => exact point _
  | shortest =>
    simp only [fractionChars]
    split
    · exact stops
    · split
      · exact point _
      · split
        · exact point _
        · exact point _

private theorem bind_of_eq_some {α β : Type} {x : Option α} {a : α} (found : x = some a)
    (next : α → Option β) : x >>= next = next a := by
  rw [found]
  rfl

/-- The fields of a text are found one after the other, whatever day and time they make. -/
private theorem parseChars?_fields {fraction : Fraction} (shown : fraction ≠ .none)
    {written : List Char} (closes : Closes written) {date : Date} (legal : date.Legal)
    {hour minute second nano : Nat} (hours : hour ≤ 23) (minutes : minute ≤ 59)
    (seconds : second ≤ 60) (nanos : nano < 1000000000) :
    parseChars? (yearChars date.year ++ '-' :: (fixedDigits 2 date.month ++ '-' ::
      (fixedDigits 2 date.day ++ 'T' :: (fixedDigits 2 hour ++ ':' :: (fixedDigits 2 minute ++ ':' ::
        (fixedDigits 2 second ++ (fractionChars fraction nano ++ written))))))) =
      Timestamp.ofLocal? date
        { second := hour * 3600 + minute * 60 + if second = 60 then 59 else second
          nano := if second = 60 then nano + 1000000000 else nano } 0 := by
  rcases closes with ⟨stops, point, zoneRead⟩
  rcases legal.bounds with ⟨months, days⟩
  have dash : ∀ more, Stops ('-' :: more) := stops_cons rfl
  have colon : ∀ more, Stops (':' :: more) := stops_cons rfl
  have letter : ∀ more, Stops ('T' :: more) := stops_cons rfl
  rw [parseChars?]
  refine (bind_of_eq_some (year?_yearChars date.year (dash _)) _).trans ?_
  refine (bind_of_eq_some (after?_cons rfl _) _).trans ?_
  refine (bind_of_eq_some (field?_fixedDigits months (by omega) (dash _)) _).trans ?_
  refine (bind_of_eq_some (after?_cons rfl _) _).trans ?_
  refine (bind_of_eq_some (field?_fixedDigits days (by omega) (letter _)) _).trans ?_
  refine (if_pos (Or.inl rfl)).trans ?_
  refine (bind_of_eq_some rfl _).trans ?_
  refine (bind_of_eq_some (field?_fixedDigits hours (by omega) (colon _)) _).trans ?_
  refine (bind_of_eq_some (after?_cons rfl _) _).trans ?_
  refine (bind_of_eq_some (field?_fixedDigits minutes (by omega) (colon _)) _).trans ?_
  refine (bind_of_eq_some (after?_cons rfl _) _).trans ?_
  refine (bind_of_eq_some (field?_fixedDigits seconds (by omega)
    (stops_fractionChars fraction nano stops)) _).trans ?_
  refine (bind_of_eq_some (fraction?_fractionChars shown nanos stops point) _).trans ?_
  refine (bind_of_eq_some zoneRead _).trans ?_
  exact (if_neg (by decide)).trans (if_neg (not_not.mpr legal))

private theorem ofLocal?_self (t : Timestamp) : Timestamp.ofLocal? t.date t.time 0 = some t := by
  have day : (t.time.second : Int) < secondsPerDay := Int.ofNat_lt.mpr t.time_legal.1
  simp only [Timestamp.ofLocal?, Int.ofNat_eq_natCast, Int.sub_zero, Int.toNat_natCast,
    if_neg (Int.not_lt.mpr (Int.natCast_nonneg t.time.second)), if_pos day]
  rw [Timestamp.of?, dif_pos t.date_legal, dif_pos t.time_legal]

/-- A leap second is written as a second 60 and gets its nanoseconds back. -/
private theorem parseChars?_parts {fraction : Fraction} (shown : fraction ≠ .none)
    {written : List Char} (closes : Closes written) (t : Timestamp) :
    let leap := 1000000000 ≤ t.time.nano
    parseChars? (yearChars t.date.year ++ '-' :: (fixedDigits 2 t.date.month ++ '-' ::
      (fixedDigits 2 t.date.day ++ 'T' :: (fixedDigits 2 (t.time.second / 3600) ++ ':' ::
        (fixedDigits 2 (t.time.second / 60 % 60) ++ ':' ::
          (fixedDigits 2 (t.time.second % 60 + if leap then 1 else 0) ++
            (fractionChars fraction (if leap then t.time.nano - 1000000000 else t.time.nano) ++
              written))))))) = some t := by
  rcases t.time_legal with ⟨inDay, nanos, leapLast⟩
  have inDay : t.time.second < 86400 := inDay
  intro leap
  rw [parseChars?_fields shown closes t.date_legal (by omega) (by omega) (by split <;> omega)
    (by split <;> omega)]
  by_cases long : leap
  · have last := leapLast long
    have second : t.time.second / 3600 * 3600 + t.time.second / 60 % 60 * 60 + 59 = t.time.second := by
      omega
    have nano : t.time.nano - 1000000000 + 1000000000 = t.time.nano := Nat.sub_add_cancel long
    rw [if_pos long, if_pos long, last, if_pos rfl, if_pos rfl, second, nano, ofLocal?_self]
  · have short : t.time.second % 60 + 0 ≠ 60 := by omega
    have second : t.time.second / 3600 * 3600 + t.time.second / 60 % 60 * 60
        + (t.time.second % 60 + 0) = t.time.second := by omega
    rw [if_neg long, if_neg long, if_neg short, if_neg short, second, ofLocal?_self]

/-- Every instant that is written with its fraction is read back. -/
theorem parseChars?_chars {fraction : Fraction} (shown : fraction ≠ .none) (zone : Zone)
    (t : Timestamp) : parseChars? (chars fraction zone t) = some t := by
  simp only [chars, List.append_assoc, List.cons_append]
  cases zone with
  | letter => exact parseChars?_parts shown ⟨stops_cons rfl _, by decide, by decide⟩ t
  | numeric => exact parseChars?_parts shown ⟨stops_cons rfl _, by decide, by decide⟩ t

/-- Every instant is read back from its text. -/
theorem parse?_format {fraction : Fraction} (shown : fraction ≠ .none) (zone : Zone)
    (t : Timestamp) : parse? (format fraction zone t) = some t := by
  rw [parse?, format, String.toList_ofList, parseChars?_chars shown]

/-- The characters beside the digits. -/
def marks : List Char :=
  ['-', '+', 'T', ':', '.', 'Z']

private theorem of_mem_field {mark c : Char} (legal : mark ∈ marks) {count n : Nat}
    (member : c ∈ mark :: fixedDigits count n) : c.isDigit = true ∨ c ∈ marks := by
  rcases List.mem_cons.mp member with rfl | digit
  · exact Or.inr legal
  · exact Or.inl (isDigit_of_mem_fixedDigits count n c digit)

private theorem of_mem_yearChars {year : Int} {c : Char} (member : c ∈ yearChars year) :
    c.isDigit = true ∨ c ∈ marks := by
  unfold yearChars at member
  split at member
  · exact Or.inl (isDigit_of_mem_fixedDigits 4 year.toNat c member)
  · dsimp only at member
    rcases List.mem_append.mp member with front | digit
    · rcases List.mem_cons.mp front with rfl | zero
      · right
        split
        · decide
        · decide
      · exact Or.inl (List.eq_of_mem_replicate zero ▸ rfl)
    · exact Or.inl (Nat.isDigit_of_mem_toDigits (by decide) (by decide) digit)

private theorem of_mem_fractionChars {fraction : Fraction} {nano : Nat} {c : Char}
    (member : c ∈ fractionChars fraction nano) : c.isDigit = true ∨ c ∈ marks := by
  have point : '.' ∈ marks := by decide
  unfold fractionChars at member
  cases fraction with
  | none => exact absurd member List.not_mem_nil
  | nine => exact of_mem_field point member
  | shortest =>
    dsimp only at member
    split at member
    · exact absurd member List.not_mem_nil
    · split at member
      · exact of_mem_field point member
      · split at member
        · exact of_mem_field point member
        · exact of_mem_field point member

private theorem of_mem_zone {cs : List Char}
    (legal : cs.all (fun c => c.isDigit || c ∈ marks) = true) {c : Char} (member : c ∈ cs) :
    c.isDigit = true ∨ c ∈ marks := by
  have digitOrMark := List.all_eq_true.mp legal c member
  rw [Bool.or_eq_true, decide_eq_true_eq] at digitOrMark
  exact digitOrMark

/-- An instant is written with digits and few other characters. -/
theorem of_mem_format {fraction : Fraction} {zone : Zone} {t : Timestamp} {c : Char}
    (member : c ∈ (format fraction zone t).toList) : c.isDigit = true ∨ c ∈ marks := by
  rw [format, String.toList_ofList] at member
  simp only [chars, List.mem_append] at member
  rcases member with ((((((year | month) | day) | hour) | minute) | second) | fraction) | ending
  · exact of_mem_yearChars year
  · exact of_mem_field (by decide) month
  · exact of_mem_field (by decide) day
  · exact of_mem_field (by decide) hour
  · exact of_mem_field (by decide) minute
  · exact of_mem_field (by decide) second
  · exact of_mem_fractionChars fraction
  · cases zone with
    | letter => exact of_mem_zone (by decide) ending
    | numeric => exact of_mem_zone (by decide) ending

end Rfc3339

end Time

end AuthGateway
