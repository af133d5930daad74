import AuthGateway.Cache.Memory

namespace AuthGateway

/-!
# What can be seen under a key

All that can be seen of a memory is which entry is live under which key at which instant.  Writing
changes that under one key, time can only take entries away, and a sweep changes nothing: what it
removes is gone already.
-/

open Time (Duration Instant)

theorem Entry.isExpired_iff {e : Entry} {deadline : Instant} (limit : e.deadline = some deadline)
    {now : Instant} : e.isExpired now = true ↔ deadline ≤ now := by
  rw [isExpired, limit]
  exact decide_eq_true_iff

theorem Entry.isExpired_mono {e : Entry} {now later : Instant} (after : now ≤ later)
    (expired : e.isExpired now = true) : e.isExpired later = true := by
  unfold Entry.isExpired at expired ⊢
  split
  · rename_i deadline limit
    rw [limit] at expired
    exact decide_eq_true (Nat.le_trans (of_decide_eq_true expired) after)
  · rename_i unlimited
    rw [unlimited] at expired
    exact expired

/-- Whether an entry is gone depends on its deadline only. -/
theorem Entry.isExpired_of_deadline {e e' : Entry} {now : Instant} {gone : Bool}
    (known : e.isExpired now = gone) (same : e'.deadline = e.deadline) :
    e'.isExpired now = gone := by
  rw [← known, isExpired, isExpired, same]

namespace Memory

variable {m : Memory} {now later : Instant} {key other : String}

theorem live?_empty : empty.live? now key = none :=
  rfl

theorem stored?_put_self (e : Entry) : (m.put key e).stored? key = some e := by
  rw [stored?, put, List.find?_cons_of_pos (by simp)]
  rfl

theorem stored?_put_of_ne (different : other ≠ key) (e : Entry) :
    (m.put key e).stored? other = m.stored? other := by
  rw [stored?, put, List.find?_cons_of_neg (by simp [different.symm]), List.find?_filter]
  congr 2
  funext entry
  by_cases same : entry.1 = other
  · simp [same, different]
  · simp [same]

theorem live?_put_self {e : Entry} (fresh : e.isExpired now = false) :
    (m.put key e).live? now key = some e := by
  rw [live?, stored?_put_self, Option.filter_some, fresh]
  rfl

theorem live?_put_of_ne (different : other ≠ key) (e : Entry) :
    (m.put key e).live? now other = m.live? now other := by
  rw [live?, stored?_put_of_ne different, live?]

theorem not_isExpired_of_live? {e : Entry} (live : m.live? now key = some e) :
    e.isExpired now = false := by
  simpa using (Option.filter_eq_some_iff.mp live).2

/-- What is seen later is what is seen now and does not expire until then. -/
theorem live?_later (after : now ≤ later) :
    m.live? later key = (m.live? now key).filter fun e => !e.isExpired later := by
  rw [live?, live?, Option.filter_filter]
  congr 1
  funext e
  cases expired : e.isExpired now with
  | false => simp
  | true => simp [Entry.isExpired_mono after expired]

private theorem find?_filter_live {entries : List (String × Entry)}
    (distinct : (entries.map (·.1)).Nodup) :
    (((entries.filter fun entry => !entry.2.isExpired now).find? (·.1 = key)).map (·.2)).filter
        (fun e => !e.isExpired now) =
      ((entries.find? (·.1 = key)).map (·.2)).filter fun e => !e.isExpired now := by
  induction entries with
  | nil => rfl
  | cons first rest inductionHypothesis =>
    rcases List.nodup_cons.mp distinct with ⟨new, others⟩
    by_cases same : first.1 = key
    · cases expired : first.2.isExpired now with
      | false =>
        rw [List.filter_cons_of_pos (by simp [expired]), List.find?_cons_of_pos (by simp [same]),
          List.find?_cons_of_pos (by simp [same])]
      | true =>
        have absent : rest.find? (·.1 = key) = none := by
          rw [List.find?_eq_none]
          intro entry listed found
          exact new (List.mem_map.mpr ⟨entry, listed, (of_decide_eq_true found).trans same.symm⟩)
        rw [List.filter_cons_of_neg (by simp [expired]), inductionHypothesis others, absent,
          List.find?_cons_of_pos (by simp [same]), Option.map_some, Option.filter_some, expired]
        rfl
    · rw [List.find?_cons_of_neg (by simp [same]), ← inductionHypothesis others]
      by_cases expired : first.2.isExpired now = true
      · rw [List.filter_cons_of_neg (by simp [expired])]
      · rw [List.filter_cons_of_pos (by simp [expired]), List.find?_cons_of_neg (by simp [same])]

/-- A sweep takes away nothing that can be seen. -/
theorem live?_sweep : (m.sweep now).live? now key = m.live? now key :=
  find?_filter_live m.distinct

/-- What it has removed cannot be seen later either. -/
theorem live?_sweep_later (after : now ≤ later) :
    (m.sweep now).live? later key = m.live? later key := by
  rw [live?_later after, live?_sweep, ← live?_later after]

theorem get_of_live? {e : Entry} (live : m.live? now key = some e) : m.get now key = e.value := by
  rw [get, live]

theorem get_of_dead (dead : m.live? now key = none) : m.get now key = "" := by
  rw [get, dead]

theorem get_congr {m' : Memory} (same : m.live? now key = m'.live? now key) :
    m.get now key = m'.get now key := by
  rw [get, get, same]

/-- A text that is missing now is missing later. -/
theorem get_later (after : now ≤ later) (missing : m.get now key = "") : m.get later key = "" := by
  rw [get, live?_later after]
  cases live : m.live? now key with
  | none => rfl
  | some e =>
    have blank : e.value = "" := (get_of_live? live).symm.trans missing
    rw [Option.filter_some]
    cases e.isExpired later with
    | true => rfl
    | false => exact blank

/-- A text that is put is there until it expires. -/
theorem get_put_self (e : Entry) :
    (m.put key e).get now key = if e.isExpired now then "" else e.value := by
  rw [get, live?, stored?_put_self, Option.filter_some]
  cases e.isExpired now with
  | true => rfl
  | false => rfl

theorem live?_expire_self {e : Entry} (live : m.live? now key = some e) {ttl : Duration}
    (positive : 0 < ttl.nanos) :
    (m.expire now key ttl).live? now key = some { e with deadline := some (now + ttl.nanos) } := by
  rw [expire, live]
  refine live?_put_self (decide_eq_false ?_)
  exact Nat.not_le_of_gt (Nat.lt_add_of_pos_right positive)

theorem live?_expire_of_ne (different : other ≠ key) (ttl : Duration) :
    (m.expire now key ttl).live? later other = m.live? later other := by
  rw [expire]
  split
  · exact live?_put_of_ne different _
  · rfl

/-- A call that does not crash does what it does on a clock without an end. -/
theorem expire_of_expire? {m' : Memory} {ttl : Duration} (done : m.expire? now key ttl = some m') :
    m.expire now key ttl = m' := by
  unfold expire? at done
  unfold expire
  cases live : m.live? now key with
  | none =>
    rw [live] at done
    exact Option.some.inj done
  | some e =>
    rw [live] at done
    rcases Option.map_eq_some_iff.mp done with ⟨deadline, shown, rfl⟩
    rw [Time.eq_of_after? shown]

/-- A call crashes just where there is an entry for a deadline that the clock could never show. -/
theorem expire?_eq_none_iff {ttl : Duration} :
    m.expire? now key ttl = none ↔ (m.live? now key).isSome = true ∧ Time.after? now ttl = none := by
  unfold expire?
  cases m.live? now key with
  | none => simp
  | some e => simp

/-- A text that has just been set gets its first deadline. -/
theorem expire_set (value : String) (ttl : Duration) :
    (m.set key value).expire now key ttl =
      (m.set key value).put key { value, deadline := some (now + ttl.nanos) } := by
  have live : (m.set key value).live? now key = some { value, deadline := none } :=
    live?_put_self rfl
  rw [expire, live]

theorem live?_set_of_ne (different : other ≠ key) (value : String) :
    (m.set key value).live? now other = m.live? now other :=
  live?_put_of_ne different _

/-- A first count. -/
theorem incr_of_dead (dead : m.live? now key = none) :
    m.incr now key = (.ok 1, m.put key { value := "1", deadline := none }) := by
  rw [incr, dead]

theorem incr_of_live? {e : Entry} (live : m.live? now key = some e) {n : Int}
    (counted : successor? e.value = some n) :
    m.incr now key = (.ok n, m.put key { e with value := toString n }) := by
  rw [incr, live]
  simp only [counted]

theorem live?_incr_of_ne (different : other ≠ key) :
    (m.incr now key).2.live? later other = m.live? later other := by
  rw [incr]
  split
  · exact live?_put_of_ne different _
  · split
    · exact live?_put_of_ne different _
    · rfl

end Memory

end AuthGateway
