import BlueLagoon.Contracts

/-!
# Instants and durations

What the date library of the source can represent. Instants outside its calendar do not exist
there, and the arithmetic that would lead to one panics.
-/

namespace BlueLagoon

namespace Chrono

/-- `DateTime::<Utc>::MIN_UTC`: the year -262143 begins. -/
def minUtc : DateTime := -8334601228800000000

/-- `DateTime::<Utc>::MAX_UTC`: the year 262142 ends. -/
def maxUtc : DateTime := 8210266876799999999

/-- The instants of the calendar. -/
def Representable (instant : DateTime) : Prop := minUtc ≤ instant ∧ instant ≤ maxUtc

instance (instant : DateTime) : Decidable (Representable instant) :=
  inferInstanceAs (Decidable (_ ∧ _))

/-- The most seconds of a duration, whose milliseconds are an `i64`. -/
def maxDurationSeconds : Int := 9223372036854775

/-- What the panics of this module say. -/
def outOfBounds : ErrorChain := ["TimeDelta::seconds out of bounds"]

def overflowed : ErrorChain := ["`DateTime + TimeDelta` overflowed"]

/-- The chains that stand for a panic. It ends the program like an error that nobody handles. -/
def IsPanic (e : ErrorChain) : Prop := e = outOfBounds ∨ e = overflowed

/-- `Duration::seconds`. -/
def durationSeconds (s : Int) : Except ErrorChain Int :=
  if -maxDurationSeconds ≤ s ∧ s ≤ maxDurationSeconds then .ok (seconds s) else .error outOfBounds

/-- `DateTime + Duration`. -/
def addDuration (instant : DateTime) (duration : Int) : Except ErrorChain DateTime :=
  if Representable (instant + duration) then .ok (instant + duration) else .error overflowed

/-- `instant + Duration::seconds(s)`. -/
def addSeconds (instant : DateTime) (s : Int) : Except ErrorChain DateTime :=
  (durationSeconds s).bind (addDuration instant)

/-- `Utc.timestamp_opt(s, 0).single()`. -/
def timestampOpt (s : Int) : Option DateTime :=
  if Representable (seconds s) then some (seconds s) else none

/-- The whole calendar is shorter than the longest duration: only the sum can be out of range. -/
theorem addSeconds_eq_ok {instant : DateTime} (hinstant : Representable instant) {s : Int}
    (hs : 0 ≤ s) (hsum : instant + seconds s ≤ maxUtc) :
    addSeconds instant s = .ok (instant + seconds s) := by
  unfold Representable minUtc at hinstant
  unfold seconds maxUtc at hsum
  have hduration : -maxDurationSeconds ≤ s ∧ s ≤ maxDurationSeconds := by
    unfold maxDurationSeconds
    grind
  have hrange : Representable (instant + seconds s) := by
    unfold Representable minUtc maxUtc seconds
    grind
  unfold addSeconds durationSeconds addDuration
  rw [if_pos hduration]
  show (if _ then _ else _) = _
  rw [if_pos hrange]

/-- Beyond the end of the calendar the sum panics, in one way or the other. -/
theorem addSeconds_eq_panic {instant : DateTime} {s : Int} (hsum : maxUtc < instant + seconds s) :
    ∃ e, IsPanic e ∧ addSeconds instant s = .error e := by
  unfold addSeconds durationSeconds addDuration
  split
  · refine ⟨overflowed, Or.inr rfl, ?_⟩
    have hrange : ¬ Representable (instant + seconds s) := by
      intro hrange
      exact absurd hrange.2 (Int.not_le.mpr hsum)
    show (if _ then _ else _) = _
    rw [if_neg hrange]
  · exact ⟨outOfBounds, Or.inl rfl, rfl⟩

/-- A sum that does not panic is the sum. -/
theorem of_addSeconds_eq_ok {instant next : DateTime} {s : Int}
    (h : addSeconds instant s = .ok next) : next = instant + seconds s := by
  unfold addSeconds durationSeconds addDuration at h
  split at h
  · change (if _ then _ else _) = _ at h
    split at h
    · exact (Except.ok.inj h).symm
    · cases h
  · cases h

end Chrono

end BlueLagoon
