import Mathlib.Algebra.Order.Monoid.Unbundled.Basic
import Mathlib.Data.List.Induction
import Mathlib.Tactic.GCongr

/-!
# Windows of time

Entries come in one after the other, each at some instant. Some of them count, and an entry stays
open for a while after its instant. If an entry that counts comes in only while fewer than a limit
of those before it are open, no window of that length holds more of them than the limit. The
instants need not come in order.
-/

namespace SlidingWindow

variable {α T : Type} [Add T] [LinearOrder T]

/-- At `now`, the entry counts and is still open. -/
def isOpen (counts : α → Bool) (instant : α → T) (length : T) (now : T) (entry : α) : Bool :=
  counts entry && decide (now < instant entry + length)

/-- The entry counts, and came in within the window that begins at `start`. -/
def inWindow (counts : α → Bool) (instant : α → T) (length : T) (start : T) (entry : α) : Bool :=
  counts entry && (decide (start ≤ instant entry) && decide (instant entry < start + length))

variable {counts : α → Bool} {instant : α → T} {length : T} {limit : Nat}

/-- Whenever an entry that counts came in, fewer than the limit were open. -/
def Paced (counts : α → Bool) (instant : α → T) (length : T) (limit : Nat)
    (entries : List α) : Prop :=
  ∀ before entry after, entries = before ++ entry :: after → counts entry = true →
    before.countP (isOpen counts instant length (instant entry)) < limit

theorem Paced.of_append {entries later : List α}
    (h : Paced counts instant length limit (entries ++ later)) :
    Paced counts instant length limit entries := by
  intro before entry after heq hcounts
  apply h before entry (after ++ later) _ hcounts
  simp [heq]

variable [AddRightMono T]

/-- What came in within the window of an entry is open at its instant. -/
theorem isOpen_of_inWindow {start : T} {entry other : α}
    (hentry : inWindow counts instant length start entry = true)
    (hother : inWindow counts instant length start other = true) :
    isOpen counts instant length (instant entry) other = true := by
  simp only [inWindow, isOpen, Bool.and_eq_true, decide_eq_true_eq] at hentry hother ⊢
  obtain ⟨-, -, hbefore⟩ := hentry
  obtain ⟨hcounts, hafter, -⟩ := hother
  exact ⟨hcounts, hbefore.trans_le (by gcongr)⟩

/-- No window holds more of the entries that count than the limit. -/
theorem Paced.countP_window {entries : List α} (h : Paced counts instant length limit entries)
    (start : T) : entries.countP (inWindow counts instant length start) ≤ limit := by
  induction entries using List.reverseRecOn with
  | nil => simp
  | append_singleton entries entry ih =>
    rw [List.countP_append, List.countP_singleton]
    split
    · -- The last entry is in the window: what is in it besides was open when the entry came in.
      rename_i hlast
      have hopen : entries.countP (inWindow counts instant length start) ≤
          entries.countP (isOpen counts instant length (instant entry)) :=
        List.countP_mono_left fun other _ hother => isOpen_of_inWindow hlast hother
      have hcounts : counts entry = true := by
        simp only [inWindow, Bool.and_eq_true] at hlast
        exact hlast.1
      have hfew := h entries entry [] (by simp) hcounts
      omega
    · simpa using ih h.of_append

end SlidingWindow
