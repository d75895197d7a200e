import Mathlib.Algebra.Order.Group.Defs
import Mathlib.Data.List.Basic
import Mathlib.Tactic.Abel

/-!
# Sliding windows

A limiter that keeps the times of the events it admits, and forgets the ones
that are too old only when it admits another.  What it forgets never counts
again, so it decides as if it had kept everything.
-/

namespace ShoppingWeb.SlidingWindow

variable {Time : Type*} [AddCommGroup Time] [LinearOrder Time]

/-- The times that are less than `width` before `now`. -/
def recent (width now : Time) (times : List Time) : List Time :=
  times.filter fun time => now - time < width

/-- The times in the window that `start` opens. -/
def within (width start : Time) (times : List Time) : List Time :=
  times.filter fun time => start ≤ time ∧ time < start + width

theorem recent_append (width now : Time) (first second : List Time) :
    recent width now (first ++ second) = recent width now first ++ recent width now second :=
  List.filter_append ..

theorem within_append (width start : Time) (first second : List Time) :
    within width start (first ++ second) =
      within width start first ++ within width start second :=
  List.filter_append ..

/-- From `latest` on, the times `kept` count as all `accepted` ones would, and no
window holds more than `limit` of these. -/
structure Tracks (width : Time) (limit : ℕ) (kept accepted : List Time) (latest : Time) :
    Prop where
  recent_eq : ∀ now, latest ≤ now → recent width now kept = recent width now accepted
  within_le : ∀ start, (within width start accepted).length ≤ limit

theorem tracks_nil (width : Time) (limit : ℕ) (latest : Time) :
    Tracks width limit [] [] latest where
  recent_eq := fun _ _ => rfl
  within_le := fun _ => Nat.zero_le limit

variable {width now later latest : Time} {limit : ℕ} {kept accepted : List Time}

theorem Tracks.mono (htracks : Tracks width limit kept accepted latest) (hlater : latest ≤ now) :
    Tracks width limit kept accepted now where
  recent_eq := fun time htime => htracks.recent_eq time (hlater.trans htime)
  within_le := htracks.within_le

variable [IsOrderedAddMonoid Time]

/-- What is too old at one time is too old at every later time. -/
theorem recent_recent (hlater : now ≤ later) (times : List Time) :
    recent width later (recent width now times) = recent width later times := by
  rw [recent, recent, recent, List.filter_filter]
  apply List.filter_congr
  intro time _
  have hsub : now - time ≤ later - time := sub_le_sub_right hlater time
  simpa using fun hrecent => hsub.trans_lt hrecent

/-- A window that is still open at `now` holds recent times only, as far as they
are past. -/
theorem length_within_le {start : Time} (hopen : now < start + width) (times : List Time) :
    (within width start times).length ≤ (recent width now times).length := by
  apply List.Sublist.length_le
  apply List.monotone_filter_right
  intro time hwithin
  have hstart : start ≤ time := by
    simp only [decide_eq_true_eq] at hwithin
    exact hwithin.1
  have hrecent : now - time < width := by
    calc
      now - time ≤ now - start := sub_le_sub_left hstart now
      _ < width := sub_lt_iff_lt_add'.mpr hopen
  simpa using hrecent

/-- Admitting an event while less than `limit` are recent. -/
theorem Tracks.admit (htracks : Tracks width limit kept accepted latest) (hlater : latest ≤ now)
    (hroom : (recent width now kept).length < limit) :
    Tracks width limit (recent width now kept ++ [now]) (accepted ++ [now]) now where
  recent_eq := by
    intro time htime
    rw [recent_append, recent_append, recent_recent htime,
      htracks.recent_eq time (hlater.trans htime)]
  within_le := by
    intro start
    rw [within_append]
    by_cases hnow : start ≤ now ∧ now < start + width
    · -- the window holds the event itself, and before it only recent ones
      have hbefore : (within width start accepted).length ≤ (recent width now accepted).length :=
        length_within_le hnow.2 accepted
      rw [← htracks.recent_eq now hlater] at hbefore
      have hself : within width start [now] = [now] := List.filter_eq_self.mpr (by simpa using hnow)
      rw [hself, List.length_append, List.length_singleton]
      omega
    · have hself : within width start [now] = [] := List.filter_eq_nil_iff.mpr (by simpa using hnow)
      rw [hself, List.append_nil]
      exact htracks.within_le start

end ShoppingWeb.SlidingWindow
