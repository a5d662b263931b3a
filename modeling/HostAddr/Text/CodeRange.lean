/-!
# Sets of code points

A set of code points is a list of inclusive ranges in ascending order with a gap between any two.
`inRanges` looks a code point up, `insertRange` joins a range to such a list, and `gaps` lists
what the ranges leave out.
-/

namespace HostAddr

/-- Membership in ascending inclusive ranges; the search stops at the first range above `n`. -/
def inRanges : List (Nat × Nat) → Nat → Bool
  | [], _ => false
  | (first, last) :: rest, n => if n < first then false else n ≤ last || inRanges rest n

/-- Whether the ranges ascend from `low` on, none of them empty and no two of them touching. -/
def isAscending : Nat → List (Nat × Nat) → Bool
  | _, [] => true
  | low, (first, last) :: rest => low ≤ first && first ≤ last && isAscending (last + 2) rest

/-- Adds a range, which swallows the ranges that it meets or touches. -/
def insertRange (first last : Nat) : List (Nat × Nat) → List (Nat × Nat)
  | [] => [(first, last)]
  | (first', last') :: rest =>
    if last + 1 < first' then (first, last) :: (first', last') :: rest
    else if last' + 1 < first then (first', last') :: insertRange first last rest
    else insertRange (min first first') (max last last') rest

def maxCodePoint : Nat :=
  0x10ffff

/-- The code points from `low` on that are in none of the ranges. -/
def gaps : Nat → List (Nat × Nat) → List (Nat × Nat)
  | low, [] => if low ≤ maxCodePoint then [(low, maxCodePoint)] else []
  | low, (first, last) :: rest =>
    if low < first then (low, first - 1) :: gaps (last + 1) rest else gaps (last + 1) rest

theorem isAscending_mono {low low' : Nat} {rs : List (Nat × Nat)} (h : isAscending low rs)
    (hl : low' ≤ low) : isAscending low' rs := by
  cases rs with
  | nil => rfl
  | cons r rest =>
    simp only [isAscending, Bool.and_eq_true, decide_eq_true_eq] at h ⊢
    exact ⟨⟨by omega, h.1.2⟩, h.2⟩

theorem isAscending_insertRange {first last low : Nat} {rs : List (Nat × Nat)}
    (hr : first ≤ last) (h : isAscending low rs) :
    isAscending (min low first) (insertRange first last rs) := by
  induction rs generalizing first last low with
  | nil => simp [insertRange, isAscending]; omega
  | cons r rest ih =>
    simp only [isAscending, Bool.and_eq_true, decide_eq_true_eq] at h
    obtain ⟨⟨h₁, h₂⟩, h₃⟩ := h
    unfold insertRange
    split
    · simp [isAscending, h₃]; omega
    · split
      · have : isAscending (r.2 + 2) (insertRange first last rest) :=
          isAscending_mono (ih hr h₃) (by omega)
        simp [isAscending, this]; omega
      · exact isAscending_mono (ih (by omega) h₃) (by omega)

theorem isAscending_gaps {low bound : Nat} {rs : List (Nat × Nat)} (h : isAscending bound rs)
    (hl : low ≤ bound) : isAscending low (gaps low rs) := by
  induction rs generalizing low bound with
  | nil => simp only [gaps]; split <;> simp_all [isAscending]
  | cons r rest ih =>
    simp only [isAscending, Bool.and_eq_true, decide_eq_true_eq] at h
    obtain ⟨⟨h₁, h₂⟩, h₃⟩ := h
    have hrest : isAscending (r.2 + 1) (gaps (r.2 + 1) rest) := ih h₃ (by omega)
    unfold gaps
    split
    · have : isAscending (r.1 - 1 + 2) (gaps (r.2 + 1) rest) :=
        isAscending_mono hrest (by omega)
      simp [isAscending, this]; omega
    · exact isAscending_mono hrest (by omega)

end HostAddr
