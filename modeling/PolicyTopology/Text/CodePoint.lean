/-!
# Code points

A text is a sequence of code points. Nearly all of them are characters; but a text that was put
together from 16-bit units may hold a surrogate, one half of a pair, without the other half, and a
lone surrogate is no character. A string holds it as two characters, a mark and one that says which
surrogate it is, and the mark itself as two marks. Every other code point is the character that it
is, so texts are joined as strings are, and parted at any character but those that stand with a
mark. What shows the single code points of a text, as a length, an escape or an order does, goes
through `codePoints`.

The main statements: the code points of a text that was made of code points are those
(`codePoints_ofCodePoints`), and no two strings have the same ones (`codePoints_injective`).
-/

namespace PolicyTopology.Text

def isSurrogate (n : Nat) : Bool := 0xD800 ≤ n && n < 0xE000

def codePointBound : Nat := 0x110000

/-- The character before one that does not stand for itself. -/
def mark : Char := '\ufdd0'

/-- The distance from a surrogate to the character that follows the mark in its place. -/
def carrierOffset : Nat := 0x800

def ofCodePoint (n : Nat) : List Char :=
  if n = mark.toNat then [mark, mark]
  else if isSurrogate n then [mark, Char.ofNat (n + carrierOffset)]
  else [Char.ofNat n]

def ofCodePoints (points : List Nat) : String := String.ofList (points.flatMap ofCodePoint)

def marked? (c : Char) : Option Nat :=
  if c = mark then some mark.toNat
  else if carrierOffset ≤ c.toNat && isSurrogate (c.toNat - carrierOffset) then
    some (c.toNat - carrierOffset)
  else none

/-- The code points that a list of characters holds. A mark that stands before nothing it could
mark is in no text; it counts as a code point beyond the last one. -/
def codePointsOf : List Char → List Nat
  | [] => []
  | [c] => [if c = mark then codePointBound else c.toNat]
  | c :: d :: rest =>
    if c = mark then
      match marked? d with
      | some n => n :: codePointsOf rest
      | none => codePointBound :: codePointsOf (d :: rest)
    else c.toNat :: codePointsOf (d :: rest)

def codePoints (text : String) : List Nat := codePointsOf text.toList

def characters (text : String) : List String := (codePoints text).map fun n => ofCodePoints [n]

theorem codePointsOf_cons {c : Char} (h : c ≠ mark) (rest : List Char) :
    codePointsOf (c :: rest) = c.toNat :: codePointsOf rest := by
  cases rest <;> simp [codePointsOf, h]

theorem codePointsOf_mark {d : Char} {n : Nat} (h : marked? d = some n) (rest : List Char) :
    codePointsOf (mark :: d :: rest) = n :: codePointsOf rest := by
  simp [codePointsOf, h]

/-- The number of a character that was made of one. -/
theorem toNat_ofNat {n : Nat} (h : n < codePointBound) (hs : isSurrogate n = false) :
    (Char.ofNat n).toNat = n := by
  have valid : n.isValidChar := by
    simp only [isSurrogate, codePointBound, Bool.and_eq_false_iff, decide_eq_false_iff_not] at h hs
    simp only [Nat.isValidChar]
    omega
  rw [Char.ofNat, dif_pos valid]
  rfl

theorem mark_toNat : mark.toNat = 0xFDD0 := rfl

/-- The characters that hold a code point are read as that code point. -/
theorem codePointsOf_ofCodePoint {n : Nat} (h : n < codePointBound) (rest : List Char) :
    codePointsOf (ofCodePoint n ++ rest) = n :: codePointsOf rest := by
  unfold ofCodePoint
  split
  · next hn => exact codePointsOf_mark (by simp [marked?, hn]) rest
  · next hn =>
    split
    · next hs =>
      have bounds : 0xD800 ≤ n ∧ n < 0xE000 := by simpa [isSurrogate] using hs
      have above : 0xE000 ≤ n + carrierOffset := by simp only [carrierOffset]; omega
      have number : (Char.ofNat (n + carrierOffset)).toNat = n + carrierOffset := by
        refine toNat_ofNat ?_ (by simp [isSurrogate, Nat.not_lt.mpr above])
        simp only [carrierOffset, codePointBound]
        omega
      have other : Char.ofNat (n + carrierOffset) ≠ mark := by
        intro equal
        rw [equal, mark_toNat, carrierOffset] at number
        omega
      exact codePointsOf_mark (by simp [marked?, other, number, hs]) rest
    · next hs =>
      have number := toNat_ofNat h (by simpa using hs)
      have other : Char.ofNat n ≠ mark := by
        intro equal
        exact hn (by rw [← number, equal])
      simp [codePointsOf_cons other, number]

/-- The code points of a text that was made of code points are those. -/
theorem codePoints_ofCodePoints {points : List Nat} (h : ∀ n ∈ points, n < codePointBound) :
    codePoints (ofCodePoints points) = points := by
  simp only [codePoints, ofCodePoints, String.toList_ofList]
  induction points with
  | nil => rfl
  | cons n rest ih =>
    rw [List.flatMap_cons, codePointsOf_ofCodePoint (h n (by simp)),
      ih fun m hm => h m (by simp [hm])]

def spelling (points : List Nat) : List Char :=
  points.flatMap fun n => if n = codePointBound then [mark] else ofCodePoint n

theorem isSurrogate_toNat (c : Char) : isSurrogate c.toNat = false := by
  have valid := c.valid
  have number : c.val.toNat = c.toNat := rfl
  simp only [UInt32.isValidChar, Nat.isValidChar, number] at valid
  simp only [isSurrogate, Bool.and_eq_false_iff, decide_eq_false_iff_not]
  omega

theorem toNat_lt (c : Char) : c.toNat < codePointBound := by
  have valid := c.valid
  have number : c.val.toNat = c.toNat := rfl
  simp only [UInt32.isValidChar, Nat.isValidChar, number] at valid
  simp only [codePointBound]
  omega

theorem spelling_cons {c : Char} (h : c ≠ mark) (points : List Nat) :
    spelling (c.toNat :: points) = c :: spelling points := by
  have number : c.toNat ≠ mark.toNat := fun equal =>
    h (by rw [← Char.ofNat_toNat c, equal, Char.ofNat_toNat])
  have bound := Nat.ne_of_lt (toNat_lt c)
  simp [spelling, ofCodePoint, bound, number, isSurrogate_toNat]

theorem spelling_marked {d : Char} {n : Nat} (h : marked? d = some n) (points : List Nat) :
    spelling (n :: points) = mark :: d :: spelling points := by
  unfold marked? at h
  split at h
  · next hd =>
    obtain rfl := Option.some.inj h
    simp [spelling, ofCodePoint, hd, mark_toNat, codePointBound]
  · split at h
    · next hs =>
      obtain rfl := Option.some.inj h
      simp only [Bool.and_eq_true, decide_eq_true_eq] at hs
      have bounds := hs.2
      simp only [isSurrogate, Bool.and_eq_true, decide_eq_true_eq] at bounds
      have inside : d.toNat - carrierOffset ≠ codePointBound := by
        simp only [codePointBound]
        omega
      have other : d.toNat - carrierOffset ≠ mark.toNat := by
        simp only [mark_toNat]
        omega
      have back : d.toNat - carrierOffset + carrierOffset = d.toNat := by omega
      simp [spelling, ofCodePoint, inside, other, hs.2, back]
    · simp at h

/-- What was read from characters determines them. -/
theorem spelling_codePointsOf (chars : List Char) : spelling (codePointsOf chars) = chars := by
  fun_induction codePointsOf chars with
  | case1 => rfl
  | case2 c =>
    by_cases h : c = mark
    · simp [h, spelling]
    · simpa [h, spelling] using spelling_cons h []
  | case3 d rest n hn ih => rw [spelling_marked hn, ih]
  | case4 d rest hn ih =>
    have step : spelling (codePointBound :: codePointsOf (d :: rest)) =
        mark :: spelling (codePointsOf (d :: rest)) := by simp [spelling]
    rw [step, ih]
  | case5 c d rest hc ih => rw [spelling_cons hc, ih]

/-- Different texts have different code points. -/
theorem codePoints_injective {first second : String} (h : codePoints first = codePoints second) :
    first = second := by
  have chars := congrArg spelling h
  simp only [codePoints, spelling_codePointsOf] at chars
  exact String.toList_inj.mp chars

end PolicyTopology.Text
