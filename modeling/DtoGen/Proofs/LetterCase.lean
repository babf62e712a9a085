import DtoGen.Text.Letter

namespace DtoGen.Text

/-- The code point before the first letter of ASCII. -/
def lastSign : Nat := 0x40

/-- Whether every letter of a run is moved behind the signs, and onto a code point. -/
def Shift.landsOnLetters (s : Shift) : Bool :=
  (lastSign : Int) < s.run.first + s.offset && (s.run.last + s.offset < 0xD800 ||
    (0xDFFF : Int) < s.run.first + s.offset && s.run.last + s.offset < 0x110000)

theorem upperShifts_land : upperShifts.all Shift.landsOnLetters = true := by decide

theorem lowerShifts_land : lowerShifts.all Shift.landsOnLetters = true := by decide

theorem upperSpellings_land : (upperSpellings.all fun s =>
    !s.2.isEmpty && s.2.all fun code => lastSign < code && code < 0xD800) = true := by
  decide

theorem toNat_ofNat {code : Nat} (h : code.isValidChar) : (Char.ofNat code).toNat = code := by
  rw [Char.ofNat, dif_pos h]
  rfl

theorem Run.has_bounds {run : Run} {code : Nat} (h : run.has code = true) :
    run.first ≤ code ∧ code ≤ run.last := by
  simp only [Run.has, Bool.and_eq_true, decide_eq_true_eq] at h
  exact h.1

/-- A code point that a table of shifts changes ends up behind the signs. -/
theorem shifted_lands {shifts : List Shift} (hall : shifts.all Shift.landsOnLetters = true)
    (code : Nat) :
    shifted shifts code = code ∨
      lastSign < shifted shifts code ∧ (shifted shifts code).isValidChar := by
  unfold shifted
  split
  · rename_i s hs
    have hland := List.all_eq_true.mp hall s (List.mem_of_find?_eq_some hs)
    have hrun : s.run.has code = true := List.find?_some (p := fun s : Shift => s.run.has code) hs
    obtain ⟨hf, hl⟩ := Run.has_bounds hrun
    simp only [Shift.landsOnLetters, Bool.and_eq_true, Bool.or_eq_true,
      decide_eq_true_eq] at hland
    right
    simp only [lastSign, Nat.isValidChar] at hland ⊢
    omega
  · exact .inl rfl

theorem mem_shifted {shifts : List Shift} (hall : shifts.all Shift.landsOnLetters = true)
    (c : Char) :
    Char.ofNat (shifted shifts c.toNat) = c ∨
      lastSign < (Char.ofNat (shifted shifts c.toNat)).toNat := by
  rcases shifted_lands hall c.toNat with h | ⟨h, hv⟩
  · left
    rw [h, Char.ofNat_toNat]
  · right
    rw [toNat_ofNat hv]
    exact h

/-- What holds of the first code points holds of the letters of ASCII. -/
theorem of_isAscii {p : Char → Prop} (hall : ∀ n < 0x80, p (Char.ofNat n)) {c : Char}
    (h : isAscii c = true) : p c := by
  have hc := hall c.toNat (by simpa [isAscii] using h)
  rwa [Char.ofNat_toNat] at hc

theorem toLower_eq_or {c : Char} (h : isAscii c = true) :
    c.toLower = c ∨ lastSign < c.toLower.toNat :=
  of_isAscii (p := fun c => c.toLower = c ∨ lastSign < c.toLower.toNat) (by decide) h

theorem toUpper_eq_or {c : Char} (h : isAscii c = true) :
    c.toUpper = c ∨ lastSign < c.toUpper.toNat :=
  of_isAscii (p := fun c => c.toUpper = c ∨ lastSign < c.toUpper.toNat) (by decide) h

theorem mem_lower {x c : Char} (h : x ∈ lower c) : x = c ∨ lastSign < x.toNat := by
  unfold lower at h
  split at h
  · rename_i hc
    obtain rfl : x = c.toLower := List.mem_singleton.mp h
    exact toLower_eq_or hc
  split at h
  · right
    rcases List.mem_cons.mp h with rfl | h
    · decide
    · obtain rfl := List.mem_singleton.mp h
      decide
  · obtain rfl := List.mem_singleton.mp h
    exact mem_shifted lowerShifts_land c

theorem mem_upper {x c : Char} (h : x ∈ upper c) : x = c ∨ lastSign < x.toNat := by
  unfold upper at h
  split at h
  · rename_i hc
    obtain rfl : x = c.toUpper := List.mem_singleton.mp h
    exact toUpper_eq_or hc
  split at h
  · rename_i codes hf
    obtain ⟨code, hcode, rfl⟩ := List.mem_map.mp h
    have hland := List.all_eq_true.mp upperSpellings_land _ (List.mem_of_find?_eq_some hf)
    simp only [Bool.and_eq_true, List.all_eq_true, decide_eq_true_eq] at hland
    obtain ⟨hlow, hhigh⟩ := hland.2 code hcode
    right
    rw [toNat_ofNat (.inl hhigh)]
    exact hlow
  · obtain rfl := List.mem_singleton.mp h
    exact mem_shifted upperShifts_land c

theorem lower_ne_nil (c : Char) : lower c ≠ [] := by
  unfold lower
  split
  · simp
  · split <;> simp

theorem upper_ne_nil (c : Char) : upper c ≠ [] := by
  unfold upper
  split
  · simp
  split
  · rename_i codes hf
    have hland := List.all_eq_true.mp upperSpellings_land _ (List.mem_of_find?_eq_some hf)
    simp only [Bool.and_eq_true, Bool.not_eq_true', List.isEmpty_eq_false_iff] at hland
    simpa using hland.1
  · simp

theorem mem_lowerAll {x : Char} {before cs : List Char} (h : x ∈ lowerAll before cs) :
    x ∈ cs ∨ lastSign < x.toNat := by
  induction cs generalizing before with
  | nil => cases h
  | cons c cs ih =>
    rw [lowerAll] at h
    rcases List.mem_append.mp h with h | h
    · split at h
      · right
        obtain rfl := List.mem_singleton.mp h
        unfold lowerSigma
        split <;> decide
      · rcases mem_lower h with rfl | h
        · exact .inl List.mem_cons_self
        · exact .inr h
    · rcases ih h with h | h
      · exact .inl (List.mem_cons_of_mem _ h)
      · exact .inr h

theorem lowerAll_ne_nil (before : List Char) {cs : List Char} (h : cs ≠ []) :
    lowerAll before cs ≠ [] := by
  cases cs with
  | nil => exact absurd rfl h
  | cons c cs =>
    rw [lowerAll]
    split
    · simp
    · simp [lower_ne_nil]

end DtoGen.Text
