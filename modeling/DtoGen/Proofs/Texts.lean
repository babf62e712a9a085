import DtoGen.Text.Letter
import Mathlib.Data.List.DropRight
import DtoGen.Text.Utf8

namespace DtoGen.Text

/-- The text without the characters of a kind at both ends. -/
def strip (p : Char → Bool) (cs : List Char) : List Char :=
  ((cs.dropWhile p).reverse.dropWhile p).reverse

/-- Between characters of a kind at both ends of a text. -/
structure IsStripped (p : Char → Bool) (core cs : List Char) : Prop where
  around : ∃ front behind, cs = front ++ core ++ behind ∧ (∀ c ∈ front, p c = true) ∧
    ∀ c ∈ behind, p c = true
  starts : ∀ c, core.head? = some c → p c = false
  ends : ∀ c, core.getLast? = some c → p c = false

section Strip

variable {p : Char → Bool} {front core behind cs : List Char}

theorem dropWhile_front (hfront : ∀ c ∈ front, p c = true)
    (h : ∀ c, cs.head? = some c → p c = false) : (front ++ cs).dropWhile p = cs := by
  rw [List.dropWhile_append_of_pos hfront]
  cases cs with
  | nil => rfl
  | cons c cs => rw [List.dropWhile_cons_of_neg (by simp [h c rfl])]

theorem dropWhile_behind (hbehind : ∀ c ∈ behind, p c = true)
    (h : ∀ c, cs.getLast? = some c → p c = false) :
    ((cs ++ behind).reverse.dropWhile p).reverse = cs := by
  have hreversed : (behind.reverse ++ cs.reverse).dropWhile p = cs.reverse := by
    refine dropWhile_front (fun c hc => hbehind c (List.mem_reverse.mp hc)) fun c hc => ?_
    exact h c (List.head?_reverse ▸ hc)
  rw [List.reverse_append, hreversed, List.reverse_reverse]

theorem IsStripped.strip_eq (h : IsStripped p core cs) : strip p cs = core := by
  obtain ⟨front, behind, rfl, hfront, hbehind⟩ := h.around
  cases core with
  | nil =>
    have hall : ∀ c ∈ front ++ [] ++ behind, p c = true := by
      simp only [List.append_nil, List.mem_append]
      exact fun c hc => hc.elim (hfront c) (hbehind c)
    rw [strip, List.dropWhile_eq_nil_iff.mpr hall]
    rfl
  | cons c core =>
    have hstart : (front ++ (c :: core ++ behind)).dropWhile p = c :: core ++ behind :=
      dropWhile_front hfront h.starts
    rw [strip, List.append_assoc, hstart, dropWhile_behind hbehind h.ends]

theorem head?_dropWhile {c : Char} (h : (cs.dropWhile p).head? = some c) : p c = false := by
  have hnot := List.head?_dropWhile_not p cs
  rwa [h] at hnot

theorem isStripped_strip (p : Char → Bool) (cs : List Char) : IsStripped p (strip p cs) cs := by
  have hbehind : strip p cs ++ (cs.dropWhile p).rtakeWhile p = cs.dropWhile p :=
    List.rdropWhile_append_rtakeWhile
  refine ⟨⟨cs.takeWhile p, (cs.dropWhile p).rtakeWhile p, ?_,
    fun _ => List.mem_takeWhile_imp, fun _ => List.mem_rtakeWhile_imp⟩, fun c hc => ?_,
    fun c hc => ?_⟩
  · rw [List.append_assoc, hbehind]
    exact List.takeWhile_append_dropWhile.symm
  · have hstart : (cs.dropWhile p).head? = some c := by
      rw [← hbehind, List.head?_append, hc, Option.some_or]
    exact head?_dropWhile hstart
  · rw [strip, List.getLast?_reverse] at hc
    exact head?_dropWhile hc

/-- Stripping finds what is between the ends, and there is only one such text. -/
theorem strip_eq_iff : strip p cs = core ↔ IsStripped p core cs :=
  ⟨fun h => h ▸ isStripped_strip p cs, IsStripped.strip_eq⟩

end Strip

/-- Between the blanks at both ends of a text. The core of a blank text is empty. -/
structure IsCore (core cs : List Char) : Prop where
  around : ∃ front behind, cs = front ++ core ++ behind ∧ (∀ c ∈ front, isBlank c = true) ∧
    ∀ c ∈ behind, isBlank c = true
  starts : ∀ c, core.head? = some c → isBlank c = false
  ends : ∀ c, core.getLast? = some c → isBlank c = false

section Trim

variable {core cs : List Char}

theorem isCore_iff : IsCore core cs ↔ IsStripped isBlank core cs :=
  ⟨fun h => ⟨h.around, h.starts, h.ends⟩, fun h => ⟨h.around, h.starts, h.ends⟩⟩

/-- Trimming finds the core of a text, and there is only one. -/
theorem trim_eq_iff : trim cs = core ↔ IsCore core cs :=
  strip_eq_iff.trans isCore_iff.symm

theorem IsCore.trim_eq (h : IsCore core cs) : trim cs = core :=
  trim_eq_iff.mpr h

theorem isCore_trim (cs : List Char) : IsCore (trim cs) cs :=
  trim_eq_iff.mp rfl

theorem trim_eq_nil_iff : trim cs = [] ↔ ∀ c ∈ cs, isBlank c = true := by
  rw [trim_eq_iff]
  constructor
  · rintro ⟨⟨front, behind, rfl, hfront, hbehind⟩, _, _⟩ c hc
    rw [List.append_nil, List.mem_append] at hc
    exact hc.elim (hfront c) (hbehind c)
  · intro h
    exact ⟨⟨cs, [], by simp, h, by simp⟩, by simp, by simp⟩

end Trim

theorem toList_loop (bytes : ByteArray) (i : Nat) (seen : List UInt8) :
    ByteArray.toList.loop bytes i seen = seen.reverse ++ bytes.data.toList.drop i := by
  fun_induction ByteArray.toList.loop bytes i seen with
  | case1 i seen hlt ih =>
    have hlength : i < bytes.data.toList.length := by simpa using hlt
    have hget : bytes.get! i = bytes.data.toList[i] := by
      change bytes.data[i]! = _
      rw [getElem!_pos bytes.data i hlt, Array.getElem_toList]
    rw [ih, List.drop_eq_getElem_cons hlength, hget, List.reverse_cons, List.append_assoc]
    rfl
  | case2 i seen hge =>
    have hlength : bytes.data.toList.length ≤ i := by simpa using hge
    rw [List.drop_eq_nil_of_le hlength, List.append_nil]

theorem toList_eq_data (bytes : ByteArray) : bytes.toList = bytes.data.toList :=
  toList_loop bytes 0 []

/-- The bytes of characters, one character after the other. -/
def bytesOf (cs : List Char) : List UInt8 :=
  cs.flatMap String.utf8EncodeChar

theorem bytesOf_cons (c : Char) (cs : List Char) :
    bytesOf (c :: cs) = String.utf8EncodeChar c ++ bytesOf cs :=
  List.flatMap_cons

theorem toList_toUTF8 (s : String) : s.toUTF8.toList = bytesOf s.toList := by
  obtain ⟨cs, rfl⟩ : ∃ cs, s = String.ofList cs := ⟨s.toList, String.ofList_toList.symm⟩
  have hbytes : (String.ofList cs).toUTF8 = (bytesOf cs).toByteArray :=
    String.toByteArray_ofList
  rw [hbytes, toList_eq_data, List.toList_data_toByteArray, String.toList_ofList]

theorem length_toList_toUTF8 (s : String) : s.toUTF8.toList.length = s.utf8ByteSize := by
  rw [toList_eq_data]
  rfl

theorem toNat_ofNat_byte {n : Nat} (h : n < 256) : (UInt8.ofNat n).toNat = n := by
  rw [UInt8.toNat_ofNat', Nat.mod_eq_of_lt h]

theorem ne_newline {n : Nat} (hbyte : n < 256) (h : n ≠ 10) : (10 : UInt8) ≠ UInt8.ofNat n := by
  intro heq
  have hnat := congrArg UInt8.toNat heq
  rw [toNat_ofNat_byte hbyte] at hnat
  exact h hnat.symm

/-- A line end is one byte, which no other character has a part in. -/
theorem newline_not_mem_utf8EncodeChar {c : Char} (h : c ≠ '\n') :
    10 ∉ String.utf8EncodeChar c := by
  have hcode : c.val.toNat ≠ 10 := fun hten => h (Char.toNat_inj.mp hten)
  unfold String.utf8EncodeChar
  dsimp only
  split
  · simpa using ne_newline (by omega) hcode
  split
  · simp only [List.mem_cons, List.not_mem_nil, or_false, not_or]
    exact ⟨ne_newline (by omega) (by omega), ne_newline (by omega) (by omega)⟩
  split
  · simp only [List.mem_cons, List.not_mem_nil, or_false, not_or]
    exact ⟨ne_newline (by omega) (by omega), ne_newline (by omega) (by omega),
      ne_newline (by omega) (by omega)⟩
  · simp only [List.mem_cons, List.not_mem_nil, or_false, not_or]
    exact ⟨ne_newline (by omega) (by omega), ne_newline (by omega) (by omega),
      ne_newline (by omega) (by omega), ne_newline (by omega) (by omega)⟩

theorem utf8EncodeChar_newline : String.utf8EncodeChar '\n' = [10] :=
  rfl

end DtoGen.Text
