import DtoGen.Proofs.Texts
import DtoGen.Schema.Reader
import Mathlib.Data.List.DropRight

namespace DtoGen

open Text

namespace Position

/-- The bytes behind the last line end. -/
def lastLine (seen : List UInt8) : List UInt8 :=
  seen.rtakeWhile (· != 10)

/-- Where a reader is that has seen some bytes: lines count from one, and columns are the bytes of
the last line. -/
def reading (seen : List UInt8) : Position :=
  ⟨1 + seen.count 10, (lastLine seen).length⟩

/-- What one byte more makes of a position. -/
def past (p : Position) (byte : UInt8) : Position :=
  if byte = 10 then ⟨p.line + 1, 0⟩ else { p with column := p.column + 1 }

theorem reading_concat (seen : List UInt8) (byte : UInt8) :
    reading (seen ++ [byte]) = (reading seen).past byte := by
  unfold reading past lastLine
  rw [List.count_append, List.count_singleton]
  by_cases h : byte = 10
  · subst h
    rw [List.rtakeWhile_concat_neg _ _ _ (by decide), if_pos rfl]
    rfl
  · rw [List.rtakeWhile_concat_pos _ _ _ (by simpa using h), if_neg h, List.length_append]
    simp [h]

theorem reading_eq_foldl (seen : List UInt8) : reading seen = seen.foldl past ⟨1, 0⟩ := by
  induction seen using List.reverseRecOn with
  | nil => rfl
  | append_singleton seen byte ih => rw [reading_concat, List.foldl_concat, ih]

/-- Bytes that end no line are columns. -/
theorem foldl_past_inline {bytes : List UInt8} (h : 10 ∉ bytes) (p : Position) :
    bytes.foldl past p = { p with column := p.column + bytes.length } := by
  induction bytes generalizing p with
  | nil => rfl
  | cons byte bytes ih =>
    obtain ⟨hbyte, hrest⟩ := not_or.mp (mt List.mem_cons.mpr h)
    rw [List.foldl_cons, ih hrest, past, if_neg (Ne.symm hbyte), List.length_cons]
    simp only [Position.mk.injEq, true_and]
    omega

theorem advance_cons (p : Position) (count : Nat) (c : Char) (cs : List Char) :
    p.advance (count + 1) (c :: cs) =
      if c = '\n' then advance ⟨p.line + 1, 0⟩ count cs
      else if count + 1 ≤ c.utf8Size then { p with column := p.column + (count + 1) }
      else advance { p with column := p.column + c.utf8Size } (count + 1 - c.utf8Size) cs :=
  rfl

/-- Moving over characters is moving over their bytes, also where it ends inside a character. -/
theorem advance_eq_foldl {cs : List Char} {count : Nat} (h : count ≤ (bytesOf cs).length)
    (p : Position) : p.advance count cs = ((bytesOf cs).take count).foldl past p := by
  induction cs generalizing count p with
  | nil =>
    obtain rfl : count = 0 := Nat.le_zero.mp h
    rfl
  | cons c cs ih =>
    cases count with
    | zero => rfl
    | succ count =>
      rw [bytesOf_cons] at h ⊢
      rw [advance_cons]
      split
      · rename_i hnewline
        subst hnewline
        rw [utf8EncodeChar_newline] at h ⊢
        exact ih (Nat.le_of_succ_le_succ h) ⟨p.line + 1, 0⟩
      rename_i hc
      have hinline := newline_not_mem_utf8EncodeChar hc
      have hsize := String.length_utf8EncodeChar c
      split
      · rename_i hin
        have hstart : 10 ∉ (String.utf8EncodeChar c).take (count + 1) :=
          fun hm => hinline (List.mem_of_mem_take hm)
        rw [List.take_append_of_le_length (by omega), foldl_past_inline hstart,
          List.length_take, hsize, Nat.min_eq_left hin]
      · rename_i hbehind
        rw [List.length_append] at h
        rw [List.take_append, List.take_of_length_le (by omega), List.foldl_append,
          foldl_past_inline hinline, hsize]
        exact ih (by omega) _

/-- The position after some bytes of a text is the one that is read off these bytes. -/
theorem after_eq_reading {text : String} {count : Nat} (h : count ≤ text.utf8ByteSize) :
    after text count = reading (text.toUTF8.toList.take count) := by
  rw [← length_toList_toUTF8, toList_toUTF8] at h
  rw [after, advance_eq_foldl h, reading_eq_foldl, toList_toUTF8]

/-- The bytes of the first lines, counted in a list of bytes. -/
def lineStart : Nat → List UInt8 → Nat
  | 0, _ => 0
  | _, [] => 0
  | lines + 1, byte :: bytes => lineStart (if byte = 10 then lines else lines + 1) bytes + 1

theorem lineStart_zero (bytes : List UInt8) : lineStart 0 bytes = 0 := by
  cases bytes <;> rfl

/-- Behind as many lines as there are ends, the count goes on. -/
theorem lineStart_append (lines : Nat) (seen bytes : List UInt8) :
    lineStart (seen.count 10 + (lines + 1)) (seen ++ bytes)
      = seen.length + lineStart (lines + 1) bytes := by
  induction seen with
  | nil => rw [List.count_nil, List.length_nil, List.nil_append, Nat.zero_add, Nat.zero_add]
  | cons byte seen ih =>
    have hcons : lineStart ((byte :: seen).count 10 + (lines + 1)) (byte :: seen ++ bytes)
        = lineStart (seen.count 10 + (lines + 1)) (seen ++ bytes) + 1 := by
      by_cases h : byte = 10
      · subst h
        rw [List.count_cons_self, Nat.add_right_comm]
        rfl
      · rw [List.count_cons_of_ne h, List.cons_append, ← Nat.add_assoc, lineStart,
          if_neg h]
    rw [hcons, ih, List.length_cons]
    omega

theorem lineBytes_eq_lineStart (lines : Nat) (cs : List Char) :
    lineBytes lines cs = lineStart lines (bytesOf cs) := by
  induction cs generalizing lines with
  | nil => cases lines <;> rfl
  | cons c cs ih =>
    cases lines with
    | zero => exact (lineStart_zero _).symm
    | succ lines =>
      rw [lineBytes, ih, bytesOf_cons]
      split
      · rename_i hnewline
        subst hnewline
        exact Nat.add_comm _ _
      · rename_i hc
        have hcount := List.count_eq_zero.mpr (newline_not_mem_utf8EncodeChar hc)
        have happend := lineStart_append lines (String.utf8EncodeChar c) (bytesOf cs)
        rw [hcount, Nat.zero_add, String.length_utf8EncodeChar] at happend
        exact happend.symm

/-- The lines before the last one, and what is seen of the last one, are all that is seen. -/
theorem lineStart_add_lastLine (seen bytes : List UInt8) :
    lineStart (seen.count 10) (seen ++ bytes) + (lastLine seen).length = seen.length := by
  have hseen : seen.rdropWhile (· != 10) ++ lastLine seen = seen :=
    List.rdropWhile_append_rtakeWhile
  have hlast : (lastLine seen).count 10 = 0 :=
    List.count_eq_zero.mpr fun hm => by simpa using List.mem_rtakeWhile_imp hm
  rcases List.eq_nil_or_concat' (seen.rdropWhile (· != 10)) with hnil | ⟨lines, byte, hlines⟩
  · rw [hnil, List.nil_append] at hseen
    have hcount : seen.count 10 = 0 := by rw [← hseen, hlast]
    rw [hcount, lineStart_zero, Nat.zero_add, hseen]
  · have hbyte : byte = 10 := by
      have hend := List.rdropWhile_last_not (· != 10) seen (by simp [hlines])
      simpa [hlines] using hend
    subst hbyte
    rw [hlines] at hseen
    have hcount : seen.count 10 = lines.count 10 + (0 + 1) := by
      rw [← hseen, List.count_append, hlast, List.count_append]
      rfl
    have hsplit : seen ++ bytes = lines ++ 10 :: (lastLine seen ++ bytes) := by
      conv => lhs; rw [← hseen]
      simp
    have hlength : seen.length = lines.length + 1 + (lastLine seen).length := by
      conv => lhs; rw [← hseen]
      simp only [List.length_append, List.length_singleton]
    rw [hcount, hsplit, lineStart_append, hlength, lineStart, if_pos rfl, lineStart_zero]

/-- The number of the byte that was seen last. If it has ended a line, or none was seen, that of the
next byte. -/
def labelled (bytes : List UInt8) (count : Nat) : Nat :=
  if 0 < count ∧ bytes[count - 1]? ≠ some 10 then count - 1 else count

/-- Something of the last line is seen, unless a line end was seen last. -/
theorem lastLine_take_eq_nil {bytes : List UInt8} {count : Nat} (h : count ≤ bytes.length) :
    lastLine (bytes.take count) = [] ↔ ¬(0 < count ∧ bytes[count - 1]? ≠ some 10) := by
  cases count with
  | zero => simp [lastLine]
  | succ count =>
    have htake : bytes.take (count + 1) = bytes.take count ++ [bytes[count]] :=
      List.take_succ_eq_append_getElem h
    rw [htake, lastLine, Nat.add_sub_cancel, List.getElem?_eq_getElem h]
    by_cases hten : bytes[count] = 10
    · rw [List.rtakeWhile_concat_neg _ _ _ (by simp [hten])]
      simp [hten]
    · rw [List.rtakeWhile_concat_pos _ _ _ (by simpa using hten)]
      simp [hten]

theorem offset?_of_line {text : String} {p : Position} (h : 1 ≤ p.line) : offset? text p
    = some (min (lineBytes (p.line - 1) text.toList + (p.column - 1)) text.utf8ByteSize) :=
  if_neg (by omega)

theorem offset?_reading {text : String} {count : Nat} (h : count ≤ text.utf8ByteSize) :
    offset? text (reading (text.toUTF8.toList.take count))
      = some (labelled text.toUTF8.toList count) := by
  have hlength : count ≤ text.toUTF8.toList.length := by rwa [length_toList_toUTF8]
  have hseen : (text.toUTF8.toList.take count).length = count := by
    rw [List.length_take, Nat.min_eq_left hlength]
  have hstart := lineStart_add_lastLine (text.toUTF8.toList.take count)
    (text.toUTF8.toList.drop count)
  rw [List.take_append_drop, hseen] at hstart
  have hempty := lastLine_take_eq_nil hlength
  rw [offset?_of_line (Nat.le_add_right _ _), lineBytes_eq_lineStart, ← toList_toUTF8, reading,
    Nat.add_sub_cancel_left, labelled]
  refine congrArg some ?_
  dsimp only
  split
  · rename_i hinside
    have hne : lastLine (text.toUTF8.toList.take count) ≠ [] := fun hnil => hempty.mp hnil hinside
    have hpos := List.length_pos_iff.mpr hne
    omega
  · rename_i houtside
    rw [hempty.mpr houtside, List.length_nil] at hstart ⊢
    omega

end Position

/-- What there is to know about positions in a text. -/
structure Position.Labels (text : String) : Prop where
  /-- A reader tells its position by the line ends and the last line of what it has seen. -/
  told : ∀ count ≤ text.utf8ByteSize, after text count = reading (text.toUTF8.toList.take count)
  pointsAt : ∀ count ≤ text.utf8ByteSize,
    offset? text (reading (text.toUTF8.toList.take count))
      = some (labelled text.toUTF8.toList count)
  inside : ∀ p : Position, 1 ≤ p.line → ∃ offset ≤ text.utf8ByteSize, offset? text p = some offset
  /-- A schema is refused at the byte that was seen last. -/
  refused : ∀ fileName count, count ≤ text.utf8ByteSize → Schema.read text = .error count →
    Schema.parse text fileName
      = .error (.badSchema fileName (some (labelled text.toUTF8.toList count)))

/-- Whatever the lines of a text are, the position of a reader leads back to the byte that it has
seen last, and no position leads out of the text. -/
theorem Position.labels (text : String) : Labels text where
  told _ := after_eq_reading
  pointsAt _ := offset?_reading
  inside p h := ⟨_, Nat.min_le_right _ _, offset?_of_line h⟩
  refused fileName count hcount hread := by
    rw [Schema.parse, hread]
    dsimp only
    rw [after_eq_reading hcount, offset?_reading hcount]

/-- Behind a line end, a reader labels the next byte; in the middle of a character, the byte that it
has seen. -/
example : [1, 2, 3, 4].map (fun count => (Position.after "a\né" count,
      Position.offset? "a\né" (Position.after "a\né" count)))
    = [(⟨1, 1⟩, some 0), (⟨2, 0⟩, some 2), (⟨2, 1⟩, some 2), (⟨2, 2⟩, some 3)] := by
  decide

end DtoGen
