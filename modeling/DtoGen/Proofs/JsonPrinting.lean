import DtoGen.Schema.Writer
import DtoGen.Proofs.JsonRecords

namespace DtoGen.Json

/-- The text spells the phrase in front of every other text. -/
def Prints (cs : List Char) (phrase : Phrase) : Prop :=
  ∀ symbols rest, Written symbols rest → Written (phrase ++ symbols) (cs ++ rest)

namespace Prints

theorem nil : Prints [] [] :=
  fun _ _ h => h

theorem symbol {symbol : Symbol} {cs : List Char} (h : Spells symbol cs)
    (hnumber : symbol ≠ .number) : Prints cs [symbol] :=
  fun _ _ hrest => .symbol h hrest fun hsymbol => absurd hsymbol hnumber

theorem append {cs ds : List Char} {first second : Phrase} (hfirst : Prints cs first)
    (hsecond : Prints ds second) : Prints (cs ++ ds) (first ++ second) := by
  intro symbols rest h
  rw [List.append_assoc, List.append_assoc]
  exact hfirst _ _ (hsecond _ _ h)

theorem separated {texts : List (List Char)} {phrases : List Phrase}
    (h : List.Forall₂ Prints texts phrases) :
    Prints ([','].intercalate texts) (Json.separated phrases) := by
  induction h with
  | nil => exact nil
  | @cons cs phrase texts phrases hfirst hrest ih =>
    cases hrest with
    | nil =>
      rw [List.intercalate_singleton, Json.separated, List.flatMap_nil, List.append_nil]
      exact hfirst
    | @cons ds next texts phrases _ _ =>
      have hphrase : Json.separated (phrase :: next :: phrases)
          = (phrase ++ [.comma]) ++ Json.separated (next :: phrases) := by
        simp only [Json.separated, List.flatMap_cons, List.append_assoc, List.cons_append,
          List.nil_append]
      rw [List.intercalate_cons_cons, hphrase]
      exact (hfirst.append (symbol .comma (by simp))).append ih

theorem written {cs : List Char} {phrase : Phrase} (h : Prints cs phrase) : Written phrase cs := by
  have hwritten := h [] [] .nil
  rwa [List.append_nil, List.append_nil] at hwritten

end Prints

theorem hexDigit_spells {n : Nat} (h : n < 16) : HexDigit (hexDigit n) n := by
  have hall : ∀ n < 16, hexDigit n = n.digitChar := by decide
  exact ⟨h, .inl (hall n h)⟩

/-- An escaped character stands for itself. -/
theorem escape_spells (c : Char) : ∃ part, SpellsPart part (escape c) ∧
    ∀ parts text, Means parts text → Means (part :: parts) (c :: text) := by
  have hshort : ∀ e, (e, c) ∈ Lexeme.escapes → ∃ part, SpellsPart part ['\\', e] ∧
      ∀ parts text, Means parts text → Means (part :: parts) (c :: text) :=
    fun e h => ⟨.char c, .short h, fun _ _ => .char c⟩
  unfold escape
  split
  · exact hshort '"' (by decide)
  · exact hshort '\\' (by decide)
  · exact hshort 'b' (by decide)
  · exact hshort 'f' (by decide)
  · exact hshort 'n' (by decide)
  · exact hshort 'r' (by decide)
  · exact hshort 't' (by decide)
  · rename_i hquote hbackslash _ _ _ _ _
    split
    · rename_i hcontrol
      have hzero := hexDigit_spells (by decide : 0 < 16)
      have hunit := SpellsPart.unit hzero hzero
        (hexDigit_spells (by omega : c.toNat / 16 < 16))
        (hexDigit_spells (by omega : c.toNat % 16 < 16))
      have hcode : ((0 * 16 + 0) * 16 + c.toNat / 16) * 16 + c.toNat % 16 = c.toNat := by omega
      rw [hcode] at hunit
      exact ⟨.unit c.toNat, hunit, fun _ _ => .unit (by omega)⟩
    · rename_i hcontrol
      exact ⟨.char c, .plain (by omega) hquote hbackslash, fun _ _ => .char c⟩

theorem escapes_spell (text : List Char) :
    ∃ parts, Means parts text ∧ SpellsParts parts (text.flatMap escape) := by
  induction text with
  | nil => exact ⟨[], .nil, .nil⟩
  | cons c text ih =>
    obtain ⟨parts, hmeans, hparts⟩ := ih
    obtain ⟨part, hpart, hc⟩ := escape_spells c
    exact ⟨part :: parts, hc parts text hmeans, .cons hpart hparts⟩

theorem quote_prints (s : String) : Prints (quote s) [.string (some s)] := by
  obtain ⟨parts, hmeans, hparts⟩ := escapes_spell s.toList
  exact .symbol (.text hmeans hparts) (by simp)

theorem bool_prints (b : Bool) : Prints (print (.bool b)) [.bool b] := by
  cases b with
  | true => exact .symbol (.bool true) (by simp)
  | false => exact .symbol (.bool false) (by simp)

theorem printItems_eq (items : List Json) :
    printItems items = [','].intercalate (items.map print) := by
  induction items with
  | nil => rfl
  | cons item items ih =>
    cases items with
    | nil => simp [printItems]
    | cons next items =>
      rw [printItems, ih]
      · simp only [List.map_cons, List.intercalate_cons_cons, List.append_assoc,
          List.singleton_append]
      · simp

theorem printMembers_eq (members : List (String × Json)) : printMembers members
    = [','].intercalate (members.map fun member => quote member.1 ++ ':' :: member.2.print) := by
  induction members with
  | nil => rfl
  | cons member members ih =>
    cases members with
    | nil => simp [printMembers]
    | cons next members =>
      rw [printMembers, ih]
      · simp only [List.map_cons, List.intercalate_cons_cons, List.append_assoc,
          List.singleton_append]
      · simp

theorem array_prints {items : List Json} {phrases : List Phrase}
    (h : List.Forall₂ (fun item phrase => Prints item.print phrase) items phrases) :
    Prints (print (.array items)) (arrayOf phrases) := by
  have hitems := Prints.separated (List.forall₂_map_left_iff.mpr h)
  rw [print, printItems_eq]
  exact (Prints.symbol .openBracket (by simp)).append
    (hitems.append (Prints.symbol .closeBracket (by simp)))

/-- The member is printed under its name. -/
def PrintsMember (json : String × Json) (member : String × Phrase) : Prop :=
  json.1 = member.1 ∧ Prints json.2.print member.2

theorem object_prints {jsons : List (String × Json)} {members : List (String × Phrase)}
    (h : List.Forall₂ PrintsMember jsons members) :
    Prints (print (.object jsons)) (recordOf members) := by
  have hmembers : List.Forall₂ Prints
      (jsons.map fun member => quote member.1 ++ ':' :: member.2.print)
      ((members.map fun member => (some member.1, member.2)).map fun member =>
        memberOf member.1 member.2) := by
    rw [List.map_map]
    refine List.forall₂_map_left_iff.mpr (List.forall₂_map_right_iff.mpr (h.imp ?_))
    rintro ⟨key, json⟩ ⟨_, phrase⟩ ⟨rfl, hvalue⟩
    exact (quote_prints key).append ((Prints.symbol .colon (by simp)).append hvalue)
  rw [print, printMembers_eq]
  exact (Prints.symbol .openBrace (by simp)).append
    ((Prints.separated hmembers).append (Prints.symbol .closeBrace (by simp)))

/-- The members of an object that has been made for the entries, in their order. -/
inductive Emits : List Entry → List (String × Json) → Prop
  | nil : Emits [] []
  | written {entry : Entry} {entries : List Entry} {json : Json} {jsons : List (String × Json)}
    {phrase : Phrase} (hadmits : entry.admits phrase) (hprints : Prints json.print phrase)
    (h : Emits entries jsons) : Emits (entry :: entries) ((entry.name, json) :: jsons)
  | leftOut {entry : Entry} {entries : List Entry} {jsons : List (String × Json)}
    (hmiss : entry.mayMiss) (h : Emits entries jsons) : Emits (entry :: entries) jsons

namespace Emits

theorem append {first second : List Entry} {jsons others : List (String × Json)}
    (hfirst : Emits first jsons) (hsecond : Emits second others) :
    Emits (first ++ second) (jsons ++ others) := by
  induction hfirst with
  | nil => exact hsecond
  | written hadmits hprints _ ih => exact .written hadmits hprints ih
  | leftOut hmiss _ ih => exact .leftOut hmiss ih

theorem text (name s : String) : Emits [.text name s] [(name, .string s)] :=
  .written rfl (quote_prints s) .nil

theorem flag (name : String) (b : Bool) : Emits [.flag name b] [(name, .bool b)] :=
  .written rfl (bool_prints b) .nil

theorem optionalText (name : String) (s : Option String) :
    Emits [.optionalText name s] (Json.optionalText name s) := by
  cases s with
  | none => exact .leftOut rfl .nil
  | some s => exact .written rfl (quote_prints s) .nil

section List

variable {α : Type} {describes : α → Phrase → Prop} {toJson : α → Json}

theorem list (name : String)
    (h : ∀ item, ∃ phrase, describes item phrase ∧ Prints (toJson item).print phrase)
    (items : List α) :
    Emits [.list name describes items] [(name, .array (items.map toJson))] := by
  have hitems : ∃ phrases, List.Forall₂ describes items phrases ∧
      List.Forall₂ (fun item phrase => Prints (toJson item).print phrase) items phrases := by
    induction items with
    | nil => exact ⟨[], .nil, .nil⟩
    | cons item items ih =>
      obtain ⟨phrases, hdescribes, hprints⟩ := ih
      obtain ⟨phrase, hphrase, hprint⟩ := h item
      exact ⟨phrase :: phrases, .cons hphrase hdescribes, .cons hprint hprints⟩
  obtain ⟨phrases, hdescribes, hprints⟩ := hitems
  exact .written ⟨phrases, rfl, hdescribes⟩
    (array_prints (List.forall₂_map_left_iff.mpr hprints)) .nil

/-- A list that is only written when it has items. -/
theorem nonEmptyList (name : String)
    (h : ∀ item, ∃ phrase, describes item phrase ∧ Prints (toJson item).print phrase)
    (items : List α) : Emits [.list name describes items]
      (if items.isEmpty then [] else [(name, .array (items.map toJson))]) := by
  cases items with
  | nil => exact .leftOut rfl .nil
  | cons item items => exact list name h (item :: items)

end List

/-- What the object holds, and nothing else. -/
theorem exists_members {entries : List Entry} {jsons : List (String × Json)}
    (h : Emits entries jsons) : ∃ members : List (String × Phrase),
      List.Forall₂ PrintsMember jsons members ∧
      (members.map Prod.fst).Sublist (entries.map Entry.name) ∧
      (∀ member ∈ members, ∃ entry ∈ entries, entry.name = member.1 ∧ entry.admits member.2) ∧
      ∀ entry ∈ entries, entry.mayMiss ∨ entry.name ∈ members.map Prod.fst := by
  induction h with
  | nil => exact ⟨[], .nil, .slnil, by simp, by simp⟩
  | @written entry entries json jsons phrase hadmits hprints _ ih =>
    obtain ⟨members, hmembers, hnames, hfrom, hpresent⟩ := ih
    refine ⟨(entry.name, phrase) :: members, .cons ⟨rfl, hprints⟩ hmembers, hnames.cons_cons _,
      ?_, ?_⟩
    · intro member hmember
      rcases List.mem_cons.mp hmember with rfl | hmember
      · exact ⟨entry, List.mem_cons_self, rfl, hadmits⟩
      · obtain ⟨other, hother, hadmitted⟩ := hfrom member hmember
        exact ⟨other, List.mem_cons_of_mem _ hother, hadmitted⟩
    · intro other hother
      rcases List.mem_cons.mp hother with rfl | hother
      · exact .inr List.mem_cons_self
      · exact (hpresent other hother).imp_right (List.mem_cons_of_mem _)
  | @leftOut entry entries jsons hmiss _ ih =>
    obtain ⟨members, hmembers, hnames, hfrom, hpresent⟩ := ih
    refine ⟨members, hmembers, hnames.cons _, ?_, ?_⟩
    · intro member hmember
      obtain ⟨other, hother, hadmitted⟩ := hfrom member hmember
      exact ⟨other, List.mem_cons_of_mem _ hother, hadmitted⟩
    · intro other hother
      rcases List.mem_cons.mp hother with rfl | hother
      · exact .inl hmiss
      · exact hpresent other hother

/-- An object that has been made for the entries describes them. -/
theorem isRecord {entries : List Entry} {jsons : List (String × Json)} (h : Emits entries jsons)
    (hnames : (entries.map Entry.name).Nodup) :
    ∃ phrase, IsRecord entries phrase ∧ Prints (print (.object jsons)) phrase := by
  obtain ⟨members, hmembers, hsublist, hfrom, hpresent⟩ := h.exists_members
  have hdescribes : Describes entries members := by
    refine ⟨fun entry _ => ?_, fun entry hentry phrase hmember => ?_, hpresent,
      fun member hmember hunknown => ?_⟩
    · exact List.nodup_iff_count_le_one.mp (hnames.sublist hsublist) entry.name
    · obtain ⟨other, hother, hname, hadmits⟩ := hfrom _ hmember
      obtain rfl : other = entry := List.inj_on_of_nodup_map hnames hother hentry hname
      exact hadmits
    · obtain ⟨entry, hentry, hname, _⟩ := hfrom member hmember
      exact absurd (List.mem_map.mpr ⟨entry, hentry, hname⟩) hunknown
  exact ⟨recordOf members, ⟨members, rfl, hdescribes⟩, object_prints hmembers⟩

end Emits

end DtoGen.Json
