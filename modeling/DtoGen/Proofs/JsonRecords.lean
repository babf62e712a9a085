import Mathlib.Data.List.Nodup
import DtoGen.Proofs.JsonReading

namespace DtoGen.Json

/-- A member that a record has. -/
structure Entry where
  name : String
  /-- Whether leaving the member out means the same. -/
  mayMiss : Prop
  /-- The phrases that stand for its value. -/
  admits : Phrase → Prop

/-- The phrase stands for the text. -/
def IsText (s : String) (phrase : Phrase) : Prop :=
  phrase = [.string (some s)]

namespace Entry

def text (name s : String) : Entry :=
  ⟨name, False, IsText s⟩

def flag (name : String) (b : Bool) : Entry :=
  ⟨name, b = false, (· = [.bool b])⟩

def optionalText (name : String) (s : Option String) : Entry :=
  ⟨name, s = none, (· = match s with | none => [.null] | some s => [.string (some s)])⟩

def list {α : Type} (name : String) (describes : α → Phrase → Prop) (items : List α) : Entry :=
  ⟨name, items = [], fun phrase =>
    ∃ phrases, phrase = arrayOf phrases ∧ List.Forall₂ describes items phrases⟩

end Entry

/-- The members of an object describe a record with these entries. -/
structure Describes (entries : List Entry) (members : List (String × Phrase)) : Prop where
  once : ∀ entry ∈ entries, (members.map Prod.fst).count entry.name ≤ 1
  written : ∀ entry ∈ entries, ∀ phrase, (entry.name, phrase) ∈ members → entry.admits phrase
  present : ∀ entry ∈ entries, entry.mayMiss ∨ entry.name ∈ members.map Prod.fst
  unknown : ∀ member ∈ members, member.1 ∉ entries.map Entry.name → IsValue member.2

/-- The phrase is an object that describes the record. -/
def IsRecord (entries : List Entry) (phrase : Phrase) : Prop :=
  ∃ members, phrase = recordOf members ∧ Describes entries members

theorem text_isRead {s : String} {phrase : Phrase} (h : IsText s phrase) :
    IsRead Reader.text phrase (.text s) := by
  obtain rfl := h
  exact ⟨.string _, Reader.text_reads s⟩

theorem Reader.ReadsItems.values {read : Reader} {items : List Phrase} {values : List Value}
    (h : ReadsItems read items values) : ∀ item ∈ items, IsValue item := by
  induction h with
  | nil => exact fun item hitem => nomatch hitem
  | @cons first _ items _ hfirst _ ih =>
    intro item hitem
    rcases List.mem_cons.mp hitem with rfl | hitem
    · exact hfirst.1
    · exact ih item hitem

/-- An entry, the slot that reads it, and the value that comes of it. -/
structure Served where
  slot : Reader.Slot
  entry : Entry
  value : Value
  name : slot.name = entry.name
  isValue : ∀ phrase, entry.admits phrase → IsValue phrase
  reads : ∀ phrase, entry.admits phrase → Reads slot.read phrase value
  missing : entry.mayMiss → slot.default = some value

namespace Served

open Reader

def text (name s : String) : Served where
  slot := .required name Reader.text
  entry := .text name s
  value := .text s
  name := rfl
  isValue := by
    rintro _ rfl
    exact .string _
  reads := by
    rintro _ rfl
    exact text_reads s
  missing := False.elim

/-- A text among some names. -/
def choice (name : String) {names : List String} {s : String} (h : s ∈ names) : Served where
  slot := .required name (Reader.choice names)
  entry := .text name s
  value := .text s
  name := rfl
  isValue := by
    rintro _ rfl
    exact .string _
  reads := by
    rintro _ rfl
    exact choice_reads h
  missing := False.elim

def flag (name : String) (b : Bool) : Served where
  slot := .flag name
  entry := .flag name b
  value := .flag b
  name := rfl
  isValue := by
    rintro _ rfl
    exact .bool b
  reads := by
    rintro _ rfl
    exact flag_reads b
  missing := by
    rintro rfl
    rfl

def optionalValue : Option String → Value
  | none => .absent
  | some s => .text s

def optionalText (name : String) (s : Option String) : Served where
  slot := .optionalText name
  entry := .optionalText name s
  value := optionalValue s
  name := rfl
  isValue := by
    rintro _ rfl
    cases s with
    | none => exact .null
    | some s => exact .string _
  reads := by
    rintro _ rfl
    cases s with
    | none => exact optional_reads_null Reader.text
    | some s => exact optionalText_reads s
  missing := by
    rintro rfl
    rfl

section List

variable {α : Type} {describes : α → Phrase → Prop} {read : Reader} {valueOf : α → Value}

theorem readsItems_of_describes
    (h : ∀ item phrase, describes item phrase → IsRead read phrase (valueOf item))
    {items : List α} {phrases : List Phrase} (hitems : List.Forall₂ describes items phrases) :
    ReadsItems read phrases (items.map valueOf) := by
  refine List.forall₂_map_right_iff.mpr ?_
  induction hitems with
  | nil => exact .nil
  | cons hitem _ ih => exact .cons (h _ _ hitem) ih

def list (name : String)
    (h : ∀ item phrase, describes item phrase → IsRead read phrase (valueOf item))
    (items : List α) : Served where
  slot := .list name read
  entry := .list name describes items
  value := .list (items.map valueOf)
  name := rfl
  isValue := by
    rintro _ ⟨phrases, rfl, hitems⟩
    exact .array (readsItems_of_describes h hitems).values
  reads := by
    rintro _ ⟨phrases, rfl, hitems⟩
    exact list_reads (readsItems_of_describes h hitems)
  missing := by
    rintro rfl
    rfl

end List

variable {served : List Served} {members : List (String × Phrase)}

/-- What the slot of the name makes of its member. -/
def expected (served : List Served) (name : String) : Option Value :=
  (served.find? (·.entry.name == name)).map Served.value

theorem find?_slot (served : List Served) (name : String) :
    (served.map Served.slot).find? (·.name == name)
      = (served.find? (·.entry.name == name)).map Served.slot := by
  rw [List.find?_map]
  congr 2
  funext one
  exact congrArg (· == name) one.name

theorem find?_self (hnames : (served.map fun one => one.entry.name).Nodup) {one : Served}
    (h : one ∈ served) : served.find? (·.entry.name == one.entry.name) = some one := by
  cases hfound : served.find? (·.entry.name == one.entry.name) with
  | none =>
    have hnot := List.find?_eq_none.mp hfound one h
    exact absurd (beq_self_eq_true _) hnot
  | some other =>
    have hname : other.entry.name = one.entry.name := by
      simpa using List.find?_some hfound
    have hother := List.mem_of_find?_eq_some hfound
    exact congrArg some (List.inj_on_of_nodup_map hnames hother h hname)

theorem mapM_expected (hnames : (served.map fun one => one.entry.name).Nodup) :
    ((served.map Served.slot).mapM fun slot => expected served slot.name)
      = some (served.map Served.value) := by
  have hvalue : ∀ one ∈ served, expected served one.slot.name = some one.value := by
    intro one h
    rw [expected, one.name, find?_self hnames h]
    rfl
  rw [List.mapM_map]
  clear hnames
  generalize expected served = values at hvalue
  induction served with
  | nil => rfl
  | cons one served ih =>
    rw [List.mapM_cons, Function.comp_apply, hvalue one List.mem_cons_self,
      ih fun other hother => hvalue other (List.mem_cons_of_mem _ hother)]
    rfl

theorem fits (hnames : (served.map fun one => one.entry.name).Nodup)
    (h : Describes (served.map Served.entry) members) :
    Fits (served.map Served.slot) (expected served) members [] := by
  have hentry : ∀ one ∈ served, one.entry ∈ served.map Served.entry :=
    fun one hone => List.mem_map_of_mem hone
  refine ⟨fun member hmember slot hslot => ?_, fun member hmember hslot => ?_, ?_,
    fun _ _ _ => rfl, fun _ _ hfound => (nomatch hfound), fun slot hslot => ?_⟩
  · rw [find?_slot, Option.map_eq_some_iff] at hslot
    obtain ⟨one, hone, rfl⟩ := hslot
    have hname : one.entry.name = member.1 := by
      simpa using List.find?_some hone
    refine ⟨one.value, by rw [expected, hone]; rfl, one.reads _ ?_⟩
    refine h.written one.entry (hentry one (List.mem_of_find?_eq_some hone)) member.2 ?_
    rwa [hname]
  · refine h.unknown member hmember fun hknown => ?_
    rw [find?_slot, Option.map_eq_none_iff] at hslot
    obtain ⟨entry, hentries, hname⟩ := List.mem_map.mp hknown
    obtain ⟨one, hone, rfl⟩ := List.mem_map.mp hentries
    have hnot := List.find?_eq_none.mp hslot one hone
    exact hnot (beq_iff_eq.mpr hname)
  · refine List.nodup_iff_count_le_one.mpr fun name => ?_
    by_cases hnamed : isNamed (served.map Served.slot) name = true
    · have hsome := hnamed
      rw [isNamed, find?_slot, Option.isSome_map, List.find?_isSome] at hsome
      obtain ⟨one, hone, hname⟩ := hsome
      rw [List.count_filter hnamed, ← beq_iff_eq.mp hname]
      exact h.once one.entry (hentry one hone)
    · rw [List.count_eq_zero.mpr fun hmem => hnamed (List.of_mem_filter hmem)]
      exact Nat.zero_le 1
  · obtain ⟨one, hone, rfl⟩ := List.mem_map.mp hslot
    rw [one.name]
    rcases h.present one.entry (hentry one hone) with hmiss | hmem
    · left
      rw [one.missing hmiss, expected, find?_self hnames hone]
      rfl
    · exact .inr (.inr hmem)

/-- Every object that describes the record is read as the record. -/
theorem record_isRead (served : List Served)
    (hnames : (served.map fun one => one.entry.name).Nodup) {phrase : Phrase}
    (h : IsRecord (served.map Served.entry) phrase) :
    IsRead (Reader.record (served.map Served.slot)) phrase (.list (served.map Served.value)) := by
  obtain ⟨members, rfl, h⟩ := h
  refine ⟨.object fun member hmember => ?_, record_reads (mapM_expected hnames) (fits hnames h)⟩
  obtain ⟨⟨name, phrase⟩, hwritten, rfl⟩ := List.mem_map.mp hmember
  by_cases hknown : name ∈ (served.map Served.entry).map Entry.name
  · obtain ⟨entry, hentry, rfl⟩ := List.mem_map.mp hknown
    obtain ⟨one, _, rfl⟩ := List.mem_map.mp hentry
    exact one.isValue phrase (h.written _ hentry phrase hwritten)
  · exact h.unknown _ hwritten hknown

end Served

end DtoGen.Json
