import DtoGen.Proofs.NormalizedOptions
import DtoGen.Proofs.Texts
import Mathlib.Data.Finset.Card

namespace DtoGen

namespace RawOptions

open Text

/-- One thing that is done to a bag. -/
inductive Step
  | insert (key value : String)
  | override (pair : String)
deriving DecidableEq, Repr

/-- Nothing but blanks stands in front of the first equals sign, or there is none. -/
def NoOverride (pair : String) : Prop :=
  '=' ∉ pair.toList ∨ ∃ left right, pair.toList = left ++ '=' :: right ∧ '=' ∉ left ∧
    ∀ c ∈ left, isBlank c = true

namespace Step

/-- The text that a key is set to. An override sets what stands in front of its first equals sign to
what stands behind it, both without the blanks around. -/
inductive Sets : Step → String → String → Prop
  | insert (key value : String) : Sets (.insert key value) key value
  | override {pair key value : String} {left right : List Char}
    (hpair : pair.toList = left ++ '=' :: right) (hleft : '=' ∉ left)
    (hkey : IsCore key.toList left) (hvalue : IsCore value.toList right) (hne : key ≠ "") :
    Sets (.override pair) key value

def setting? : Step → Option (String × String)
  | insert key value => some (key, value)
  | override pair => override? pair

def outcome (step : Step) (raw : RawOptions) : Except ConfigError RawOptions :=
  match step with
  | insert key value => .ok (raw.insert key value)
  | override pair => raw.applyOverride pair

/-- The bag that the next step finds. -/
def after (step : Step) (raw : RawOptions) : RawOptions :=
  match step.outcome raw with
  | .ok changed => changed
  | .error _ => raw

end Step

def replay (raw : RawOptions) (steps : List Step) : RawOptions :=
  steps.foldl (fun raw step => step.after raw) raw

theorem splitPair?_of_notMem {cs : List Char} (h : '=' ∉ cs) : splitPair? cs = none := by
  have hall : ∀ c ∈ cs, (c != '=') = true := fun c hc => bne_iff_ne.mpr fun heq => h (heq ▸ hc)
  rw [splitPair?, List.dropWhile_eq_nil_iff.mpr hall]

theorem splitPair?_append {left : List Char} (h : '=' ∉ left) (right : List Char) :
    splitPair? (left ++ '=' :: right) = if trim left = [] then none
      else some (trim left, trim right) := by
  have hall : ∀ c ∈ left, (c != '=') = true := fun c hc => bne_iff_ne.mpr fun heq => h (heq ▸ hc)
  have hkey : (left ++ '=' :: right).takeWhile (· != '=') = left := by
    rw [List.takeWhile_append_of_pos hall, List.takeWhile_cons_of_neg (by decide), List.append_nil]
  have hvalue : (left ++ '=' :: right).dropWhile (· != '=') = '=' :: right := by
    rw [List.dropWhile_append_of_pos hall, List.dropWhile_cons_of_neg (by decide)]
  rw [splitPair?, hkey, hvalue]

/-- A pair is no override, or it sets one key to one text. -/
theorem noOverride_or_sets (pair : String) :
    NoOverride pair ∨ ∃ key value, (Step.override pair).Sets key value := by
  by_cases hmem : '=' ∈ pair.toList
  · obtain ⟨left, right, hpair, hleft⟩ := List.eq_append_cons_of_mem hmem
    by_cases hblank : trim left = []
    · exact .inl (.inr ⟨left, right, hpair, hleft, trim_eq_nil_iff.mp hblank⟩)
    · have hcore : ∀ cs, IsCore (String.ofList (trim cs)).toList cs := fun cs => by
        rw [String.toList_ofList]
        exact isCore_trim cs
      refine .inr ⟨_, _, .override hpair hleft (hcore left) (hcore right) fun hempty => hblank ?_⟩
      rw [← String.toList_ofList (l := trim left), hempty]
      rfl
  · exact .inl (.inl hmem)

theorem NoOverride.override?_eq {pair : String} (h : NoOverride pair) : override? pair = none := by
  rcases h with hnone | ⟨left, right, hpair, hleft, hblank⟩
  · rw [override?, splitPair?_of_notMem hnone, Option.map_none]
  · rw [override?, hpair, splitPair?_append hleft, if_pos (trim_eq_nil_iff.mpr hblank),
      Option.map_none]

theorem applyOverride_eq_error {pair : String} (h : override? pair = none) (raw : RawOptions) :
    raw.applyOverride pair = .error (.badOverride pair) := by
  rw [applyOverride, Option.map_eq_none_iff.mp h]

namespace Step

variable {step : Step} {key value : String}

theorem Sets.setting?_eq (h : step.Sets key value) : step.setting? = some (key, value) := by
  cases h with
  | insert => rfl
  | override hpair hleft hkey hvalue hne =>
    have hfilled : key.toList ≠ [] := mt String.toList_eq_nil_iff.mp hne
    rw [Step.setting?, override?, hpair, splitPair?_append hleft, hkey.trim_eq, hvalue.trim_eq,
      if_neg hfilled, Option.map_some]
    simp only [String.ofList_toList]

/-- Only overrides are ever refused. -/
theorem sets_or_refused (step : Step) : (∃ key value, step.Sets key value) ∨
    ∃ pair, step = .override pair ∧ NoOverride pair := by
  cases step with
  | insert key value => exact .inl ⟨key, value, .insert key value⟩
  | override pair => exact (noOverride_or_sets pair).symm.imp_right fun h => ⟨pair, rfl, h⟩

theorem setting?_eq_none {pair : String} (h : NoOverride pair) :
    (Step.override pair).setting? = none :=
  h.override?_eq

theorem Sets.not_noOverride {pair : String} (h : (Step.override pair).Sets key value) :
    ¬NoOverride pair := by
  intro hrefused
  have hnone := setting?_eq_none hrefused
  rw [h.setting?_eq] at hnone
  cases hnone

theorem setting?_eq_some_iff : step.setting? = some (key, value) ↔ step.Sets key value := by
  refine ⟨fun h => ?_, Sets.setting?_eq⟩
  rcases sets_or_refused step with ⟨other, text, hsets⟩ | ⟨pair, rfl, hrefused⟩
  · obtain ⟨rfl, rfl⟩ := Prod.mk.inj (Option.some.inj (hsets.setting?_eq.symm.trans h))
    exact hsets
  · rw [setting?_eq_none hrefused] at h
    cases h

theorem Sets.outcome_eq (h : step.Sets key value) (raw : RawOptions) :
    step.outcome raw = .ok (raw.insert key value) := by
  cases step with
  | insert => cases h; rfl
  | override pair => exact applyOverride_eq h.setting?_eq

theorem outcome_refused {pair : String} (h : NoOverride pair) (raw : RawOptions) :
    (Step.override pair).outcome raw = .error (.badOverride pair) :=
  applyOverride_eq_error h.override?_eq raw

theorem Sets.after_eq (h : step.Sets key value) (raw : RawOptions) :
    step.after raw = raw.insert key value := by
  rw [after, h.outcome_eq]

theorem after_refused {pair : String} (h : NoOverride pair) (raw : RawOptions) :
    (Step.override pair).after raw = raw := by
  rw [after, outcome_refused h]

/-- What there is to know about a step: when it fails, and what it does else. -/
structure Does (step : Step) (raw : RawOptions) : Prop where
  sets : ∀ key value, step.setting? = some (key, value) ↔ step.Sets key value
  fails_iff : ∀ error, step.outcome raw = .error error ↔
    ∃ pair, step = .override pair ∧ NoOverride pair ∧ error = .badOverride pair
  succeeds_iff : ∀ changed, step.outcome raw = .ok changed ↔
    ∃ key value, step.Sets key value ∧ changed = raw.insert key value
  keeps : ∀ error, step.outcome raw = .error error → step.after raw = raw
  finds : ∀ key value, step.Sets key value → ∀ other,
    (step.after raw).get? other = if other = key then some value else raw.get? other
  /-- The other keys stay where they are. -/
  places : ∀ key value, step.Sets key value →
    (step.after raw).keys = if key ∈ raw.keys then raw.keys else raw.keys ++ [key]

theorem does (step : Step) (raw : RawOptions) : step.Does raw where
  sets _ _ := setting?_eq_some_iff
  fails_iff error := by
    rcases sets_or_refused step with ⟨key, value, hsets⟩ | ⟨pair, rfl, hrefused⟩
    · rw [hsets.outcome_eq]
      refine ⟨fun h => (nomatch h), ?_⟩
      rintro ⟨pair, rfl, hrefused, _⟩
      exact absurd hrefused hsets.not_noOverride
    · rw [outcome_refused hrefused]
      constructor
      · exact fun h => ⟨pair, rfl, hrefused, (Except.error.inj h).symm⟩
      · rintro ⟨other, hpair, _, rfl⟩
        rw [Step.override.inj hpair]
  succeeds_iff changed := by
    constructor
    · intro h
      rcases sets_or_refused step with ⟨key, value, hsets⟩ | ⟨pair, rfl, hrefused⟩
      · rw [hsets.outcome_eq] at h
        exact ⟨key, value, hsets, (Except.ok.inj h).symm⟩
      · rw [outcome_refused hrefused] at h
        cases h
    · rintro ⟨key, value, hsets, rfl⟩
      exact hsets.outcome_eq raw
  keeps error h := by rw [after, h]
  finds key value h other := by rw [h.after_eq, get?_insert]
  places key value h := by rw [h.after_eq, keys_insert]

end Step

/-- What is set one after the other, first the pairs that the bag is made from. -/
def settings (pairs : List (String × String)) (steps : List Step) : List (String × String) :=
  pairs ++ steps.filterMap Step.setting?

theorem replay_eq (raw : RawOptions) (steps : List Step) : replay raw steps
    = (steps.filterMap Step.setting?).foldl (fun raw pair => raw.insert pair.1 pair.2) raw := by
  induction steps generalizing raw with
  | nil => rfl
  | cons step steps ih =>
    rw [replay, List.foldl_cons]
    rcases step.sets_or_refused with ⟨key, value, hsets⟩ | ⟨pair, rfl, hrefused⟩
    · rw [hsets.after_eq, List.filterMap_cons_some hsets.setting?_eq, List.foldl_cons]
      exact ih (raw.insert key value)
    · rw [Step.after_refused hrefused, List.filterMap_cons_none (Step.setting?_eq_none hrefused)]
      exact ih raw

theorem replay_ofPairs (pairs : List (String × String)) (steps : List Step) :
    replay (ofPairs pairs) steps = ofPairs (settings pairs steps) := by
  rw [replay_eq, ofPairs, ofPairs, settings, List.foldl_append]

/-- The overrides of a command line are replayed, unless one of them is none. -/
theorem applyOverrides_cases (raw : RawOptions) (pairs : List String) :
    ((∀ pair ∈ pairs, ¬NoOverride pair) ∧
        raw.applyOverrides pairs = .ok (replay raw (pairs.map .override))) ∨
      ∃ earlier pair later, pairs = earlier ++ pair :: later ∧ (∀ p ∈ earlier, ¬NoOverride p) ∧
        NoOverride pair ∧ raw.applyOverrides pairs = .error (.badOverride pair) := by
  induction pairs generalizing raw with
  | nil => exact .inl ⟨by simp, rfl⟩
  | cons pair pairs ih =>
    rcases noOverride_or_sets pair with hrefused | ⟨key, value, hsets⟩
    · refine .inr ⟨[], pair, pairs, rfl, by simp, hrefused, ?_⟩
      rw [applyOverrides, applyOverride_eq_error hrefused.override?_eq]
      rfl
    · have hgood := hsets.not_noOverride
      have hnext : raw.applyOverrides (pair :: pairs)
          = (raw.insert key value).applyOverrides pairs := by
        rw [applyOverrides, applyOverride_eq hsets.setting?_eq]
        rfl
      have hreplay : replay raw ((pair :: pairs).map .override)
          = replay (raw.insert key value) (pairs.map .override) := by
        rw [replay, List.map_cons, List.foldl_cons, hsets.after_eq]
        rfl
      rw [hnext, hreplay]
      rcases ih (raw.insert key value) with ⟨hall, hok⟩ | ⟨earlier, bad, later, rfl, hall, hrest⟩
      · exact .inl ⟨List.forall_mem_cons.mpr ⟨hgood, hall⟩, hok⟩
      · exact .inr ⟨pair :: earlier, bad, later, rfl, List.forall_mem_cons.mpr ⟨hgood, hall⟩,
          hrest⟩

theorem keys_ofPairs (pairs : List (String × String)) :
    (ofPairs pairs).keys = (pairs.map Prod.fst).eraseDups :=
  keys_foldl RawOptions.keys (fun raw pair => keys_insert raw pair.1 pair.2) rfl pairs

/-- The bag holds the last text of every key that was set, under the keys in the order in which they
were first set. -/
structure Remembers (raw : RawOptions) (settings : List (String × String)) : Prop where
  unique : raw.keys.Nodup
  keys : raw.keys = (settings.map Prod.fst).eraseDups
  ordered : raw.keys.Pairwise fun a b =>
    (settings.map Prod.fst).idxOf a < (settings.map Prod.fst).idxOf b
  found : ∀ key value, raw.get? key = some value ↔
    ∃ earlier later, settings = earlier ++ (key, value) :: later ∧ key ∉ later.map Prod.fst
  missing : ∀ key, raw.get? key = none ↔ key ∉ settings.map Prod.fst
  size : raw.size = (settings.map Prod.fst).toFinset.card
  unknown : raw.unknownKeys = (settings.map Prod.fst).eraseDups.filter fun key =>
    key ∉ Setting.all.map Setting.key ∧ key ∉ reserved

theorem remembers_ofPairs (pairs : List (String × String)) : (ofPairs pairs).Remembers pairs where
  unique := by
    rw [keys_ofPairs]
    exact nodup_eraseDups _
  keys := keys_ofPairs pairs
  ordered := by
    rw [keys_ofPairs]
    exact eraseDups_ordered _
  found key value := by
    rw [get?_ofPairs]
    exact lookup_reverse_eq_some_iff
  missing key := by
    rw [get?_eq_none_iff, keys_ofPairs, List.mem_eraseDups]
  size := by
    have hsize : (ofPairs pairs).size = (ofPairs pairs).keys.length := (List.length_map _).symm
    have hsame : (pairs.map Prod.fst).eraseDups.toFinset = (pairs.map Prod.fst).toFinset := by
      ext key
      rw [List.mem_toFinset, List.mem_toFinset, List.mem_eraseDups]
    rw [hsize, keys_ofPairs, ← hsame, List.toFinset_card_of_nodup (nodup_eraseDups _)]
  unknown := by
    rw [unknownKeys, keys_ofPairs]
    refine List.filter_congr fun key _ => ?_
    rw [Bool.eq_iff_iff, Bool.not_eq_true', isKnown_eq_false, decide_eq_true_iff]

/-- At any moment a bag remembers what was set, and the next step does to it what it says or
nothing. -/
theorem remembers_history (pairs : List (String × String)) (steps : List Step) :
    ofPairs pairs = replay empty (pairs.map fun pair => .insert pair.1 pair.2) ∧
      (replay (ofPairs pairs) steps).Remembers (settings pairs steps) ∧
      ∀ (step : Step) (raw : RawOptions), step.Does raw := by
  refine ⟨?_, ?_, Step.does⟩
  · rw [replay, List.foldl_map]
    rfl
  · rw [replay_ofPairs]
    exact remembers_ofPairs _

/-- The first override is none, the second has a text with another equals sign, and the third finds
its key where it is. -/
example : (replay (ofPairs [("reExport", "false")])
    [.override " = true", .override " depth = a=b ", .override "reExport=true"]).entries
      = [("reExport", "true"), ("depth", "a=b")] := by
  decide +kernel

end RawOptions

end DtoGen
