import DtoGen.Options
import DtoGen.Proofs.KeyedLists

namespace DtoGen

namespace RawOptions

theorem get?_eq_lookup (raw : RawOptions) (key : String) :
    raw.get? key = raw.entries.lookup key :=
  map_find?_eq_lookup raw.entries key

theorem get?_insert (raw : RawOptions) (key value other : String) :
    (raw.insert key value).get? other = if other = key then some value else raw.get? other := by
  rw [get?_eq_lookup, get?_eq_lookup]
  obtain ⟨entries⟩ := raw
  change (upsert (·.1 == key) (fun entry => (entry.1, value)) (key, value) entries).lookup other = _
  induction entries with
  | nil => exact lookup_cons_ite key other value []
  | cons entry entries ih =>
    obtain ⟨first, text⟩ := entry
    rw [upsert]
    by_cases hfits : first = key
    · rw [if_pos (beq_iff_eq.mpr hfits), lookup_cons_ite, lookup_cons_ite, hfits]
      split <;> rfl
    · rw [if_neg (mt beq_iff_eq.mp hfits), lookup_cons_ite, lookup_cons_ite, ih]
      by_cases hother : other = first
      · rw [if_pos hother, if_pos hother, if_neg (hother.trans_ne hfits)]
      · rw [if_neg hother, if_neg hother]

/-- A key that is not set yet comes behind all others. -/
theorem keys_insert (raw : RawOptions) (key value : String) : (raw.insert key value).keys
    = if key ∈ raw.keys then raw.keys else raw.keys ++ [key] :=
  keys_upsert (fun entry => (entry.1, value)) (fun _ => rfl) key value raw.entries

theorem get?_eq_none_iff {raw : RawOptions} {key : String} :
    raw.get? key = none ↔ key ∉ raw.keys := by
  rw [get?_eq_lookup]
  exact lookup_eq_none_iff_notMem

theorem keys_insert_of_unset {raw : RawOptions} {key : String} (h : raw.get? key = none)
    (value : String) : (raw.insert key value).keys = raw.keys ++ [key] := by
  rw [keys_insert, if_neg (get?_eq_none_iff.mp h)]

theorem get?_foldl_insert (pairs : List (String × String)) (raw : RawOptions) (key : String) :
    (pairs.foldl (fun raw pair => raw.insert pair.1 pair.2) raw).get? key
      = (pairs.reverse.lookup key).or (raw.get? key) := by
  induction pairs generalizing raw with
  | nil => rfl
  | cons pair pairs ih =>
    obtain ⟨other, value⟩ := pair
    rw [List.foldl_cons, ih, get?_insert, List.reverse_cons, List.lookup_append, Option.or_assoc,
      lookup_cons_ite]
    split <;> rfl

/-- Of several texts under a key, the last one is kept. -/
theorem get?_ofPairs (pairs : List (String × String)) (key : String) :
    (ofPairs pairs).get? key = pairs.reverse.lookup key :=
  (get?_foldl_insert pairs empty key).trans (Option.or_none)

/-- The key and the text of an override. -/
def override? (pair : String) : Option (String × String) :=
  (splitPair? pair.toList).map fun (key, value) => (String.ofList key, String.ofList value)

/-- The text of the last override of a key. -/
def lastOverride? (pairs : List String) (key : String) : Option String :=
  (pairs.filterMap override?).reverse.lookup key

theorem applyOverride_eq {raw : RawOptions} {pair key value : String}
    (h : override? pair = some (key, value)) :
    raw.applyOverride pair = .ok (raw.insert key value) := by
  obtain ⟨sides, hsides, hpair⟩ := Option.map_eq_some_iff.mp h
  obtain ⟨rfl, rfl⟩ := Prod.mk.inj hpair
  rw [applyOverride, hsides]

theorem applyOverrides_eq {pairs : List String} (h : ∀ pair ∈ pairs, (override? pair).isSome = true)
    (raw : RawOptions) :
    raw.applyOverrides pairs = .ok ((pairs.filterMap override?).foldl
      (fun raw pair => raw.insert pair.1 pair.2) raw) := by
  induction pairs generalizing raw with
  | nil => rfl
  | cons pair pairs ih =>
    obtain ⟨⟨key, value⟩, hpair⟩ := Option.isSome_iff_exists.mp (h pair List.mem_cons_self)
    rw [applyOverrides, applyOverride_eq hpair, List.filterMap_cons_some hpair, List.foldl_cons]
    exact ih (fun pair hmem => h pair (List.mem_cons_of_mem _ hmem)) (raw.insert key value)

/-- The last override of a key counts, or what was there before if there is none. -/
theorem get?_of_applyOverrides {raw changed : RawOptions} {pairs : List String}
    (h : ∀ pair ∈ pairs, (override? pair).isSome = true)
    (hchanged : raw.applyOverrides pairs = .ok changed) (key : String) :
    changed.get? key = (lastOverride? pairs key).or (raw.get? key) := by
  rw [applyOverrides_eq h] at hchanged
  rw [← Except.ok.inj hchanged, get?_foldl_insert, lastOverride?]

theorem reserved_not_mem_unknownKeys (raw : RawOptions) {key : String} (h : key ∈ reserved) :
    key ∉ raw.unknownKeys := by
  intro hmem
  have hunknown := (List.mem_filter.mp hmem).2
  simp [isKnown, h] at hunknown

end RawOptions

/-- Only what is found under the keys of settings matters. -/
theorem Options.normalize_of_settings {raw other : RawOptions}
    (h : ∀ setting, raw.value? setting = other.value? setting) (env : Environment)
    (output : String) : Options.normalize env raw output = Options.normalize env other output := by
  unfold Options.normalize Options.namingStyle
  simp only [h]

theorem Options.normalize_congr {raw other : RawOptions} (h : ∀ key, raw.get? key = other.get? key)
    (env : Environment) (output : String) :
    Options.normalize env raw output = Options.normalize env other output :=
  Options.normalize_of_settings (fun setting => h setting.key) env output

end DtoGen
