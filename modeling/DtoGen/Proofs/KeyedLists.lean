import DtoGen.Upsert
import Mathlib.Data.List.Induction
import Mathlib.Data.List.Nodup

namespace DtoGen

variable {κ α : Type} [BEq κ] [LawfulBEq κ] {entries others : List (κ × α)} {key : κ} {value : α}

theorem lookup_cons_ite [DecidableEq κ] (other key : κ) (value : α) (entries : List (κ × α)) :
    ((other, value) :: entries).lookup key
      = if key = other then some value else entries.lookup key := by
  rw [List.lookup_cons]
  by_cases h : key = other
  · rw [if_pos h, beq_iff_eq.mpr h]
  · rw [if_neg h, beq_eq_false_iff_ne.mpr h]

theorem map_find?_eq_lookup (entries : List (κ × α)) (key : κ) :
    (entries.find? (·.1 == key)).map Prod.snd = entries.lookup key := by
  induction entries with
  | nil => rfl
  | cons entry entries ih =>
    rw [List.find?_cons, List.lookup_cons, BEq.comm (a := key), ← ih]
    split <;> rfl

theorem mem_of_lookup (h : entries.lookup key = some value) : (key, value) ∈ entries := by
  obtain ⟨front, rest, rfl, _⟩ := List.lookup_eq_some_iff.mp h
  exact List.mem_append_right _ List.mem_cons_self

/-- With no key twice, looking up a key is finding its entry. -/
theorem lookup_eq_some_iff_mem (h : (entries.map Prod.fst).Nodup) :
    entries.lookup key = some value ↔ (key, value) ∈ entries := by
  refine ⟨mem_of_lookup, fun hmem => List.lookup_eq_some_iff.mpr ?_⟩
  obtain ⟨front, rest, rfl⟩ := List.append_of_mem hmem
  refine ⟨front, rest, rfl, fun entry hentry => ?_⟩
  rw [List.map_append, List.map_cons, List.nodup_append] at h
  have hne := h.2.2 entry.1 (List.mem_map_of_mem hentry) key List.mem_cons_self
  simpa using hne.symm

/-- With no key twice, the order of the entries does not count. -/
theorem lookup_of_perm (h : (entries.map Prod.fst).Nodup) (hperm : entries.Perm others)
    (key : κ) : entries.lookup key = others.lookup key := by
  have h' : (others.map Prod.fst).Nodup := (hperm.map Prod.fst).nodup h
  refine Option.ext fun value => ?_
  rw [lookup_eq_some_iff_mem h, lookup_eq_some_iff_mem h', hperm.mem_iff]

theorem lookup_eq_none_iff_notMem : entries.lookup key = none ↔ key ∉ entries.map Prod.fst := by
  rw [List.lookup_eq_none_iff]
  simp only [bne_iff_ne, List.mem_map, not_exists, not_and]
  exact forall₂_congr fun _ _ => ne_comm

/-- Looking from the end finds the last entry of a key. -/
theorem lookup_reverse_eq_some_iff : entries.reverse.lookup key = some value ↔
    ∃ earlier later, entries = earlier ++ (key, value) :: later ∧ key ∉ later.map Prod.fst := by
  rw [List.lookup_eq_some_iff]
  simp only [← List.lookup_eq_none_iff, lookup_eq_none_iff_notMem]
  constructor
  · rintro ⟨later, earlier, hsplit, hlater⟩
    refine ⟨earlier.reverse, later.reverse, ?_, ?_⟩
    · rw [← List.reverse_reverse entries, hsplit]
      simp
    · rwa [List.map_reverse, List.mem_reverse]
  · rintro ⟨earlier, later, rfl, hlater⟩
    refine ⟨later.reverse, earlier.reverse, by simp, ?_⟩
    rwa [List.map_reverse, List.mem_reverse]

/-- A value that comes last is kept only if it is new. -/
theorem eraseDups_concat (keys : List κ) (key : κ) : (keys ++ [key]).eraseDups
    = if key ∈ keys then keys.eraseDups else keys.eraseDups ++ [key] := by
  rw [List.eraseDups_append]
  by_cases h : key ∈ keys
  · simp [List.removeAll, h]
  · simp [List.removeAll, h, List.eraseDups_cons]

theorem nodup_eraseDups (keys : List κ) : keys.eraseDups.Nodup := by
  induction keys using List.reverseRecOn with
  | nil => simp
  | append_singleton keys key ih =>
    rw [eraseDups_concat]
    split
    · exact ih
    · rename_i hnew
      rw [← List.concat_eq_append]
      exact ih.concat (mt List.mem_eraseDups.mp hnew)

/-- What is kept stands in the order of the first occurrences. -/
theorem eraseDups_ordered (keys : List κ) :
    keys.eraseDups.Pairwise fun a b => keys.idxOf a < keys.idxOf b := by
  induction keys using List.reverseRecOn with
  | nil => simp
  | append_singleton keys key ih =>
    have hfirst : ∀ a ∈ keys.eraseDups, (keys ++ [key]).idxOf a = keys.idxOf a := fun a ha =>
      List.idxOf_append_of_mem (List.mem_eraseDups.mp ha)
    have hold : keys.eraseDups.Pairwise fun a b =>
        (keys ++ [key]).idxOf a < (keys ++ [key]).idxOf b := by
      refine ih.imp_of_mem fun {a b} ha hb hlt => ?_
      rwa [hfirst a ha, hfirst b hb]
    rw [eraseDups_concat]
    split
    · exact hold
    · rename_i hnew
      refine List.pairwise_append.mpr ⟨hold, List.pairwise_singleton _ _, fun a ha b hb => ?_⟩
      obtain rfl := List.mem_singleton.mp hb
      have hbefore := List.idxOf_lt_length_iff.mpr (List.mem_eraseDups.mp ha)
      rw [hfirst a ha, List.idxOf_append_of_notMem hnew]
      omega

/-- A new key comes last, and a known one stays where it is. -/
theorem keys_upsert (change : κ × α → κ × α) (hchange : ∀ entry, (change entry).1 = entry.1)
    (key : κ) (fresh : α) (entries : List (κ × α)) :
    (upsert (·.1 == key) change (key, fresh) entries).map Prod.fst
      = if key ∈ entries.map Prod.fst then entries.map Prod.fst
        else entries.map Prod.fst ++ [key] := by
  induction entries with
  | nil => rfl
  | cons entry entries ih =>
    unfold upsert
    by_cases h : entry.1 = key
    · simp [h, hchange]
    · have hfits : ¬(entry.1 == key) = true := by simpa using h
      have hmem : key ∈ (entry :: entries).map Prod.fst ↔ key ∈ entries.map Prod.fst := by
        simp [Ne.symm h]
      rw [if_neg hfits, List.map_cons, ih]
      by_cases hknown : key ∈ entries.map Prod.fst
      · rw [if_pos hknown, if_pos (hmem.mpr hknown)]
        rfl
      · rw [if_neg hknown, if_neg (mt hmem.mp hknown)]
        rfl

/-- Where every step adds its key behind all others or finds it there, a run has every key once, in
the order in which they first came. -/
theorem keys_foldl {σ β : Type} (keys : σ → List κ) {step : σ → β → σ} {keyOf : β → κ}
    (hstep : ∀ s b, keys (step s b)
      = if keyOf b ∈ keys s then keys s else keys s ++ [keyOf b])
    {start : σ} (hstart : keys start = []) (steps : List β) :
    keys (steps.foldl step start) = (steps.map keyOf).eraseDups := by
  induction steps using List.reverseRecOn with
  | nil => exact hstart
  | append_singleton steps b ih =>
    rw [List.foldl_append, List.foldl_cons, List.foldl_nil, hstep, ih, List.map_append,
      List.map_singleton, eraseDups_concat]
    simp only [List.mem_eraseDups]

end DtoGen
