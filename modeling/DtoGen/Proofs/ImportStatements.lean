import DtoGen.Proofs.ImportCollection
import DtoGen.Proofs.RenderedLines

namespace DtoGen

namespace Imports

/-- The sources in the order in which they were first added. -/
def sourcesOf (pairs : List (String × String)) : List String :=
  (pairs.map Prod.fst).eraseDups

theorem sources_ofPairs (pairs : List (String × String)) :
    (ofPairs pairs).entries.map Prod.fst = sourcesOf pairs :=
  keys_foldl (fun imports : Imports => imports.entries.map Prod.fst)
    (fun imports pair => sources_add imports pair.1 pair.2) rfl pairs

theorem isRelative_iff {source : String} :
    isRelative source = true ↔ source.toList.head? = some '.' :=
  beq_iff_eq

theorem sources_toList (imports : Imports) : imports.toList.map Import.source
    = (imports.entries.map Prod.fst).filter (fun source => !isRelative source)
      ++ (imports.entries.map Prod.fst).filter isRelative := by
  rw [toList, List.partition_eq_filter_filter, List.map_map, List.map_append, List.filter_map,
    List.filter_map]
  rfl

/-- Names that ascend are told by what names there are. -/
theorem eq_of_ascending {names others : List String} (h : names.Pairwise (· < ·))
    (h' : others.Pairwise (· < ·)) (hsame : ∀ name, name ∈ names ↔ name ∈ others) :
    names = others := by
  have hperm :=
    (List.perm_ext_iff_of_nodup (nodup_of_ascending h) (nodup_of_ascending h')).mpr hsame
  refine List.Perm.eq_of_pairwise (fun a b _ _ hab hba => ?_) h h' hperm
  exact absurd hba (String.lt_asymm hab)

theorem Tidy.mem_iff_collects {imports : Imports} (h : imports.Tidy) {source name : String}
    {names : List String} (hentry : (source, names) ∈ imports.entries) :
    name ∈ names ↔ imports.Collects source name := by
  refine ⟨fun hname => ⟨_, hentry, rfl, hname⟩, ?_⟩
  rintro ⟨⟨other, others⟩, hother, rfl, hname⟩
  have hlookup := (lookup_eq_some_iff_mem h.sources).mpr hentry
  rw [(lookup_eq_some_iff_mem h.sources).mpr hother] at hlookup
  exact Option.some.inj hlookup ▸ hname

theorem Tidy.has_iff {imports : Imports} (h : imports.Tidy) {source name : String} :
    imports.has source name = true ↔ imports.Collects source name := by
  have hlookup := map_find?_eq_lookup imports.entries source
  unfold Imports.has
  cases hfind : imports.entries.find? (·.1 == source) with
  | none =>
    rw [hfind, Option.map_none, eq_comm, lookup_eq_none_iff_notMem] at hlookup
    refine ⟨fun hfalse => (nomatch hfalse), ?_⟩
    rintro ⟨entry, hentry, rfl, _⟩
    exact absurd (List.mem_map_of_mem hentry) hlookup
  | some entry =>
    rw [hfind, Option.map_some] at hlookup
    rw [← h.mem_iff_collects (mem_of_lookup hlookup.symm)]
    exact List.contains_iff_mem

/-- What statements there are depends on the set of the pairs only. -/
theorem mem_toList_ofPairs {pairs : List (String × String)} {i : Import} :
    i ∈ (ofPairs pairs).toList ↔ i.source ∈ pairs.map Prod.fst ∧ i.names.Pairwise (· < ·) ∧
      (∀ name, name ∈ i.names ↔ (i.source, name) ∈ pairs) ∧ i.typeOnly = false := by
  have htidy := tidy_ofPairs pairs
  have hnames : ∀ {source : String} {names : List String},
      (source, names) ∈ (ofPairs pairs).entries → ∀ name, name ∈ names ↔ (source, name) ∈ pairs :=
    fun hentry _ => (htidy.mem_iff_collects hentry).trans collects_ofPairs
  have hsource : i.source ∈ (ofPairs pairs).entries.map Prod.fst ↔ i.source ∈ pairs.map Prod.fst := by
    rw [sources_ofPairs, sourcesOf, List.mem_eraseDups]
  rw [mem_toList]
  constructor
  · rintro ⟨hentry, htype⟩
    exact ⟨hsource.mp (List.mem_map_of_mem hentry), htidy.names _ hentry, hnames hentry, htype⟩
  · rintro ⟨hadded, hascending, hmem, htype⟩
    obtain ⟨⟨source, names⟩, hentry, heq⟩ := List.mem_map.mp (hsource.mpr hadded)
    obtain rfl : source = i.source := heq
    have hsame : names = i.names := eq_of_ascending (htidy.names _ hentry) hascending fun name =>
      (hnames hentry name).trans (hmem name).symm
    exact ⟨hsame ▸ hentry, htype⟩

theorem statement_of_mem {pairs : List (String × String)} {i : Import}
    (h : i ∈ (ofPairs pairs).toList) : i.statement
      = "import \x7b " ++ ", ".intercalate i.names ++ " \x7d from '" ++ i.source ++ "';" := by
  obtain ⟨hsource, _, hnames, htype⟩ := mem_toList_ofPairs.mp h
  obtain ⟨⟨source, name⟩, hpair, heq⟩ := List.mem_map.mp hsource
  obtain rfl : source = i.source := heq
  have hfilled : i.names.isEmpty = false :=
    List.isEmpty_eq_false_iff_exists_mem.mpr ⟨name, (hnames name).mpr hpair⟩
  rw [Import.statement, hfilled, htype]
  simp [String.append_assoc]

theorem toList_perm {pairs others : List (String × String)}
    (h : ∀ pair, pair ∈ pairs ↔ pair ∈ others) :
    (ofPairs pairs).toList.Perm (ofPairs others).toList := by
  have hnodup : ∀ pairs, (ofPairs pairs).toList.Nodup := fun pairs =>
    (tidy_ofPairs pairs).nodup_sources_toList.of_map
  refine (List.perm_ext_iff_of_nodup (hnodup pairs) (hnodup others)).mpr fun i => ?_
  simp only [mem_toList_ofPairs, List.mem_map, h]

/-- What there is to know about the statements of a collection. -/
structure Collected (pairs : List (String × String)) : Prop where
  /-- Packages first, then relative paths, both as they were first added. -/
  sources : (ofPairs pairs).toList.map Import.source
    = (sourcesOf pairs).filter (fun source => source.toList.head? ≠ some '.')
      ++ (sourcesOf pairs).filter (fun source => source.toList.head? = some '.')
  once : ((ofPairs pairs).toList.map Import.source).Nodup
  complete : ∀ source, source ∈ (ofPairs pairs).toList.map Import.source ↔
    ∃ name, (source, name) ∈ pairs
  names : ∀ i ∈ (ofPairs pairs).toList, i.names.Pairwise (· < ·) ∧
    ∀ name, name ∈ i.names ↔ (i.source, name) ∈ pairs
  text : ∀ i ∈ (ofPairs pairs).toList, ∀ indent, Fragment.render indent i.fragments
    = "import \x7b " ++ ", ".intercalate i.names ++ " \x7d from '" ++ i.source ++ "';\n"
  has : ∀ source name, (ofPairs pairs).has source name = true ↔ (source, name) ∈ pairs
  /-- Neither the order of what is added counts, nor what is added again. -/
  sameSet : ∀ others : List (String × String), (∀ pair, pair ∈ pairs ↔ pair ∈ others) →
    (ofPairs pairs).toList.Perm (ofPairs others).toList ∧
    ∀ i ∈ (ofPairs pairs).toList, ∀ j ∈ (ofPairs others).toList, i.source = j.source →
      ∀ indent, Fragment.render indent i.fragments = Fragment.render indent j.fragments

theorem statements_of_pairs (pairs : List (String × String)) : Collected pairs where
  sources := by
    rw [sources_toList, sources_ofPairs]
    congr 1
    · refine List.filter_congr fun source _ => ?_
      rw [Bool.eq_iff_iff, decide_eq_true_iff, Bool.not_eq_true', ← Bool.not_eq_true,
        isRelative_iff]
    · refine List.filter_congr fun source _ => ?_
      rw [Bool.eq_iff_iff, decide_eq_true_iff, isRelative_iff]
  once := (tidy_ofPairs pairs).nodup_sources_toList
  complete source := by
    constructor
    · intro h
      obtain ⟨i, hi, rfl⟩ := List.mem_map.mp h
      obtain ⟨⟨_, name⟩, hpair, rfl⟩ := List.mem_map.mp (mem_toList_ofPairs.mp hi).1
      exact ⟨name, hpair⟩
    · rintro ⟨name, hpair⟩
      obtain ⟨i, hi, rfl, _⟩ := collects_iff.mp (collects_ofPairs.mpr hpair)
      exact List.mem_map_of_mem hi
  names i h := by
    obtain ⟨_, hascending, hnames, _⟩ := mem_toList_ofPairs.mp h
    exact ⟨hascending, hnames⟩
  text i h indent := by
    rw [Import.render_fragments, statement_of_mem h]
    simp [String.append_assoc]
  has source name := (tidy_ofPairs pairs).has_iff.trans collects_ofPairs
  sameSet others h := by
    refine ⟨toList_perm h, fun i hi j hj hsource indent => ?_⟩
    have hother := (toList_perm h).mem_iff.mpr hj
    rw [List.inj_on_of_nodup_map (tidy_ofPairs pairs).nodup_sources_toList hi hother hsource]

end Imports

end DtoGen
