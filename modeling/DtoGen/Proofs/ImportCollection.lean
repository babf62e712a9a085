import DtoGen.Dto.File
import DtoGen.Proofs.KeyedLists

namespace DtoGen

namespace Imports

/-- A symbol has been collected, under the module it comes from. -/
def Collects (imports : Imports) (source name : String) : Prop :=
  ∃ entry ∈ imports.entries, entry.1 = source ∧ name ∈ entry.2

theorem mem_insertName {x name : String} {names : List String} :
    x ∈ insertName name names ↔ x = name ∨ x ∈ names := by
  induction names with
  | nil => simp [insertName]
  | cons other names ih =>
    unfold insertName
    split
    · simp
    split
    · simp only [List.mem_cons, ih]
      exact or_left_comm
    · rename_i hlt hgt
      have heq : other = name :=
        String.le_antisymm (String.not_lt.mp hlt) (String.not_lt.mp hgt)
      simp [heq]

theorem collects_upsert {entries : List (String × List String)} {source name s n : String} :
    (∃ entry ∈ upsert (·.1 == source) (fun entry => (entry.1, insertName name entry.2))
        (source, [name]) entries, entry.1 = s ∧ n ∈ entry.2) ↔
      (∃ entry ∈ entries, entry.1 = s ∧ n ∈ entry.2) ∨ (s = source ∧ n = name) := by
  induction entries with
  | nil => simp [upsert, eq_comm]
  | cons entry entries ih =>
    unfold upsert
    split
    · rename_i hfits
      have hsource : entry.1 = source := by simpa using hfits
      simp only [List.mem_cons, exists_eq_or_imp, mem_insertName, hsource]
      constructor
      · rintro (⟨rfl, rfl | hn⟩ | h)
        · exact .inr ⟨rfl, rfl⟩
        · exact .inl (.inl ⟨rfl, hn⟩)
        · exact .inl (.inr h)
      · rintro ((⟨rfl, hn⟩ | h) | ⟨rfl, rfl⟩)
        · exact .inl ⟨rfl, .inr hn⟩
        · exact .inr h
        · exact .inl ⟨rfl, .inl rfl⟩
    · simp only [List.mem_cons, exists_eq_or_imp, ih, or_assoc]

theorem collects_add {imports : Imports} {source name s n : String} :
    (imports.add source name).Collects s n ↔
      imports.Collects s n ∨ (s = source ∧ n = name) :=
  collects_upsert

theorem collects_fold {pairs : List (String × String)} {imports : Imports} {s n : String} :
    (pairs.foldl (fun imports pair => imports.add pair.1 pair.2) imports).Collects s n ↔
      imports.Collects s n ∨ (s, n) ∈ pairs := by
  induction pairs generalizing imports with
  | nil => simp
  | cons pair pairs ih =>
    rw [List.foldl_cons, ih, collects_add, List.mem_cons, or_assoc]
    simp only [Prod.ext_iff]

theorem collects_ofPairs {pairs : List (String × String)} {s n : String} :
    (ofPairs pairs).Collects s n ↔ (s, n) ∈ pairs := by
  rw [ofPairs, collects_fold]
  exact or_iff_right fun ⟨_, h, _⟩ => nomatch h

theorem insertName_ne_nil (name : String) (names : List String) : insertName name names ≠ [] :=
  List.ne_nil_of_mem (mem_insertName.mpr (.inl rfl))

theorem mem_upsert {α : Type} {fits : α → Bool} {change : α → α} {fresh x : α} {xs : List α}
    (h : x ∈ upsert fits change fresh xs) : x = fresh ∨ x ∈ xs ∨ ∃ y ∈ xs, x = change y := by
  induction xs with
  | nil => exact .inl (List.mem_singleton.mp h)
  | cons y ys ih =>
    unfold upsert at h
    split at h
    · rcases List.mem_cons.mp h with rfl | h
      · exact .inr (.inr ⟨y, List.mem_cons_self, rfl⟩)
      · exact .inr (.inl (List.mem_cons_of_mem _ h))
    · rcases List.mem_cons.mp h with rfl | h
      · exact .inr (.inl List.mem_cons_self)
      · rcases ih h with rfl | h | ⟨z, hz, rfl⟩
        · exact .inl rfl
        · exact .inr (.inl (List.mem_cons_of_mem _ h))
        · exact .inr (.inr ⟨z, List.mem_cons_of_mem _ hz, rfl⟩)

theorem fold_names_ne_nil {pairs : List (String × String)} {imports : Imports}
    (h : ∀ entry ∈ imports.entries, entry.2 ≠ []) :
    ∀ entry ∈ (pairs.foldl (fun imports pair => imports.add pair.1 pair.2) imports).entries,
      entry.2 ≠ [] := by
  induction pairs generalizing imports with
  | nil => exact h
  | cons pair pairs ih =>
    refine ih fun entry hmem => ?_
    rcases mem_upsert hmem with rfl | hmem | ⟨old, _, rfl⟩
    · simp
    · exact h entry hmem
    · exact insertName_ne_nil _ _

/-- Sorting packages before relative paths neither loses nor repeats an entry. -/
theorem mem_toList {imports : Imports} {i : Import} :
    i ∈ imports.toList ↔ (i.source, i.names) ∈ imports.entries ∧ i.typeOnly = false := by
  obtain ⟨source, names, typeOnly⟩ := i
  simp only [toList, List.partition_eq_filter_filter, List.mem_map, List.mem_append,
    List.mem_filter, Prod.exists, Import.mk.injEq]
  constructor
  · rintro ⟨s, ns, h, rfl, rfl, rfl⟩
    exact ⟨h.elim And.left And.left, rfl⟩
  · rintro ⟨h, rfl⟩
    refine ⟨source, names, ?_, rfl, rfl, rfl⟩
    cases hr : isRelative source with
    | true => exact .inr ⟨h, rfl⟩
    | false => exact .inl ⟨h, by simp [hr]⟩

theorem collects_iff {imports : Imports} {s n : String} :
    imports.Collects s n ↔ ∃ i ∈ imports.toList, i.source = s ∧ n ∈ i.names := by
  constructor
  · rintro ⟨⟨source, names⟩, h, rfl, hn⟩
    exact ⟨⟨source, names, false⟩, mem_toList.mpr ⟨h, rfl⟩, rfl, hn⟩
  · rintro ⟨i, h, rfl, hn⟩
    exact ⟨(i.source, i.names), (mem_toList.mp h).1, rfl, hn⟩

/-- Sources do not repeat, and neither do the names of a source, which ascend. -/
structure Tidy (imports : Imports) : Prop where
  sources : (imports.entries.map Prod.fst).Nodup
  names : ∀ entry ∈ imports.entries, entry.2.Pairwise (· < ·)

theorem insertName_ascending {name : String} {names : List String}
    (h : names.Pairwise (· < ·)) : (insertName name names).Pairwise (· < ·) := by
  induction names with
  | nil => exact List.pairwise_singleton _ _
  | cons other names ih =>
    obtain ⟨hother, hnames⟩ := List.pairwise_cons.mp h
    unfold insertName
    split
    · rename_i hlt
      refine List.pairwise_cons.mpr ⟨fun x hx => ?_, h⟩
      rcases List.mem_cons.mp hx with rfl | hx
      · exact hlt
      · exact String.lt_trans hlt (hother x hx)
    split
    · rename_i hgt
      refine List.pairwise_cons.mpr ⟨fun x hx => ?_, ih hnames⟩
      rcases mem_insertName.mp hx with rfl | hx
      · exact hgt
      · exact hother x hx
    · exact h

theorem nodup_of_ascending {names : List String} (h : names.Pairwise (· < ·)) : names.Nodup := by
  refine h.imp fun {a b} hlt heq => ?_
  subst heq
  exact String.lt_irrefl a hlt

theorem sources_add (imports : Imports) (source name : String) :
    (imports.add source name).entries.map Prod.fst
      = if source ∈ imports.entries.map Prod.fst then imports.entries.map Prod.fst
        else imports.entries.map Prod.fst ++ [source] :=
  keys_upsert (fun entry => (entry.1, insertName name entry.2)) (fun _ => rfl) source [name]
    imports.entries

theorem Tidy.add {imports : Imports} (h : imports.Tidy) (source name : String) :
    (imports.add source name).Tidy := by
  refine ⟨?_, fun entry hentry => ?_⟩
  · rw [sources_add]
    split
    · exact h.sources
    · rename_i hnew
      exact List.nodup_append.mpr ⟨h.sources, List.nodup_singleton _, fun x hx y hy heq => hnew
        (List.mem_singleton.mp hy ▸ heq ▸ hx)⟩
  · rcases mem_upsert hentry with rfl | hold | ⟨old, hold, rfl⟩
    · exact List.pairwise_singleton _ _
    · exact h.names entry hold
    · exact insertName_ascending (h.names old hold)

theorem Tidy.fold {imports : Imports} (h : imports.Tidy) (pairs : List (String × String)) :
    (pairs.foldl (fun imports pair => imports.add pair.1 pair.2) imports).Tidy := by
  induction pairs generalizing imports with
  | nil => exact h
  | cons pair pairs ih => exact ih (h.add pair.1 pair.2)

theorem tidy_ofPairs (pairs : List (String × String)) : (ofPairs pairs).Tidy :=
  have hempty : empty.Tidy := ⟨List.nodup_nil, fun _ h => nomatch h⟩
  hempty.fold pairs

/-- The entries of the sources that are kept. -/
def only (keeps : String → Bool) (imports : Imports) : Imports :=
  ⟨imports.entries.filter fun entry => keeps entry.1⟩

theorem filter_upsert (keeps : String → Bool) (source name : String)
    (entries : List (String × List String)) :
    (upsert (·.1 == source) (fun entry => (entry.1, insertName name entry.2)) (source, [name])
        entries).filter (fun entry => keeps entry.1)
      = if keeps source then
          upsert (·.1 == source) (fun entry => (entry.1, insertName name entry.2)) (source, [name])
            (entries.filter fun entry => keeps entry.1)
        else entries.filter fun entry => keeps entry.1 := by
  induction entries with
  | nil => cases hk : keeps source <;> simp [upsert, hk]
  | cons entry entries ih =>
    by_cases h : entry.1 = source
    · cases hk : keeps source <;> simp [upsert, h, hk]
    · cases hk : keeps source <;> cases he : keeps entry.1 <;>
        simp [upsert, h, he, ih, hk]

theorem only_add (keeps : String → Bool) (imports : Imports) (source name : String) :
    (imports.add source name).only keeps
      = if keeps source then (imports.only keeps).add source name else imports.only keeps := by
  have h := filter_upsert keeps source name imports.entries
  rw [only, add, h]
  split <;> rfl

theorem only_fold (keeps : String → Bool) (pairs : List (String × String)) (imports : Imports) :
    (pairs.foldl (fun imports pair => imports.add pair.1 pair.2) imports).only keeps
      = (pairs.filter fun pair => keeps pair.1).foldl (fun imports pair => imports.add pair.1 pair.2)
          (imports.only keeps) := by
  induction pairs generalizing imports with
  | nil => rfl
  | cons pair pairs ih =>
    rw [List.foldl_cons, ih, only_add, List.filter_cons]
    split <;> rfl

/-- Collecting for some sources does not depend on what is collected for the others. -/
theorem only_ofPairs (keeps : String → Bool) (pairs : List (String × String)) :
    (ofPairs pairs).only keeps = ofPairs (pairs.filter fun pair => keeps pair.1) :=
  only_fold keeps pairs empty

/-- The statements of packages are those of the entries for packages. -/
theorem filter_toList_packages (imports : Imports) :
    imports.toList.filter (fun i => !isRelative i.source)
      = (imports.only fun source => !isRelative source).entries.map
          fun entry => ⟨entry.1, entry.2, false⟩ := by
  have hrelative : ∀ entry ∈ imports.entries.filter fun entry => isRelative entry.1,
      ¬(!isRelative entry.1) = true := by
    intro entry hentry
    simpa using (List.mem_filter.mp hentry).2
  rw [toList, List.partition_eq_filter_filter]
  simp only [List.filter_map, List.filter_append, Function.comp_def]
  rw [List.filter_eq_nil_iff.mpr hrelative, List.append_nil, List.filter_filter]
  simp [only]

/-- Every source has one statement. -/
theorem Tidy.nodup_sources_toList {imports : Imports} (h : imports.Tidy) :
    (imports.toList.map Import.source).Nodup := by
  have hperm := List.filter_append_perm (fun entry => !isRelative entry.1) imports.entries
  simp only [Bool.not_not] at hperm
  rw [toList, List.partition_eq_filter_filter, List.map_map]
  exact (hperm.map Prod.fst).nodup_iff.mpr h.sources

end Imports

/-- The symbols that a statement names. -/
def Import.symbols (i : Import) : List Symbol :=
  i.names.map (Symbol.mk i.source)

namespace ModelScope

variable {members : List Member}

/-- The imports of a file name the symbols that its members need, and no others. -/
theorem imported_iff {source name : String} :
    (∃ i ∈ importsOf members, i.source = source ∧ name ∈ i.names) ↔
      ∃ member ∈ members, (⟨source, name⟩ : Symbol) ∈ member.symbols := by
  rw [importsOf, ← Imports.collects_iff, Imports.collects_ofPairs, List.mem_map]
  constructor
  · rintro ⟨⟨s, n⟩, h, heq⟩
    obtain ⟨rfl, rfl⟩ := Prod.mk.inj heq
    exact List.mem_flatMap.mp h
  · intro h
    exact ⟨⟨source, name⟩, List.mem_flatMap.mpr h, rfl⟩

/-- No import is there for its side effect only. -/
theorem names_ne_nil {i : Import} (h : i ∈ importsOf members) : i.names ≠ [] :=
  Imports.fold_names_ne_nil (by simp [Imports.empty]) _ (Imports.mem_toList.mp h).1

theorem mem_symbols {symbol : Symbol} :
    symbol ∈ (importsOf members).flatMap Import.symbols ↔
      symbol ∈ members.flatMap Member.symbols := by
  rw [List.mem_flatMap (f := Member.symbols), ← imported_iff, List.mem_flatMap]
  refine exists_congr fun i => and_congr_right fun _ => ?_
  rw [Import.symbols, List.mem_map]
  constructor
  · rintro ⟨name, hname, rfl⟩
    exact ⟨rfl, hname⟩
  · rintro ⟨hsource, hname⟩
    exact ⟨symbol.name, hname, by rw [hsource]⟩

/-- No symbol is imported twice. -/
theorem nodup_symbols (members : List Member) :
    ((importsOf members).flatMap Import.symbols).Nodup := by
  have htidy := Imports.tidy_ofPairs
    ((members.flatMap Member.symbols).map fun symbol => (symbol.source, symbol.name))
  rw [List.nodup_flatMap]
  constructor
  · intro i hi
    have hascending := htidy.names _ (Imports.mem_toList.mp hi).1
    exact (Imports.nodup_of_ascending hascending).map fun a b h => (Symbol.mk.inj h).2
  · have hsources := List.pairwise_map.mp htidy.nodup_sources_toList
    refine hsources.imp fun {i j} hne symbol hi hj => ?_
    obtain ⟨_, _, rfl⟩ := List.mem_map.mp hi
    obtain ⟨_, _, heq⟩ := List.mem_map.mp hj
    exact hne (Symbol.mk.inj heq).1.symm

theorem names_eq_map_symbols (imports : List Import) :
    imports.flatMap Import.names = (imports.flatMap Import.symbols).map Symbol.name := by
  rw [List.map_flatMap]
  simp only [Import.symbols, List.map_map, Function.comp_def, List.map_id']

/-- Imported names differ exactly if no two symbols have one name. -/
theorem nodup_names_iff : ((importsOf members).flatMap Import.names).Nodup ↔
    ∀ a ∈ members.flatMap Member.symbols, ∀ b ∈ members.flatMap Member.symbols,
      a.name = b.name → a = b := by
  rw [names_eq_map_symbols, List.nodup_map_iff_inj_on (nodup_symbols members)]
  simp only [mem_symbols]

end ModelScope

end DtoGen
