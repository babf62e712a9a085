import DtoGen.Config.File
import DtoGen.Proofs.OptionBag

namespace DtoGen

namespace Toml

/-- If the value is a table, its keys are different. -/
def DistinctKeys : Toml → Prop
  | table entries => (entries.map Prod.fst).Nodup
  | _ => True

namespace Node

/-- If the node is a table, its keys are different. -/
def DistinctKeys : Node → Prop
  | value v => v.DistinctKeys
  | table _ entries => (entries.map Prod.fst).Nodup
  | tables _ _ => True

end Node

namespace Entries

/-- The tables right below have different keys. -/
def InnerDistinct (entries : Entries) : Prop :=
  ∀ entry ∈ entries, entry.2.DistinctKeys

theorem mem_put {key : String} {node : Node} {entries : Entries} {entry : String × Node}
    (h : entry ∈ put key node entries) : entry = (key, node) ∨ entry ∈ entries := by
  induction entries with
  | nil => exact .inl (List.mem_singleton.mp h)
  | cons head entries ih =>
    obtain ⟨k, n⟩ := head
    rw [put] at h
    split at h
    · exact (List.mem_cons.mp h).imp_right (List.mem_cons_of_mem _)
    · rcases List.mem_cons.mp h with rfl | h
      · exact .inr List.mem_cons_self
      · exact (ih h).imp_right (List.mem_cons_of_mem _)

theorem nodup_put {entries : Entries} (h : (entries.map Prod.fst).Nodup) (key : String)
    (node : Node) : ((put key node entries).map Prod.fst).Nodup := by
  induction entries with
  | nil => exact List.nodup_singleton key
  | cons head entries ih =>
    obtain ⟨k, n⟩ := head
    rw [put]
    split
    · rename_i hkey
      subst hkey
      exact h
    · rename_i hkey
      obtain ⟨hk, hentries⟩ := List.nodup_cons.mp h
      refine List.nodup_cons.mpr ⟨fun hmem => ?_, ih hentries⟩
      obtain ⟨entry, hentry, hk'⟩ := List.mem_map.mp hmem
      rcases mem_put hentry with rfl | hentry
      · exact hkey hk'.symm
      · exact hk (hk' ▸ List.mem_map_of_mem hentry)

/-- What an addition does to a table: it puts a node that has no key twice under a key. -/
def Puts (change : Entries → Option Entries) : Prop :=
  ∀ {entries changed : Entries}, change entries = some changed →
    ∃ key node, changed = put key node entries ∧ (entries.InnerDistinct → node.DistinctKeys)

variable {change : Entries → Option Entries} {entries changed : Entries}

theorem Puts.nodup (h : Puts change) (hchanged : change entries = some changed)
    (hkeys : (entries.map Prod.fst).Nodup) : (changed.map Prod.fst).Nodup := by
  obtain ⟨key, node, rfl, _⟩ := h hchanged
  exact nodup_put hkeys key node

theorem Puts.innerDistinct (h : Puts change) (hchanged : change entries = some changed)
    (hinner : entries.InnerDistinct) : changed.InnerDistinct := by
  obtain ⟨key, node, rfl, hnode⟩ := h hchanged
  intro entry hentry
  rcases mem_put hentry with rfl | hentry
  · exact hnode hinner
  · exact hinner entry hentry

theorem puts_openTable (key : String) : Puts (openTable key) := by
  intro entries changed h
  unfold openTable at h
  split at h
  · exact ⟨key, _, (Option.some.inj h).symm, fun _ => List.nodup_nil⟩
  · rename_i inner hlookup
    exact ⟨key, _, (Option.some.inj h).symm, fun hinner => hinner _ (mem_of_lookup hlookup)⟩
  · cases h

theorem puts_openElement (key : String) : Puts (openElement key) := by
  intro entries changed h
  unfold openElement at h
  split at h
  · exact ⟨key, _, (Option.some.inj h).symm, fun _ => trivial⟩
  · exact ⟨key, _, (Option.some.inj h).symm, fun _ => trivial⟩
  · cases h

theorem puts_insert (key : String) {value : Toml} (h : value.DistinctKeys) :
    Puts (insert key value) := by
  intro entries changed hchanged
  unfold insert at hchanged
  split at hchanged
  · cases hchanged
  · exact ⟨key, _, (Option.some.inj hchanged).symm, fun _ => h⟩

/-- An addition further down puts the table on the way back, changed. -/
theorem eq_put_of_inner {key : String} {wrap : Entries → Node} {inner : Option Entries}
    (h : (do let node ← inner.map wrap; some (put key node entries)) = some changed) :
    ∃ filled, inner = some filled ∧ changed = put key (wrap filled) entries := by
  obtain ⟨node, hnode, hput⟩ := Option.bind_eq_some_iff.mp h
  obtain ⟨filled, hfilled, rfl⟩ := Option.map_eq_some_iff.mp hnode
  exact ⟨filled, hfilled, (Option.some.inj hput).symm⟩

theorem puts_insertDotted {value : Toml} (h : value.DistinctKeys) (keys : List String) :
    Puts (insertDotted value keys) := by
  induction keys with
  | nil =>
    intro entries changed hchanged
    cases hchanged
  | cons key keys ih =>
    cases keys with
    | nil => exact puts_insert key h
    | cons next keys =>
      -- The table further down is filled by `ih`; at this level it is put back under its key.
      intro entries changed hchanged
      simp only [insertDotted] at hchanged
      split at hchanged
      · obtain ⟨filled, hfilled, rfl⟩ := eq_put_of_inner hchanged
        exact ⟨key, _, rfl, fun _ => ih.nodup hfilled List.nodup_nil⟩
      · rename_i origin inner hlookup
        split at hchanged
        · cases hchanged
        · obtain ⟨filled, hfilled, rfl⟩ := eq_put_of_inner hchanged
          exact ⟨key, _, rfl, fun hinner =>
            ih.nodup hfilled (hinner _ (mem_of_lookup hlookup))⟩
      · split at hchanged
        · cases hchanged
        · obtain ⟨filled, _, rfl⟩ := eq_put_of_inner hchanged
          exact ⟨key, _, rfl, fun _ => trivial⟩
      · cases hchanged

theorem puts_atHeader (h : Puts change) (header : List String) :
    Puts (atHeader change header) := by
  induction header with
  | nil => exact h
  | cons key header ih =>
    intro entries changed hchanged
    simp only [atHeader] at hchanged
    split at hchanged
    · obtain ⟨filled, hfilled, rfl⟩ := eq_put_of_inner hchanged
      exact ⟨key, _, rfl, fun _ => ih.nodup hfilled List.nodup_nil⟩
    · rename_i origin inner hlookup
      obtain ⟨filled, hfilled, rfl⟩ := eq_put_of_inner hchanged
      exact ⟨key, _, rfl, fun hinner => ih.nodup hfilled (hinner _ (mem_of_lookup hlookup))⟩
    · obtain ⟨filled, _, rfl⟩ := eq_put_of_inner hchanged
      exact ⟨key, _, rfl, fun _ => trivial⟩
    · cases hchanged

end Entries

theorem keys_entriesToToml (entries : Entries) :
    (entriesToToml entries).map Prod.fst = entries.map Prod.fst := by
  induction entries with
  | nil => rfl
  | cons entry entries ih =>
    obtain ⟨key, node⟩ := entry
    rw [entriesToToml, List.map_cons, List.map_cons, ih]

theorem mem_entriesToToml {entries : Entries} {key : String} {v : Toml}
    (h : (key, v) ∈ entriesToToml entries) : ∃ node, (key, node) ∈ entries ∧ v = node.toToml := by
  induction entries with
  | nil => cases h
  | cons entry entries ih =>
    obtain ⟨k, node⟩ := entry
    rw [entriesToToml] at h
    rcases List.mem_cons.mp h with heq | h
    · obtain ⟨rfl, rfl⟩ := Prod.mk.inj heq
      exact ⟨node, List.mem_cons_self, rfl⟩
    · obtain ⟨other, hother, rfl⟩ := ih h
      exact ⟨other, List.mem_cons_of_mem _ hother, rfl⟩

theorem Node.DistinctKeys.toToml {node : Node} (h : node.DistinctKeys) :
    node.toToml.DistinctKeys := by
  cases node with
  | value v => exact h
  | table origin entries =>
    change ((entriesToToml entries).map Prod.fst).Nodup
    rw [keys_entriesToToml]
    exact h
  | tables closed last => trivial

theorem distinctKeys_scalar? {cs : List Char} {v : Toml} (h : scalar? cs = some v) :
    v.DistinctKeys := by
  have htable : ∀ entries, scalar? cs ≠ some (table entries) := by
    intro entries
    unfold scalar?
    split
    · nofun
    split
    · nofun
    · cases integer? cs <;> cases float? cs <;> cases moment? cs <;> simp
  cases v with
  | table entries => exact absurd h (htable entries)
  | _ => trivial

theorem distinctKeys_of_map {α : Type} {read : Option α} {f : α → Toml × List Char}
    {v : Toml} {rest : List Char} (h : read.map f = some (v, rest))
    (hread : ∀ a, read = some a → (f a).1.DistinctKeys) : v.DistinctKeys := by
  obtain ⟨a, ha, heq⟩ := Option.map_eq_some_iff.mp h
  have hv := hread a ha
  rwa [heq] at hv

theorem distinctKeys_scalar {cs rest : List Char} {v : Toml} (h : scalar cs = some (v, rest)) :
    v.DistinctKeys := by
  unfold scalar at h
  simp only at h
  split at h
  · split at h
    · exact distinctKeys_of_map h fun _ => distinctKeys_scalar?
    · exact distinctKeys_of_map h fun _ => distinctKeys_scalar?
  · exact distinctKeys_of_map h fun _ => distinctKeys_scalar?

theorem nodup_tableEntries {element : Parser Toml}
    (helement : ∀ {cs v rest}, element cs = some (v, rest) → v.DistinctKeys) {fuel : Nat}
    {entries filled : Entries} {cs rest : List Char}
    (h : tableEntries element fuel entries cs = some (filled, rest))
    (hkeys : (entries.map Prod.fst).Nodup) : (filled.map Prod.fst).Nodup := by
  induction fuel generalizing entries cs with
  | zero => cases h
  | succ fuel ih =>
    rw [tableEntries] at h
    obtain ⟨behind, _, h⟩ := Option.bind_eq_some_iff.mp h
    split at h
    · cases h
      exact hkeys
    · obtain ⟨⟨key, cs⟩, _, h⟩ := Option.bind_eq_some_iff.mp h
      obtain ⟨⟨v, cs⟩, hv, h⟩ := Option.bind_eq_some_iff.mp h
      obtain ⟨changed, hchanged, h⟩ := Option.bind_eq_some_iff.mp h
      obtain ⟨behind, _, h⟩ := Option.bind_eq_some_iff.mp h
      have hnodup := Entries.Puts.nodup (Entries.puts_insertDotted (helement hv) key) hchanged hkeys
      split at h
      · exact ih h hnodup
      · cases h
        exact hnodup
      · cases h

theorem distinctKeys_value {depth : Nat} {cs rest : List Char} {v : Toml}
    (h : value depth cs = some (v, rest)) : v.DistinctKeys := by
  induction depth generalizing cs v rest with
  | zero =>
    unfold value at h
    split at h
    · cases h
    · cases h
    · exact distinctKeys_of_map h fun _ _ => trivial
    · exact distinctKeys_of_map h fun _ _ => trivial
    · exact distinctKeys_scalar h
  | succ depth ih =>
    unfold value at h
    split at h
    · exact distinctKeys_of_map h fun _ _ => trivial
    · refine distinctKeys_of_map h fun read hread => ?_
      change ((entriesToToml read.1).map Prod.fst).Nodup
      rw [keys_entriesToToml]
      exact nodup_tableEntries ih hread List.nodup_nil
    · exact distinctKeys_of_map h fun _ _ => trivial
    · exact distinctKeys_of_map h fun _ _ => trivial
    · exact distinctKeys_scalar h

theorem Draft.innerDistinct_open? {draft opened : Draft} {header : List String}
    {change : String → Entries → Option Entries} (hputs : ∀ key, Entries.Puts (change key))
    (h : draft.open? change header = some opened) (hroot : draft.root.InnerDistinct) :
    opened.root.InnerDistinct := by
  obtain ⟨key, _, h⟩ := Option.bind_eq_some_iff.mp h
  obtain ⟨root, hchanged, h⟩ := Option.bind_eq_some_iff.mp h
  obtain rfl := Option.some.inj h
  exact Entries.Puts.innerDistinct (Entries.puts_atHeader (hputs key) _) hchanged hroot

theorem Draft.innerDistinct_insert? {draft filled : Draft} {key : List String} {v : Toml}
    (hv : v.DistinctKeys) (h : draft.insert? key v = some filled)
    (hroot : draft.root.InnerDistinct) : filled.root.InnerDistinct := by
  obtain ⟨root, hchanged, h⟩ := Option.bind_eq_some_iff.mp h
  obtain rfl := Option.some.inj h
  exact Entries.Puts.innerDistinct
    (Entries.puts_atHeader (Entries.puts_insertDotted hv key) _) hchanged hroot

theorem innerDistinct_line {draft next : Draft} {cs rest : List Char}
    (h : line draft cs = some (next, rest)) (hroot : draft.root.InnerDistinct) :
    next.root.InnerDistinct := by
  unfold line at h
  split at h
  · obtain ⟨⟨header, behind⟩, _, h⟩ := Option.bind_eq_some_iff.mp h
    simp only at h
    split at h
    · obtain ⟨opened, hopened, h⟩ := Option.bind_eq_some_iff.mp h
      cases h
      exact Draft.innerDistinct_open? Entries.puts_openElement hopened hroot
    · cases h
  · obtain ⟨⟨header, behind⟩, _, h⟩ := Option.bind_eq_some_iff.mp h
    obtain ⟨opened, hopened, h⟩ := Option.bind_eq_some_iff.mp h
    cases h
    exact Draft.innerDistinct_open? Entries.puts_openTable hopened hroot
  · obtain ⟨⟨key, behind⟩, _, h⟩ := Option.bind_eq_some_iff.mp h
    obtain ⟨⟨v, behind⟩, hv, h⟩ := Option.bind_eq_some_iff.mp h
    obtain ⟨filled, hfilled, h⟩ := Option.bind_eq_some_iff.mp h
    cases h
    exact Draft.innerDistinct_insert? (distinctKeys_value hv) hfilled hroot

theorem innerDistinct_lines {fuel : Nat} {draft last : Draft} {cs : List Char}
    (h : lines fuel draft cs = some last) (hroot : draft.root.InnerDistinct) :
    last.root.InnerDistinct := by
  induction fuel generalizing draft cs with
  | zero => cases h
  | succ fuel ih =>
    rw [lines] at h
    obtain ⟨behind, _, h⟩ := Option.bind_eq_some_iff.mp h
    split at h
    · cases h
      exact hroot
    · obtain ⟨⟨next, rest⟩, hline, h⟩ := Option.bind_eq_some_iff.mp h
      obtain ⟨behind, _, h⟩ := Option.bind_eq_some_iff.mp h
      exact ih h (innerDistinct_line hline hroot)

/-- No table right below the root of a document has a key twice. -/
theorem distinctKeys_of_parse {text key : String} {v : Toml} {document : List (String × Toml)}
    (h : parse text = some document) (hv : document.lookup key = some v) : v.DistinctKeys := by
  obtain ⟨draft, hlines, rfl⟩ := Option.map_eq_some_iff.mp h
  obtain ⟨node, hnode, rfl⟩ := mem_entriesToToml (mem_of_lookup hv)
  have hroot := innerDistinct_lines hlines (fun _ hentry => by cases hentry)
  exact (hroot _ hnode).toToml

theorem keys_settleEntries? {entries settled : List (String × Toml)}
    (h : settleEntries? entries = some settled) :
    settled.map Prod.fst = entries.map Prod.fst := by
  induction entries generalizing settled with
  | nil =>
    cases h
    rfl
  | cons entry entries ih =>
    obtain ⟨key, v⟩ := entry
    rw [settleEntries?] at h
    obtain ⟨value, _, h⟩ := Option.bind_eq_some_iff.mp h
    obtain ⟨rest, hrest, h⟩ := Option.bind_eq_some_iff.mp h
    cases h
    rw [List.map_cons, List.map_cons, ih hrest]

end Toml

namespace ConfigFile

open Toml

/-- The table of a configuration, as it is read from the text. -/
def table? (content : String) : Option (List (String × Toml)) :=
  (Toml.parse content).bind generatorTable?

theorem byKey_perm (entries : List (String × Toml)) : (byKey entries).Perm entries :=
  List.mergeSort_perm _ _

theorem nodup_table {content : String} {table : List (String × Toml)}
    (h : table? content = some table) : (table.map Prod.fst).Nodup := by
  obtain ⟨document, hdocument, htable⟩ := Option.bind_eq_some_iff.mp h
  unfold generatorTable? at htable
  simp only at htable
  split at htable
  · cases htable
  split at htable
  · cases htable
    exact List.nodup_nil
  · rename_i entries hlookup
    obtain ⟨settled, hsettled, rfl⟩ := Option.map_eq_some_iff.mp htable
    have hkeys : (entries.map Prod.fst).Nodup := distinctKeys_of_parse hdocument hlookup
    rw [← keys_settleEntries? hsettled] at hkeys
    exact ((byKey_perm settled).map Prod.fst).nodup_iff.mpr hkeys
  · cases htable
    exact List.nodup_singleton _
  · cases htable

/-- The file that is read from a table. -/
def ofTable (content name : String) (table : List (String × Toml)) : ConfigFile where
  path := ⟨name⟩
  content := content
  output := (table.lookup "output").map Toml.scalarText
  schema := (((table.lookup "schema").map Toml.scalarText).filter (· != "")).map Path.mk
  options := optionsOf table

theorem parse_eq {content : String} {table : List (String × Toml)}
    (h : table? content = some table) (name : String) :
    parse content name = .ok (ofTable content name table) := by
  unfold table? at h
  unfold parse
  rw [h]
  rfl

/-- A table with a text under every key. -/
def ofTexts (pairs : List (String × String)) : List (String × Toml) :=
  pairs.map fun pair => (pair.1, .text pair.2)

def textEntries? : List (String × Toml) → Option (List (String × String))
  | [] => some []
  | (key, .text s) :: entries => (textEntries? entries).map ((key, s) :: ·)
  | _ => none

/-- What a document says that is a table of texts and nothing else. -/
def textTable? (content : String) : Option (List (String × String)) :=
  match Toml.parse content with
  | some [(key, .table entries)] => if key = generatorKey then textEntries? entries else none
  | _ => none

theorem eq_ofTexts {entries : List (String × Toml)} {pairs : List (String × String)}
    (h : textEntries? entries = some pairs) : entries = ofTexts pairs := by
  fun_induction textEntries? entries generalizing pairs with
  | case1 =>
    cases h
    rfl
  | case2 key s entries ih =>
    obtain ⟨rest, hrest, rfl⟩ := Option.map_eq_some_iff.mp h
    rw [ih hrest]
    rfl
  | case3 => cases h

theorem settleEntries?_ofTexts (pairs : List (String × String)) :
    Toml.settleEntries? (ofTexts pairs) = some (ofTexts pairs) := by
  induction pairs with
  | nil => rfl
  | cons pair pairs ih =>
    change ((Toml.settleEntries? (ofTexts pairs)).bind fun rest =>
      some ((pair.1, .text pair.2) :: rest)) = _
    rw [ih]
    rfl

theorem table?_of_texts {content : String} {pairs : List (String × String)}
    (h : textTable? content = some pairs) (hsorted : pairs.Pairwise fun a b => a.1 ≤ b.1) :
    table? content = some (ofTexts pairs) := by
  unfold textTable? at h
  split at h
  · rename_i key entries hparse
    split at h
    · rename_i hkey
      obtain rfl := eq_ofTexts h
      have hbyKey : byKey (ofTexts pairs) = ofTexts pairs :=
        List.mergeSort_of_pairwise
          (List.pairwise_map.mpr (hsorted.imp fun hle => decide_eq_true hle))
      subst hkey
      unfold table?
      rw [hparse, Option.bind_some]
      simp [generatorTable?, Toml.entriesAreReadable, settleEntries?_ofTexts, hbyKey]
    · cases h
  · cases h

theorem lookup_ofTexts (pairs : List (String × String)) (key : String) :
    (ofTexts pairs).lookup key = (pairs.lookup key).map Toml.text := by
  induction pairs with
  | nil => rfl
  | cons pair pairs ih =>
    change ((pair.1, Toml.text pair.2) :: ofTexts pairs).lookup key = _
    rw [lookup_cons_ite, lookup_cons_ite, ih]
    split <;> rfl

end ConfigFile

end DtoGen
