/-
**The definitions in a folder.**

The definitions in a folder are looked for by patterns made of its path, one for each ending.  As
long as the path is without signs, what is found is every entry of the folder whose name has such an
ending, once, and sorting puts the names in the order of their octets.  The definitions are then
loaded one by one, and the first that cannot be ends it.  Nothing else matters, neither other names
nor other folders.  Where the path has a sign, other places are searched: the folder `s[1]` is not
where the pattern `s[1]` leads.

Main definitions:

* `Folder.IsDefinitionName` — a name that a definition may have;
* `Folder.Listing` — the names of the definitions in a folder, in the order of their octets;
* `Folder.InTurn` — loading one by one, up to the first that fails;
* `Folder.AlikeAt` — two folders in which the same definitions lie at two paths.

Main results:

* `Folder.mem_childNames_iff` — what lies in a folder;
* `Folder.sortSteps_below` — the paths of entries of one folder are in the order of their names;
* `Folder.loadDefinitions_of_plain` — **all definitions of a folder are loaded, in order**;
* `Folder.loadDefinitions_ne_of_sign` — those of a folder whose path has a sign may be missed.
-/

import HttpProbe.Folder.Loading
import HttpProbe.Proofs.Decoding
import HttpProbe.Proofs.Octets
import HttpProbe.Proofs.Patterns
import Mathlib.Data.List.Nodup

set_option autoImplicit false
set_option relaxedAutoImplicit false

namespace HttpProbe.Folder

-- Lists are compared as in the core library, also where Mathlib is in scope.
attribute [local instance (1100)] List.instLE List.decidableLE

/-! ### What lies in a folder -/

theorem nameIn?_eq_some_iff {p q : Path} {name : String} :
    nameIn? p q = some name ↔ q = p ++ [name] := by
  cases hlast : q.getLast? with
  | none => simp [nameIn?, List.getLast?_eq_none_iff.1 hlast]
  | some last =>
      obtain ⟨front, rfl⟩ := List.getLast?_eq_some_iff.1 hlast
      by_cases hp : front = p
      · simp [nameIn?, hp]
      · simp [nameIn?, hp]

theorem isSome_entry?_iff {f : Folder} {p : Path} {name : String} :
    (f.entry? (p ++ [name])).isSome ↔ p ++ [name] ∈ f.entries.map Prod.fst := by
  rw [ entry?, if_neg (by simp), List.lookup_isSome_iff]
  simp

/-- **What lies in a folder.** -/
theorem mem_childNames_iff {f : Folder} {p : Path} {name : String} :
    name ∈ f.childNames p ↔ (f.entry? (p ++ [name])).isSome := by
  rw [isSome_entry?_iff, childNames, List.mem_filterMap]
  simp [nameIn?_eq_some_iff]

theorem nodup_childNames (f : Folder) (p : Path) : (f.childNames p).Nodup := by
  refine List.Nodup.filterMap (fun q r name hq hr => ?_) f.nodup
  rw [nameIn?_eq_some_iff.1 hq, nameIn?_eq_some_iff.1 hr]

/-! ### The names of definitions -/

/-- A name that a definition may have. -/
def IsDefinitionName (name : String) : Prop := ∃ ending ∈ endings, Text.endsWith name ending = true

instance : DecidablePred IsDefinitionName := fun name =>
  List.decidableBEx (fun ending => Text.endsWith name ending = true) endings

theorem plain_of_mem_endings : ∀ ending ∈ endings, Plain ending := by
  decide

/-- No name has two of the endings. -/
theorem ending_unique {name e d : String} (he : e ∈ endings) (hd : d ∈ endings)
    (hname : Text.endsWith name e = true) (hother : Text.endsWith name d = true) : e = d := by
  have hall : ∀ e ∈ endings, ∀ d ∈ endings, e.toList <:+ d.toList → e = d := by decide
  have hfirst : e.toList <:+ name.toList := List.isSuffixOf_iff_suffix.1 hname
  have hsecond : d.toList <:+ name.toList := List.isSuffixOf_iff_suffix.1 hother
  rcases List.suffix_or_suffix_of_suffix hfirst hsecond with h | h
  · exact hall e he d hd h
  · exact (hall d hd e he h).symm

/-- The name of a definition is not read as a step that stays or goes up. -/
theorem ne_of_isDefinitionName {name : String} (h : IsDefinitionName name) :
    name ≠ "" ∧ name ≠ here ∧ name ≠ up := by
  have hnone : ∀ s ∈ ["", here, up], ¬ IsDefinitionName s := by decide
  refine ⟨?_, ?_, ?_⟩ <;> rintro rfl <;> exact hnone _ (by simp) h

/-- The names of the definitions in a folder, each once, in the order of their octets. -/
structure Listing (f : Folder) (p : Path) (names : List String) : Prop where
  ordered : names.Pairwise Text.Before
  mem_iff : ∀ name, name ∈ names ↔ (f.entry? (p ++ [name])).isSome ∧ IsDefinitionName name

/-- The names that are found, ending by ending. -/
def foundNames (f : Folder) (p : Path) : List String := endings.flatMap (f.namesEnding p)

theorem mem_namesEnding_iff {f : Folder} {p : Path} {ending name : String} :
    name ∈ f.namesEnding p ending ↔
      (f.entry? (p ++ [name])).isSome ∧ Text.endsWith name ending = true := by
  rw [namesEnding, List.mem_mergeSort, List.mem_filter, mem_childNames_iff]

theorem mem_foundNames_iff {f : Folder} {p : Path} {name : String} :
    name ∈ f.foundNames p ↔ (f.entry? (p ++ [name])).isSome ∧ IsDefinitionName name := by
  simp only [foundNames, List.mem_flatMap, mem_namesEnding_iff, IsDefinitionName]
  constructor
  · rintro ⟨ending, hending, hentry, hname⟩
    exact ⟨hentry, ending, hending, hname⟩
  · rintro ⟨hentry, ending, hending, hname⟩
    exact ⟨ending, hending, hentry, hname⟩

/-- An entry is found by one ending only. -/
theorem nodup_foundNames (f : Folder) (p : Path) : (f.foundNames p).Nodup := by
  have hendings : endings.Nodup := by decide
  rw [foundNames, List.nodup_flatMap]
  constructor
  · intro ending _
    exact List.nodup_mergeSort.2 ((nodup_childNames f p).filter _)
  · refine hendings.imp_of_mem fun he hd hne => ?_
    intro name hname hother
    exact hne (ending_unique he hd (mem_namesEnding_iff.1 hname).2 (mem_namesEnding_iff.1 hother).2)

theorem mapM_named?_of_plain {f : Folder} {text : String} (hplain : ∀ s ∈ folderSteps text, Plain s)
    {p : Path} (h : f.locate? [] (folderSteps text) = some p) {es : List String}
    (hes : ∀ e ∈ es, Plain e) :
    es.mapM (f.named? text) =
      some (es.map fun e => (f.namesEnding p e).map fun name => way (folderSteps text) ++ [name]) := by
  induction es with
  | nil => rfl
  | cons e es ih =>
      obtain ⟨he, hrest⟩ := List.forall_mem_cons.1 hes
      rw [List.mapM_cons, named?_of_plain hplain he h, ih hrest]
      rfl

theorem namedAny?_of_plain {f : Folder} {text : String} (hplain : ∀ s ∈ folderSteps text, Plain s)
    {p : Path} (h : f.locate? [] (folderSteps text) = some p) :
    f.namedAny? text endings =
      some ((f.foundNames p).map fun name => way (folderSteps text) ++ [name]) := by
  rw [namedAny?, mapM_named?_of_plain hplain h plain_of_mem_endings, foundNames,
    List.map_flatMap, List.flatMap_def]
  rfl

/-! ### Order -/

theorem key_append_name {name : String} (h : IsDefinitionName name) (ss : List String) :
    key (ss ++ [name]) = key ss ++ [name] := by
  obtain ⟨hnothing, hhere, hup⟩ := ne_of_isDefinitionName h
  simp [key, hnothing, hhere, hup]

/-- Paths that part at their last step are in the order of these steps. -/
theorem append_singleton_lt_iff (ss : List String) (a b : String) :
    ss ++ [a] < ss ++ [b] ↔ a < b := by
  induction ss with
  | nil => simp [List.cons_lt_cons_iff]
  | cons s ss ih => simp [ih]

/-- The paths of entries of one folder are in the order of their names. -/
theorem sortSteps_below {names : List String} (h : ∀ name ∈ names, IsDefinitionName name)
    (ss : List String) :
    sortSteps (names.map fun name => ss ++ [name]) =
      (names.mergeSort fun a b => decide (a ≤ b)).map fun name => ss ++ [name] := by
  refine (List.map_mergeSort fun a ha b hb => ?_).symm
  rw [key_append_name (h a ha), key_append_name (h b hb), decide_eq_decide, ← String.not_lt,
    ← List.not_lt, append_singleton_lt_iff]

/-- Names without repetition are sorted into the order of their octets. -/
theorem ordered_mergeSort {names : List String} (h : names.Nodup) :
    (names.mergeSort fun a b => decide (a ≤ b)).Pairwise Text.Before := by
  have hsorted : (names.mergeSort fun a b => decide (a ≤ b)).Pairwise fun a b => a ≤ b := by
    have hpairwise : (names.mergeSort fun a b => decide (a ≤ b)).Pairwise fun a b => decide (a ≤ b) = true :=
      List.pairwise_mergeSort
        (fun a b c hab hbc => by simpa using String.le_trans (by simpa using hab) (by simpa using hbc))
        (fun a b => by simpa using String.le_total a b) names
    simpa using hpairwise
  have hnodup : (names.mergeSort fun a b => decide (a ≤ b)).Nodup := List.nodup_mergeSort.2 h
  refine hsorted.imp₂ (fun a b hle hne => ?_) hnodup
  exact Text.before_of_lt (String.not_le.1 fun hba => hne (String.le_antisymm hle hba))

/-! ### Loading one by one -/

/-- Loading one by one: all are loaded, or those before the first that fails. -/
inductive InTurn {α β ε : Type} (load : α → Except ε β) : List α → Except ε (List β) → Prop
  | all {names : List α} {ds : List β} (h : List.Forall₂ (fun name d => load name = .ok d) names ds) :
      InTurn load names (.ok ds)
  | stopped {before after : List α} {bad : α} {ds : List β} {fault : ε}
      (hbefore : List.Forall₂ (fun name d => load name = .ok d) before ds)
      (hbad : load bad = .error fault) : InTurn load (before ++ bad :: after) (.error fault)

theorem inTurn_mapM {α β ε : Type} (load : α → Except ε β) (names : List α) :
    InTurn load names (names.mapM load) := by
  induction names with
  | nil => exact .all .nil
  | cons name names ih =>
      rw [List.mapM_cons]
      cases hload : load name with
      | error fault =>
          rw [← List.nil_append (name :: names)]
          exact .stopped .nil hload
      | ok d =>
          generalize names.mapM load = rest at ih
          cases ih with
          | all hrest => exact .all (.cons hload hrest)
          | stopped hbefore hbad => exact .stopped (.cons hload hbefore) hbad

theorem mapM_congr_of_mem {α β ε : Type} {load other : α → Except ε β} {names : List α}
    (h : ∀ name ∈ names, load name = other name) : names.mapM load = names.mapM other := by
  induction names with
  | nil => rfl
  | cons name names ih =>
      obtain ⟨hname, hnames⟩ := List.forall_mem_cons.1 h
      rw [List.mapM_cons, List.mapM_cons, hname, ih hnames]

/-- The path of an entry in the folder under a path, without needless slashes. -/
def entryText (text name : String) : String := Text.join separator (way (steps text) ++ [name])

/-- A slash at the end is no step. -/
theorem way_folderSteps (text : String) : way (folderSteps text) = way (steps text) := by
  rw [folderSteps]
  split
  case isTrue hlast =>
    obtain ⟨front, hfront⟩ := List.getLast?_eq_some_iff.1 hlast
    simp [hfront, way]
  case isFalse => rfl

theorem locate?_folderSteps {f : Folder} {text : String} {p : Path}
    (h : f.locate? [] (steps text) = some p) : f.locate? [] (folderSteps text) = some p := by
  rw [folderSteps]
  split
  case isFalse => exact h
  case isTrue hlast =>
    obtain ⟨front, hfront⟩ := List.getLast?_eq_some_iff.1 hlast
    rw [hfront, locate?_append] at h
    rw [hfront, List.dropLast_concat]
    cases hbefore : f.locate? [] front with
    | none =>
        rw [hbefore] at h
        cases h
    | some q =>
        rw [hbefore, Option.bind_some, locate?_singleton] at h
        rw [eq_of_enter?_nothing h]

theorem plain_of_mem_folderSteps {text step : String} (hplain : Plain text)
    (h : step ∈ folderSteps text) : Plain step := by
  have hstep : step ∈ steps text := by
    rw [folderSteps] at h
    split at h
    · exact List.dropLast_subset _ h
    · exact h
  exact fun c hc => hplain c (mem_of_mem_steps hstep hc).1

theorem steps_entryText {text name : String} (h : '/' ∉ name.toList) :
    steps (entryText text name) = way (steps text) ++ [name] := by
  refine steps_join (by simp) fun s hs => ?_
  rcases List.mem_append.1 hs with hbefore | hlast
  · exact slash_not_mem_of_mem_steps (List.mem_filter.1 hbefore).1
  · rwa [List.mem_singleton.1 hlast]

/-- What an entry is read as. -/
def readAt (entry : Option Entry) : Except FileFault String :=
  match entry with
  | none => .error .missing
  | some e => readEntry e

/-- What lies in a folder is read from there. -/
theorem document_of_locate {f : Folder} {ss : List String} {p : Path}
    (h : f.locate? [] ss = some p) (hfolder : f.isFolder p) {name : String} (hname : IsDefinitionName name) :
    f.document (way ss ++ [name]) = readAt (f.entry? (p ++ [name])) := by
  obtain ⟨hnothing, hhere, hup⟩ := ne_of_isDefinitionName hname
  rw [document, locate?_append, locate?_way h, Option.bind_some, locate?_singleton, enter?]
  cases hentry : f.entry? (p ++ [name]) with
  | none => simp [hfolder, hnothing, hhere, hup, readAt]
  | some e => simp [hfolder, hnothing, hhere, hup, hentry, readAt]

theorem slash_not_mem_of_entry {f : Folder} (hf : f.SlashFree) {p : Path} {name : String}
    (h : (f.entry? (p ++ [name])).isSome) : '/' ∉ name.toList := by
  obtain ⟨e, he, hpath⟩ := List.mem_map.1 (isSome_entry?_iff.1 h)
  exact hf e he name (hpath ▸ List.mem_append_right p (List.mem_singleton_self name))

/-- What is found is loaded as it is by itself. -/
theorem loadFound_eq {f : Folder} {text name : String} (h : '/' ∉ name.toList) :
    f.loadFound (way (steps text) ++ [name]) = f.loadDefinition (entryText text name) := by
  rw [loadFound, loadDefinition, steps_entryText h, entryText]

/-! ### All definitions of a folder -/

theorem loadDefinitions_eq_mapM {f : Folder} (hf : f.SlashFree) {text : String} (hplain : Plain text)
    {p : Path} (hlocate : f.locate? [] (steps text) = some p) :
    ∃ names, f.Listing p names ∧
      f.loadDefinitions text = names.mapM fun name => f.loadDefinition (entryText text name) := by
  have hfound := namedAny?_of_plain (fun s => plain_of_mem_folderSteps hplain)
    (locate?_folderSteps hlocate)
  have hnames : ∀ name ∈ f.foundNames p, IsDefinitionName name :=
    fun name hname => (mem_foundNames_iff.1 hname).2
  have hlisting : f.Listing p ((f.foundNames p).mergeSort fun a b => decide (a ≤ b)) :=
    ⟨ordered_mergeSort (nodup_foundNames f p), fun name => by
      rw [List.mem_mergeSort, mem_foundNames_iff]⟩
  refine ⟨_, hlisting, ?_⟩
  have hload : f.loadDefinitions text =
      (sortSteps ((f.foundNames p).map fun name => way (steps text) ++ [name])).mapM f.loadFound := by
    simp [loadDefinitions, hlocate, hfound, way_folderSteps]
  rw [hload, sortSteps_below hnames, List.mapM_map]
  refine mapM_congr_of_mem fun name hname => ?_
  exact loadFound_eq (slash_not_mem_of_entry hf ((hlisting.mem_iff name).1 hname).1)

/-- Two folders with the same name in which the same definitions lie at two paths. -/
structure AlikeAt (f g : Folder) (p q : Path) : Prop where
  name : f.name = g.name
  entry : ∀ name, IsDefinitionName name → f.entry? (p ++ [name]) = g.entry? (q ++ [name])

theorem AlikeAt.listing {f g : Folder} {p q : Path} (h : AlikeAt f g p q) {names others : List String}
    (hf : f.Listing p names) (hg : g.Listing q others) : names = others := by
  have hasymm : ∀ a b : String, Text.Before a b → Text.Before b a → a = b :=
    fun a b hab hba => absurd hba (List.lt_asymm hab)
  have hirrefl : ∀ a : String, ¬ Text.Before a a := fun a => List.lt_irrefl _
  have hne : ∀ {a b : String}, Text.Before a b → a ≠ b := by
    rintro a b hab rfl
    exact hirrefl a hab
  have hperm : names.Perm others := by
    refine (List.perm_ext_iff_of_nodup (hf.ordered.imp hne) (hg.ordered.imp hne)).2 fun name => ?_
    rw [hf.mem_iff, hg.mem_iff]
    refine and_congr_left fun hname => ?_
    rw [h.entry name hname]
  exact hperm.eq_of_pairwise (fun a b _ _ => hasymm a b) hf.ordered hg.ordered

theorem AlikeAt.loadDefinition {f g : Folder} {p q : Path} (h : AlikeAt f g p q) {text : String}
    (hf : f.locate? [] (steps text) = some p) (hffolder : f.isFolder p)
    (hg : g.locate? [] (steps text) = some q) (hgfolder : g.isFolder q) {name : String}
    (hname : IsDefinitionName name) (hslash : '/' ∉ name.toList) :
    f.loadDefinition (entryText text name) = g.loadDefinition (entryText text name) := by
  have hdocument : f.document (way (steps text) ++ [name]) = g.document (way (steps text) ++ [name]) := by
    rw [document_of_locate hf hffolder hname, document_of_locate hg hgfolder hname, h.entry name hname]
  rw [Folder.loadDefinition, Folder.loadDefinition, steps_entryText hslash, definitionAt, definitionAt,
    hdocument, shown, shown, h.name]

/-- **All definitions of a folder are loaded, in order**, if the path of the folder is without signs.  If one
cannot be loaded, the first that cannot says why.  Entries with other names and those of other folders do not
matter. -/
theorem loadDefinitions_of_plain {f : Folder} (hf : f.SlashFree) {text : String} (hplain : Plain text)
    {p : Path} (hlocate : f.locate? [] (steps text) = some p) (hfolder : f.isFolder p) :
    (∃ names, f.Listing p names ∧
      InTurn (fun name => f.loadDefinition (entryText text name)) names (f.loadDefinitions text)) ∧
    ∀ g q, g.SlashFree → g.locate? [] (steps text) = some q → g.isFolder q → AlikeAt f g p q →
      g.loadDefinitions text = f.loadDefinitions text := by
  obtain ⟨names, hlisting, hload⟩ := loadDefinitions_eq_mapM hf hplain hlocate
  refine ⟨⟨names, hlisting, hload ▸ inTurn_mapM _ names⟩, ?_⟩
  intro g q hg hglocate hgfolder halike
  obtain ⟨others, hothers, hgload⟩ := loadDefinitions_eq_mapM hg hplain hglocate
  rw [hload, hgload, ← halike.listing hlisting hothers]
  refine mapM_congr_of_mem fun name hname => ?_
  obtain ⟨hentry, hending⟩ := (hlisting.mem_iff name).1 hname
  exact (halike.loadDefinition hlocate hfolder hglocate hgfolder hending
    (slash_not_mem_of_entry hf hentry)).symm

/-- A folder with two definitions, one of which cannot be read, and a note. -/
def shelf : Folder :=
  (((empty "<dir>").write (steps "d/b.yaml") (Text.octets "name: b\nrules: [{search: b}]")).write
    (steps "d/a.yml") (Text.octets "name: a")).write (steps "d/notes.txt") []

theorem loadDefinitions_of_shelf :
    shelf.SlashFree ∧ Plain "./d/" ∧ shelf.locate? [] (steps "./d/") = some ["d"] ∧ shelf.isFolder ["d"] ∧
    (∃ names, shelf.Listing ["d"] names ∧
      InTurn (fun name => shelf.loadDefinition (entryText "./d/" name)) names
        (shelf.loadDefinitions "./d/")) ∧
    ∀ g q, g.SlashFree → g.locate? [] (steps "./d/") = some q → g.isFolder q → AlikeAt shelf g ["d"] q →
      g.loadDefinitions "./d/" = shelf.loadDefinitions "./d/" := by
  have hfree : shelf.SlashFree :=
    slashFree_write (slashFree_write (slashFree_write (slashFree_empty _) _ _) _ _) _ _
  have hplain : Plain "./d/" := by decide
  have hlocate : shelf.locate? [] (steps "./d/") = some ["d"] := by decide +kernel
  have hfolder : shelf.isFolder ["d"] := by decide +kernel
  exact ⟨hfree, hplain, hlocate, hfolder, loadDefinitions_of_plain hfree hplain hlocate hfolder⟩

/-! ### A path with a sign -/

/-- A folder with a bracket in its path, and a definition in it. -/
def bracketed : Folder :=
  (empty "<dir>").write ["s[1]", "a.yaml"] (Text.octets "name: b\nrules: [{search: b}]")

/-- The definition in it. -/
def bracketedDefinition : Definition :=
  ⟨"b", [], .chain [{ Rule.default with search := some "b" }], Detail.blank⟩

theorem listing_bracketed : bracketed.Listing ["s[1]"] ["a.yaml"] := by
  refine ⟨List.pairwise_singleton _ _, fun name => ?_⟩
  have hentries : bracketed.entries.map Prod.fst = [["s[1]"], ["s[1]", "a.yaml"]] := rfl
  have hname : IsDefinitionName "a.yaml" := by decide
  rw [isSome_entry?_iff, hentries, List.mem_singleton]
  constructor
  · rintro rfl
    exact ⟨by simp, hname⟩
  · rintro ⟨hmem, -⟩
    simpa using hmem

/-- **A definition is missed** where the path of its folder has a sign: alone it is loaded, but in its folder
nothing is found. -/
theorem loadDefinitions_ne_of_sign :
    bracketed.locate? [] (steps "s[1]") = some ["s[1]"] ∧ bracketed.isFolder ["s[1]"] ∧
      bracketed.Listing ["s[1]"] ["a.yaml"] ∧
      bracketed.loadDefinition (entryText "s[1]" "a.yaml") = .ok bracketedDefinition ∧
      bracketed.loadDefinitions "s[1]" = .ok [] := by
  have hloads : (bracketed.loadDefinition (entryText "s[1]" "a.yaml")).toOption =
      some bracketedDefinition := by decide +kernel
  have hmisses : (bracketed.loadDefinitions "s[1]").toOption = some [] := by decide +kernel
  exact ⟨by decide +kernel, by decide +kernel, listing_bracketed, Yaml.eq_ok_of_toOption hloads,
    Yaml.eq_ok_of_toOption hmisses⟩

end HttpProbe.Folder
