import LanguageHost.Proofs.Settings.Overlay
import LanguageHost.Settings.Loader
import Mathlib.Data.List.Forall2

namespace LanguageHost

namespace Layer

namespace Sections

structure Ordered (s : Sections) : Prop where
  logging : (Json.obj s.logging).Ordered
  all : (Json.obj s.all).Ordered
  spellings : Members.Sorted s.language
  language : ∀ t ∈ s.language, (Json.obj t.2).Ordered

def shared (s : Sections) : SettingsTable := s.all.filter fun e => e.1 ∉ languageOnlyKeys

def own (name : String) (s : Sections) : List SettingsTable :=
  (s.language.filter fun t => normaliseLanguage t.1 = name).map Prod.snd

/-- The tables of a source that concern a language, in the order in which they apply. -/
def stack (name : String) (s : Sections) : List SettingsTable := s.shared :: s.own name

variable {s : Sections} {name : String} {t : SettingsTable}

lemma Ordered.shared (h : s.Ordered) : (Json.obj s.shared).Ordered :=
  .table (h.all.sorted.filter _) fun e he => h.all.values e (List.mem_filter.mp he).1

lemma Ordered.stack (h : s.Ordered) (ht : t ∈ s.stack name) : (Json.obj t).Ordered := by
  rcases List.mem_cons.mp ht with rfl | ht
  · exact h.shared
  · obtain ⟨e, he, rfl⟩ := List.mem_map.mp ht
    exact h.language e (List.mem_filter.mp he).1

end Sections

variable {name : String} {source : FilePath} {s : Sections} {l : Layer} {t : SettingsTable}

lemma foldl_erase (ht : Members.Sorted t) (keys : List String) :
    keys.foldl (fun t key => Members.erase key t) t = t.filter fun e => e.1 ∉ keys := by
  induction keys generalizing t with
  | nil => simp
  | cons key keys ih =>
    rw [List.foldl_cons, ht.erase_eq, ih (ht.filter _), List.filter_filter]
    simp [Bool.and_comm]

lemma find?_group (tables : List (String × SettingsTable)) :
    (Members.find? name (group tables)).getD [] =
      (tables.filter fun t => normaliseLanguage t.1 = name).map Prod.snd := by
  suffices h : ∀ groups, (Members.find? name (tables.foldl (fun groups t =>
      Members.insert (normaliseLanguage t.1)
        ((Members.find? (normaliseLanguage t.1) groups).getD [] ++ [t.2]) groups) groups)).getD [] =
      (Members.find? name groups).getD [] ++
        (tables.filter fun t => normaliseLanguage t.1 = name).map Prod.snd by
    simpa [Members.find?, group] using h []
  -- The tables still to come stand behind the ones that are grouped already.
  induction tables with
  | nil => simp
  | cons t tables ih =>
    intro groups
    rw [List.foldl_cons, ih, Members.find?_insert]
    by_cases hn : normaliseLanguage t.1 = name
    · simp [hn]
    · simp [hn]

lemma tablesFor_ofSections (h : s.Ordered) :
    (ofSections source s).tablesFor name = s.stack name := by
  rw [tablesFor, ofSections, withoutLanguageOnly, foldl_erase h.all.sorted, find?_group]
  rfl

structure Made (s : Sections) (l : Layer) : Prop where
  ordered : s.Ordered
  layer : l = ofSections l.source s

lemma Made.tablesFor (h : Made s l) : l.tablesFor name = s.stack name := by
  rw [h.layer]
  exact tablesFor_ofSections h.ordered

end Layer

namespace Settings

open Layer (Sections Made)

variable {s : Settings} {ss : List Sections} {name language : String} {t : SettingsTable}

def merged (s : Settings) (language : String) : SettingsTable :=
  SettingsTable.mergeAll (s.tablesFor (normaliseLanguage language))

lemma server_merged : s.server language =
    (Decode.server .ignored (.obj (s.merged language))).mapError
      (.merge ("language." ++ normaliseLanguage language)) := by
  rw [server, merged]
  cases Decode.server .ignored
    (.obj (SettingsTable.mergeAll (s.tablesFor (normaliseLanguage language)))) <;> rfl

def stack (name : String) (ss : List Sections) : List SettingsTable :=
  ss.flatMap (Sections.stack name)

lemma tablesFor_stack (hs : List.Forall₂ Made ss s.layers) : s.tablesFor name = stack name ss := by
  rw [tablesFor, stack]
  generalize s.layers = ls at hs
  induction hs with
  | nil => rfl
  | cons hmade _ ih => rw [List.flatMap_cons, List.flatMap_cons, hmade.tablesFor, ih]

lemma sections_ordered (hs : List.Forall₂ Made ss s.layers) : ∀ sections ∈ ss, sections.Ordered :=
  ((List.forall₂_and_left ..).mp (hs.imp fun _ _ h => ⟨h.ordered, h⟩)).1

lemma stack_ordered (hs : List.Forall₂ Made ss s.layers) (ht : t ∈ stack name ss) :
    (Json.obj t).Ordered := by
  obtain ⟨sections, hmem, ht⟩ := List.mem_flatMap.mp ht
  exact (sections_ordered hs sections hmem).stack ht

/-- The settings of a language are read from a table in which, at the end of every path, the last of
the stacked tables that touches the path decides. -/
theorem last_touch_decides (hs : List.Forall₂ Made ss s.layers) (language : String)
    {p : List String} (hp : p ≠ []) :
    s.server language = (Decode.server .ignored (.obj (s.merged language))).mapError
      (.merge ("language." ++ normaliseLanguage language)) ∧
    (∀ front t back, stack (normaliseLanguage language) ss = front ++ t :: back →
      (Json.obj t).Touches p → (∀ u ∈ back, ¬ (Json.obj u).Touches p) →
      (Json.obj t).Decides p (.obj (s.merged language))) ∧
    ((∀ t ∈ stack (normaliseLanguage language) ss, ¬ (Json.obj t).Touches p) →
      (Json.obj (s.merged language)).at? p = none) := by
  have hordered : ∀ t ∈ stack (normaliseLanguage language) ss, (Json.obj t).Ordered :=
    fun t ht => stack_ordered hs ht
  refine ⟨server_merged, ?_, ?_⟩
  · intro front t back hsplit ht hback
    rw [merged, tablesFor_stack hs, hsplit]
    exact SettingsTable.mergeAll_decides (hsplit ▸ hordered) ht hback
  · intro h
    rw [merged, tablesFor_stack hs]
    exact SettingsTable.mergeAll_untouched hordered h hp

end Settings

namespace Sample

def userSections : Layer.Sections :=
  { all := [("command", .str "sh"), ("hover", .obj [("enable", .bool true)])],
    language := [("C", [("hover", .obj [("enable", .bool false)])]),
      ("c", [("rpc_trace", .bool true)])] }

def projectSections : Layer.Sections :=
  { all := [("hover", .obj [("popup_max_lines", .int 9)])],
    language := [("rust", [("hover", .int 3)])] }

def layered : Settings :=
  ⟨[Layer.ofSections ⟨"user"⟩ userSections, Layer.ofSections ⟨"project"⟩ projectSections], {}⟩

lemma ordered_single {key : String} {j : Json} (hj : j.Ordered) : (Json.obj [(key, j)]).Ordered :=
  .table (List.pairwise_singleton ..) (by simpa using hj)

lemma userSections_ordered : userSections.Ordered := by
  refine ⟨.empty, .table (by decide) ?_, by decide, ?_⟩
  · simpa [userSections] using ⟨.leaf rfl, ordered_single (.leaf rfl)⟩
  · simpa [userSections] using
      ⟨ordered_single (ordered_single (.leaf rfl)), ordered_single (.leaf rfl)⟩

lemma projectSections_ordered : projectSections.Ordered :=
  ⟨.empty, ordered_single (ordered_single (.leaf rfl)), List.pairwise_singleton ..,
    by simpa [projectSections] using ordered_single (.leaf rfl)⟩

lemma layered_made : List.Forall₂ Layer.Made [userSections, projectSections] layered.layers :=
  .cons ⟨userSections_ordered, rfl⟩ (.cons ⟨projectSections_ordered, rfl⟩ .nil)

end Sample

theorem Settings.own_table_decides :
    (Json.obj (Sample.layered.merged " c")).at? ["hover", "enable"] = some (.bool false) ∧
      (Json.obj (Sample.layered.merged " c")).at? ["command"] = none := by
  have hstack : stack (normaliseLanguage " c") [Sample.userSections, Sample.projectSections] =
      [[("hover", .obj [("enable", .bool true)])]] ++ [("hover", .obj [("enable", .bool false)])] ::
        [[("rpc_trace", .bool true)], [("hover", .obj [("popup_max_lines", .int 9)])]] := rfl
  constructor
  · obtain ⟨-, hlast, -⟩ := last_touch_decides Sample.layered_made " c"
      (p := ["hover", "enable"]) (by decide)
    refine (hlast _ _ _ hstack (.inl ⟨_, rfl⟩) ?_).value _ rfl rfl
    simp [Json.touches_obj, Members.find?]
  · obtain ⟨-, -, hnone⟩ := last_touch_decides Sample.layered_made " c"
      (p := ["command"]) (by decide)
    refine hnone ?_
    rw [hstack]
    simp [Json.touches_obj, Members.find?]

end LanguageHost
