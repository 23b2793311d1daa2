import Mathlib.Data.List.Sort
import LanguageHost.Proofs.Settings.Loaded
import LanguageHost.Proofs.Toml.Keys

namespace LanguageHost

namespace Members

variable {α : Type} {key : String} {value : α} {ms : List (String × α)}

lemma Sorted.mem_iff (h : Sorted ms) : (key, value) ∈ ms ↔ find? key ms = some value := by
  refine ⟨fun hmem => ?_, mem_of_find?⟩
  induction ms with
  | nil => cases hmem
  | cons e rest ih =>
    rw [find?]
    rcases List.mem_cons.mp hmem with rfl | hmem
    · rw [if_pos rfl]
    · have hlt : e.1 < key := List.rel_of_pairwise_cons h hmem
      rw [if_neg (ne_of_lt hlt), ih h.of_cons hmem]

lemma Sorted.eq_of_mem_iff {ns : List (String × α)} (hm : Sorted ms) (hn : Sorted ns)
    (h : ∀ e, e ∈ ms ↔ e ∈ ns) : ms = ns := by
  have hanti : Std.Antisymm fun a b : String × α => a.1 < b.1 :=
    ⟨fun _ _ hab hba => absurd hba (lt_asymm hab)⟩
  have hirrefl : Std.Irrefl fun a b : String × α => a.1 < b.1 := ⟨fun _ => lt_irrefl _⟩
  exact List.Pairwise.eq_of_mem_iff hm hn h

end Members

namespace Toml

variable {d : Dialect} {text key name : String} {root : List (String × Json)}

def namesUnder (d : Dialect) (text key : String) : List String :=
  ((keys d text).filterMap fun
    | first :: name :: _ => if first = key then some name else none
    | _ => none).eraseDups

lemma mem_namesUnder (hroot : parse d text = .ok root) (ht : (Json.obj root).HasTable [key, name]) :
    name ∈ namesUnder d text key := by
  obtain ⟨k, hk, rest, rfl⟩ := parse_named text root hroot key name ht
  exact List.mem_eraseDups.mpr (List.mem_filterMap.mpr ⟨_, hk, by simp⟩)

end Toml

namespace Layer

variable {d : Toml.Dialect} {source : FilePath} {text name spelling : String} {root t : SettingsTable}
  {s : Sections} {l : Layer}

def spelled (root : SettingsTable) (spelling : String) : Option SettingsTable :=
  ((Json.obj root).at? ["language", spelling]).bind Json.asObject?

/-- The tables of a language with their spellings, in the order in which a document names them first. -/
def inFileOrder (d : Toml.Dialect) (text : String) (root : SettingsTable) (name : String) :
    List (String × SettingsTable) :=
  ((Toml.namesUnder d text "language").filter (normaliseLanguage · = name)).filterMap
    fun spelling => (spelled root spelling).map (spelling, ·)

/-- After its table for all languages the source has these tables for a language, in this order. Of all
that is loaded the last one that touches a path decides what the language has at its end, if no later
source touches it. -/
structure Settles (l : Layer) (language : String) (tables : List SettingsTable) : Prop where
  applied : l.tablesFor (normaliseLanguage language) = l.all :: tables
  decided : ∀ (tree : FileTree) (sources : List SettingsSource) (s : Settings)
    (front back : List Layer) (p : List String) (older newer : List SettingsTable) (t : SettingsTable),
    (Settings.load tree sources).2 = .ok s → s.layers = front ++ l :: back →
    (∀ m ∈ back, ∀ u ∈ m.tablesFor (normaliseLanguage language), ¬ (Json.obj u).Touches p) →
    tables = older ++ t :: newer → (Json.obj t).Touches p →
    (∀ u ∈ newer, ¬ (Json.obj u).Touches p) →
      s.server language = (Decode.server .ignored (.obj (s.merged language))).mapError
        (.merge ("language." ++ normaliseLanguage language)) ∧
      (Json.obj t).Decides p (.obj (s.merged language))

lemma settles_of_applied {language : String} {tables : List SettingsTable}
    (h : l.tablesFor (normaliseLanguage language) = l.all :: tables) : l.Settles language tables where
  applied := h
  decided tree sources s front back p older newer t hload hlayers hback htables ht hnewer := by
    refine ⟨Settings.server_merged, ?_⟩
    obtain ⟨ss, hss⟩ := Settings.load_made hload
    have hall : s.tablesFor (normaliseLanguage language) =
        (front.flatMap (tablesFor (normaliseLanguage language)) ++ l.all :: older) ++
          t :: (newer ++ back.flatMap (tablesFor (normaliseLanguage language))) := by
      simp [Settings.tablesFor, hlayers, h, htables]
    rw [Settings.merged, hall]
    refine SettingsTable.mergeAll_decides (fun u hu => ?_) ht fun u hu => ?_
    · rw [← hall, Settings.tablesFor_stack hss] at hu
      exact Settings.stack_ordered hss hu
    · rcases List.mem_append.mp hu with hu | hu
      · exact hnewer u hu
      · obtain ⟨m, hm, hu⟩ := List.mem_flatMap.mp hu
        exact hback m hm u hu

lemma find?_readMembers {ms : List (String × Json)} {tables : List (String × SettingsTable)}
    (h : Decode.readMembers readTable ms = .ok tables) (spelling : String) :
    Members.find? spelling tables = (Members.find? spelling ms).bind Json.asObject? := by
  induction ms generalizing tables with
  | nil =>
    obtain rfl := Except.ok.inj h
    rfl
  | cons e rest ih =>
    obtain ⟨key, j⟩ := e
    cases j with
    | obj ms =>
      cases hrest : Decode.readMembers readTable rest with
      | error e => simp [Decode.readMembers, readTable, Decode.under, Except.mapError, hrest, bind,
          Except.bind] at h
      | ok more =>
        obtain rfl : (key, ms) :: more = tables := by
          simpa [Decode.readMembers, readTable, Decode.under, Except.mapError, hrest, bind,
            Except.bind] using h
        rw [Members.find?, Members.find?, ih hrest]
        split <;> rfl
    | _ => cases h

lemma language_owned :
    Decode.Owned sectionFields "language" (Decode.map readTable) Sections.language where
  respects f hf := by
    simp only [sectionFields, List.mem_cons, List.not_mem_nil, or_false] at hf
    rcases hf with rfl | rfl | rfl
    · exact Decode.field_leaves (by decide) fun _ _ => rfl
    · exact Decode.field_leaves (by decide) fun _ _ => rfl
    · exact Decode.field_sets fun _ _ => rfl
  present := ⟨_, List.mem_cons_of_mem _ (List.mem_cons_of_mem _ List.mem_cons_self), rfl⟩

lemma find?_language (hr : (Json.obj root).Ordered) (hs : readSections root = .ok s)
    (spelling : String) : Members.find? spelling s.language = spelled root spelling := by
  have hstated := Decode.setMembers_owned language_owned hr.sorted s hs
  rw [Decode.stated] at hstated
  rw [spelled, Json.at?_cons, Json.get?_obj]
  cases hl : Members.find? "language" root with
  | none =>
    rw [hl] at hstated
    rw [← Except.ok.inj hstated]
    rfl
  | some j =>
    rw [hl] at hstated
    cases j with
    | obj ms =>
      rw [find?_readMembers hstated spelling, Option.bind_some, Json.at?_cons, Json.get?_obj]
      cases Members.find? spelling ms <;> rfl
    | _ => cases hstated

lemma hasTable_of_spelled (h : spelled root spelling = some t) :
    (Json.obj root).HasTable ["language", spelling] := by
  obtain ⟨j, hj, ht⟩ := Option.bind_eq_some_iff.mp h
  cases j with
  | obj ms => exact ⟨ms, hj⟩
  | _ => cases ht

lemma mem_inFileOrder (hroot : Toml.parse d text = .ok root) (hs : readSections root = .ok s)
    (e : String × SettingsTable) :
    e ∈ s.language.filter (fun t => normaliseLanguage t.1 = name) ↔
      e ∈ inFileOrder d text root name := by
  have hr := Toml.parse_ordered root hroot
  obtain ⟨spelling, t⟩ := e
  rw [List.mem_filter, (readSections_yields hr s hs).spellings.mem_iff, find?_language hr hs,
    inFileOrder, List.mem_filterMap]
  constructor
  · rintro ⟨ht, hname⟩
    refine ⟨spelling, List.mem_filter.mpr ⟨?_, hname⟩, by rw [ht]; rfl⟩
    exact Toml.mem_namesUnder hroot (hasTable_of_spelled ht)
  · rintro ⟨other, hother, he⟩
    obtain ⟨u, hu, hsame⟩ := Option.map_eq_some_iff.mp he
    obtain ⟨rfl, rfl⟩ := Prod.mk.inj hsame
    exact ⟨hu, (List.mem_filter.mp hother).2⟩

/-- The tables of one language apply in the order of their spellings, and the last of them decides what
more than one of them says. That is the order of the text only where the text names them in this order. -/
theorem spellings_settled (hroot : Toml.parse d text = .ok root)
    (hl : (ofTable source root).2 = .ok l) (language : String) :
    (∃ tables, Members.Sorted tables ∧
      (∀ e, e ∈ tables ↔ e ∈ inFileOrder d text root (normaliseLanguage language)) ∧
      l.Settles language (tables.map Prod.snd)) ∧
    (Members.Sorted (inFileOrder d text root (normaliseLanguage language)) →
      l.Settles language ((inFileOrder d text root (normaliseLanguage language)).map Prod.snd)) := by
  have hr := Toml.parse_ordered root hroot
  obtain ⟨s, hs, rfl⟩ : ∃ s, readSections root = .ok s ∧ ofSections source s = l := by
    rw [ofTable] at hl
    split at hl
    · next s hs => exact ⟨s, hs, Except.ok.inj hl⟩
    · cases hl
  have hordered := readSections_yields hr s hs
  have hsorted := hordered.spellings.filter
    fun t => decide (normaliseLanguage t.1 = normaliseLanguage language)
  have hmem : ∀ e, _ ↔ e ∈ inFileOrder d text root (normaliseLanguage language) :=
    mem_inFileOrder hroot hs
  have hsettled : (ofSections source s).Settles language
      ((s.language.filter fun t => normaliseLanguage t.1 = normaliseLanguage language).map
        Prod.snd) := by
    refine settles_of_applied ?_
    rw [tablesFor]
    exact congrArg _ (find?_group s.language)
  refine ⟨⟨_, hsorted, hmem, hsettled⟩, fun hfile => ?_⟩
  -- Two sorted lists of the same tables are one list.
  rwa [← hsorted.eq_of_mem_iff hfile hmem]

end Layer

namespace Sample

def first : SettingsTable := [("command", .str "first")]

def last : SettingsTable := [("command", .str "last")]

def ascending : String :=
  "[language.Rust]\ncommand = \"first\"\n\n[language.rust]\ncommand = \"last\"\n"

def descending : String :=
  "[language.rust]\ncommand = \"first\"\n\n[language.Rust]\ncommand = \"last\"\n"

def spelledTwice (a b : SettingsTable) : SettingsTable :=
  [("language", .obj [("Rust", .obj a), ("rust", .obj b)])]

def twice (a b : SettingsTable) : Layer :=
  Layer.ofSections ⟨"text"⟩ { language := [("Rust", a), ("rust", b)] }

lemma load_twice {text : String} {a b : SettingsTable}
    (hroot : Toml.parse .layer text = .ok (spelledTwice a b)) :
    (Settings.load ⟨[], []⟩ [.inline ⟨"text"⟩ text]).2 = .ok ⟨[twice a b], {}⟩ := by
  rw [Settings.load_inline hroot rfl]
  rfl

end Sample

namespace Layer

theorem ascending_settled :
    Toml.parse .layer Sample.ascending = .ok (Sample.spelledTwice Sample.first Sample.last) ∧
    (ofTable ⟨"text"⟩ (Sample.spelledTwice Sample.first Sample.last)).2 =
      .ok (Sample.twice Sample.first Sample.last) ∧
    ∃ s, (Settings.load ⟨[], []⟩ [.inline ⟨"text"⟩ Sample.ascending]).2 = .ok s ∧
      (Json.obj (s.merged "RUST")).at? ["command"] = some (.str "last") := by
  have hroot : Toml.parse .layer Sample.ascending =
      .ok (Sample.spelledTwice Sample.first Sample.last) := by decide +kernel
  have hl : (ofTable ⟨"text"⟩ (Sample.spelledTwice Sample.first Sample.last)).2 =
      .ok (Sample.twice Sample.first Sample.last) := rfl
  have horder : inFileOrder .layer Sample.ascending (Sample.spelledTwice Sample.first Sample.last)
      (normaliseLanguage "RUST") = [("Rust", Sample.first), ("rust", Sample.last)] := by decide +kernel
  obtain ⟨-, hsettled⟩ := spellings_settled hroot hl "RUST"
  have hdecided := (hsettled (by rw [horder]; decide)).decided _ _ _ [] [] ["command"]
    [Sample.first] [] Sample.last (Sample.load_twice hroot) rfl (by simp) (by rw [horder]; rfl)
    (.inl ⟨_, rfl⟩) (by simp)
  exact ⟨hroot, hl, _, Sample.load_twice hroot, hdecided.2.value _ rfl rfl⟩

/-- The table that the text names last is the one with capitals, and the other one decides. -/
theorem descending_unsettled :
    Toml.parse .layer Sample.descending = .ok (Sample.spelledTwice Sample.last Sample.first) ∧
    inFileOrder .layer Sample.descending (Sample.spelledTwice Sample.last Sample.first) "rust" =
      [("rust", Sample.first), ("Rust", Sample.last)] ∧
    ∃ s, (Settings.load ⟨[], []⟩ [.inline ⟨"text"⟩ Sample.descending]).2 = .ok s ∧
      (Json.obj (s.merged "rust")).at? ["command"] = some (.str "first") := by
  have hroot : Toml.parse .layer Sample.descending =
      .ok (Sample.spelledTwice Sample.last Sample.first) := by decide +kernel
  exact ⟨hroot, by decide +kernel, _, Sample.load_twice hroot, by decide +kernel⟩

end Layer

end LanguageHost
