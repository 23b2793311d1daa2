import LanguageHost.Proofs.Settings.Fields
import LanguageHost.Proofs.Settings.Stacking
import Mathlib.Logic.Relation

namespace LanguageHost

namespace Members

variable {α : Type} {key : String} {ms : List (String × α)} {p : String × α → Bool}

lemma filter_insert {value : α} (h : ∀ v, p (key, v) = false) :
    (insert key value ms).filter p = ms.filter p := by
  induction ms with
  | nil => simp [insert, h]
  | cons m rest ih =>
    obtain ⟨k, v⟩ := m
    rw [insert]
    split_ifs with hlt heq
    · rw [List.filter_cons_of_neg (by simp [h])]
    · rw [List.filter_cons_of_neg (by simp [h]), List.filter_cons_of_neg (by simp [← heq, h])]
    · rw [List.filter_cons, List.filter_cons, ih]

lemma filter_erase (h : ∀ v, p (key, v) = false) : (erase key ms).filter p = ms.filter p := by
  induction ms with
  | nil => rfl
  | cons m rest ih =>
    obtain ⟨k, v⟩ := m
    rw [erase]
    split_ifs with heq
    · rw [List.filter_cons_of_neg (by simp [heq, h])]
    · rw [List.filter_cons, List.filter_cons, ih]

end Members

namespace Layer

def withoutShared (l : Layer) : Layer := { l with all := [] }

namespace Sections

/-- Two sources have the same tables for a language. -/
structure Agree (name : String) (s s' : Sections) : Prop where
  shared : s.shared = s'.shared
  own : s.own name = s'.own name

/-- A change of a source that does not concern a language. -/
inductive Edit (name : String) : Sections → Sections → Prop
  | setKey {s : Sections} {key : String} (hk : key ∈ languageOnlyKeys) (j : Json) :
    Edit name s { s with all := Members.insert key j s.all }
  | dropKey {s : Sections} {key : String} (hk : key ∈ languageOnlyKeys) :
    Edit name s { s with all := Members.erase key s.all }
  | setTable {s : Sections} {spelling : String} (hn : normaliseLanguage spelling ≠ name)
    (t : SettingsTable) : Edit name s { s with language := Members.insert spelling t s.language }
  | dropTable {s : Sections} {spelling : String} (hn : normaliseLanguage spelling ≠ name) :
    Edit name s { s with language := Members.erase spelling s.language }

def withoutShared (s : Sections) : Sections := { s with all := [] }

variable {name : String} {s s' u : Sections} {ss ss' : List Sections}

lemma Agree.refl : Agree name s s := ⟨rfl, rfl⟩

lemma Agree.trans (h : Agree name s s') (h' : Agree name s' u) : Agree name s u :=
  ⟨h.shared.trans h'.shared, h.own.trans h'.own⟩

lemma Agree.stack (h : Agree name s s') : s.stack name = s'.stack name := by
  rw [Sections.stack, Sections.stack, h.shared, h.own]

lemma Edit.agree (h : Edit name s s') : Agree name s s' := by
  cases h with
  | setKey hk j => exact ⟨(Members.filter_insert (by simpa using hk)).symm, rfl⟩
  | dropKey hk => exact ⟨(Members.filter_erase (by simpa using hk)).symm, rfl⟩
  | setTable hn t =>
    exact ⟨rfl, congrArg (List.map Prod.snd) (Members.filter_insert (by simpa using hn)).symm⟩
  | dropTable hn =>
    exact ⟨rfl, congrArg (List.map Prod.snd) (Members.filter_erase (by simpa using hn)).symm⟩

lemma edits_agree (h : Relation.ReflTransGen (Edit name) s s') : Agree name s s' := by
  induction h with
  | refl => exact .refl
  | tail _ hedit ih => exact ih.trans hedit.agree

lemma Ordered.withoutShared (h : s.Ordered) : s.withoutShared.Ordered := { h with all := .empty }

end Sections

lemma Made.withoutShared {s : Sections} {l : Layer} (h : Made s l) :
    Made s.withoutShared l.withoutShared where
  ordered := h.ordered.withoutShared
  layer := by
    rw [h.layer]
    rfl

end Layer

structure ServerSetting where
  Value : Type
  key : String
  read : Json → Decode.Result Value
  get : ServerSettings → Value

def launchSettings : List ServerSetting := [
  ⟨_, "command", Decode.optional Decode.string, ServerSettings.command⟩,
  ⟨_, "env", Decode.map Decode.string, ServerSettings.env⟩,
  ⟨_, "use", Decode.optional Decode.string, ServerSettings.useLanguage⟩,
  ⟨_, "initialization_options_file", Decode.optional Decode.path,
    ServerSettings.initializationOptionsFile⟩,
  ⟨_, "rpc_trace", Decode.bool, ServerSettings.rpcTrace⟩]

lemma launchSettings_keys : launchSettings.map ServerSetting.key = languageOnlyKeys := rfl

lemma launchSettings_owned {surplus : Decode.Surplus} {x : ServerSetting}
    (hx : x ∈ launchSettings) : Decode.Owned (Decode.serverFields surplus) x.key x.read x.get := by
  simp only [launchSettings, List.mem_cons, List.not_mem_nil, or_false] at hx
  rcases hx with rfl | rfl | rfl | rfl | rfl <;>
  · refine ⟨?_, by simp [Decode.serverFields, Decode.field]⟩
    simp only [Decode.serverFields, List.forall_mem_cons]
    repeat' apply And.intro
    all_goals first
      | exact Decode.field_sets fun _ _ => rfl
      | exact Decode.field_leaves (by decide) fun _ _ => rfl
      | simp

structure SameLaunch (a b : ServerSettings) : Prop where
  command : a.command = b.command
  env : a.env = b.env
  useLanguage : a.useLanguage = b.useLanguage
  initializationOptionsFile : a.initializationOptionsFile = b.initializationOptionsFile
  rpcTrace : a.rpcTrace = b.rpcTrace

lemma SameLaunch.of_get {a b : ServerSettings} (h : ∀ x ∈ launchSettings, x.get a = x.get b) :
    SameLaunch a b := by
  simp only [launchSettings, List.forall_mem_cons] at h
  obtain ⟨hcommand, henv, huse, hfile, htrace, -⟩ := h
  exact ⟨hcommand, henv, huse, hfile, htrace⟩

namespace SettingsTable

variable {k : String} {t u b c : SettingsTable} {ts us : List SettingsTable}

structure Alike (k : String) (t u : SettingsTable) : Prop where
  left : Members.Sorted t
  right : Members.Sorted u
  find? : Members.find? k t = Members.find? k u

lemma find?_foldl_merge (h : List.Forall₂ (Alike k) ts us)
    (hb : Members.find? k b = Members.find? k c) :
    Members.find? k (ts.foldl merge b) = Members.find? k (us.foldl merge c) := by
  induction h generalizing b c with
  | nil => exact hb
  | cons halike _ ih =>
    refine ih ?_
    rw [find?_merge halike.left, find?_merge halike.right, halike.find?, hb]

end SettingsTable

namespace Settings

open Layer (Sections Made)

variable {s s' : Settings} {ss ss' : List Sections} {name language k : String}
  {a b : ServerSettings}

def withoutShared (s : Settings) : Settings := { s with layers := s.layers.map Layer.withoutShared }

lemma made_withoutShared (hs : List.Forall₂ Made ss s.layers) :
    List.Forall₂ Made (ss.map Sections.withoutShared) s.withoutShared.layers := by
  refine List.forall₂_map_left_iff.mpr (List.forall₂_map_right_iff.mpr ?_)
  exact hs.imp fun _ _ h => h.withoutShared

lemma stack_agree (h : List.Forall₂ (Sections.Agree name) ss ss') :
    stack name ss = stack name ss' := by
  induction h with
  | nil => rfl
  | cons hagree _ ih =>
    rw [stack, stack] at ih ⊢
    rw [List.flatMap_cons, List.flatMap_cons, hagree.stack, ih]

lemma server_agree {other : String} (hs : List.Forall₂ Made ss s.layers)
    (hs' : List.Forall₂ Made ss' s'.layers)
    (hn : normaliseLanguage language = normaliseLanguage other)
    (h : List.Forall₂ (Sections.Agree (normaliseLanguage language)) ss ss') :
    s.server language = s'.server other := by
  rw [server_merged, server_merged, merged, merged, tablesFor_stack hs, tablesFor_stack hs', ← hn,
    stack_agree h]

lemma shared_missing {sections : Sections} (hk : k ∈ languageOnlyKeys) :
    Members.find? k sections.shared = none := by
  refine Members.find?_eq_none fun e he hek => ?_
  have hfree : e.1 ∉ languageOnlyKeys := by simpa using (List.mem_filter.mp he).2
  exact hfree (hek ▸ hk)

lemma stack_alike (hk : k ∈ languageOnlyKeys) (hss : ∀ sections ∈ ss, sections.Ordered) :
    List.Forall₂ (SettingsTable.Alike k) (stack name ss)
      (stack name (ss.map Sections.withoutShared)) := by
  induction ss with
  | nil => exact .nil
  | cons sections ss ih =>
    obtain ⟨hsections, hss⟩ := List.forall_mem_cons.mp hss
    have hown : List.Forall₂ (SettingsTable.Alike k) (sections.own name) (sections.own name) := by
      refine List.forall₂_same.mpr fun t ht => ?_
      have hsorted := (hsections.stack (List.mem_cons_of_mem _ ht)).sorted
      exact ⟨hsorted, hsorted, rfl⟩
    rw [List.map_cons, stack, stack, List.flatMap_cons, List.flatMap_cons]
    refine List.rel_append (.cons ?_ hown) (ih hss)
    exact ⟨hsections.shared.sorted, .nil, shared_missing hk⟩

lemma find?_merged_withoutShared (hs : List.Forall₂ Made ss s.layers) (hk : k ∈ languageOnlyKeys) :
    Members.find? k (s.merged language) = Members.find? k (s.withoutShared.merged language) := by
  rw [merged, merged, tablesFor_stack hs, tablesFor_stack (made_withoutShared hs)]
  exact SettingsTable.find?_foldl_merge (stack_alike hk (sections_ordered hs)) rfl

lemma merged_ordered (hs : List.Forall₂ Made ss s.layers) :
    (Json.obj (s.merged language)).Ordered := by
  rw [merged, tablesFor_stack hs]
  exact SettingsTable.mergeAll_ordered fun t ht => stack_ordered hs ht

lemma server_stated {x : ServerSetting} (hs : List.Forall₂ Made ss s.layers)
    (hx : x ∈ launchSettings) (ha : s.server language = .ok a) :
    Decode.stated x.key x.read (x.get {}) (s.merged language) = .ok (x.get a) := by
  rw [server_merged] at ha
  cases hread : Decode.server .ignored (.obj (s.merged language)) with
  | error e => simp [hread, Except.mapError] at ha
  | ok given =>
    obtain rfl : given = a := by simpa [hread, Except.mapError] using ha
    exact Decode.setMembers_owned (launchSettings_owned hx) (merged_ordered hs).sorted given hread

lemma launch_withoutShared (hs : List.Forall₂ Made ss s.layers) (ha : s.server language = .ok a)
    (hb : s.withoutShared.server language = .ok b) : SameLaunch a b := by
  refine .of_get fun x hx => ?_
  have hk : x.key ∈ languageOnlyKeys := launchSettings_keys ▸ List.mem_map_of_mem hx
  have hstated := server_stated hs hx ha
  rw [Decode.stated, find?_merged_withoutShared hs hk, ← Decode.stated,
    server_stated (made_withoutShared hs) hx hb] at hstated
  exact (Except.ok.inj hstated).symm

/-- The result for a language, be it settings or an error, depends on its own tables and on what the
sources have for all languages, the launch settings apart; these come from its own tables alone. -/
theorem server_isolated (hs : List.Forall₂ Made ss s.layers) (hs' : List.Forall₂ Made ss' s'.layers)
    (language : String) :
    (∀ other, normaliseLanguage language = normaliseLanguage other →
      List.Forall₂ (Sections.Agree (normaliseLanguage language)) ss ss' →
      s.server language = s'.server other) ∧
    (List.Forall₂ (Relation.ReflTransGen (Sections.Edit (normaliseLanguage language))) ss ss' →
      s.server language = s'.server language) ∧
    (∀ a b, s.server language = .ok a → s.withoutShared.server language = .ok b →
      SameLaunch a b) := by
  refine ⟨fun other hn h => server_agree hs hs' hn h, fun h => ?_, fun a b ha hb => ?_⟩
  · exact server_agree hs hs' rfl (h.imp fun _ _ hedits => Sections.edits_agree hedits)
  · exact launch_withoutShared hs ha hb

end Settings

namespace Sample

def userEdited : Layer.Sections :=
  { userSections with all := [("hover", .obj [("enable", .bool true)])] }

def projectEdited : Layer.Sections :=
  { projectSections with
    language := [("go", [("command", .int 1)]), ("rust", [("hover", .int 3)])] }

def edited : Settings :=
  ⟨[Layer.ofSections ⟨"user"⟩ userEdited, Layer.ofSections ⟨"project"⟩ projectEdited], {}⟩

lemma edited_made : List.Forall₂ Layer.Made [userEdited, projectEdited] edited.layers := by
  have huser : userEdited.Ordered :=
    { userSections_ordered with all := ordered_single (ordered_single (.leaf rfl)) }
  have hproject : projectEdited.Ordered :=
    { projectSections_ordered with
      spellings := by decide
      language := by
        simpa [projectEdited] using ⟨ordered_single (.leaf rfl), ordered_single (.leaf rfl)⟩ }
  exact .cons ⟨huser, rfl⟩ (.cons ⟨hproject, rfl⟩ .nil)

end Sample

theorem Settings.strangers_isolated :
    Sample.layered.server " c" = Sample.edited.server " c" ∧
      Sample.layered.server " c" = Sample.edited.server "C" ∧
      ∃ a b, Sample.layered.server " c" = .ok a ∧ Sample.layered.withoutShared.server " c" = .ok b ∧
        SameLaunch a b ∧ a.rpcTrace = true := by
  obtain ⟨hagree, hedits, hlaunch⟩ :=
    server_isolated Sample.layered_made Sample.edited_made " c"
  have huser : Layer.Sections.Edit (normaliseLanguage " c") Sample.userSections Sample.userEdited :=
    .dropKey (show "command" ∈ languageOnlyKeys by decide)
  have hproject :
      Layer.Sections.Edit (normaliseLanguage " c") Sample.projectSections Sample.projectEdited :=
    .setTable (show normaliseLanguage "go" ≠ normaliseLanguage " c" by decide)
      [("command", .int 1)]
  refine ⟨hedits (.cons (.single huser) (.cons (.single hproject) .nil)), ?_, ?_⟩
  · exact hagree "C" rfl (.cons huser.agree (.cons hproject.agree .nil))
  · exact ⟨_, _, rfl, rfl, hlaunch _ _ rfl rfl, rfl⟩

end LanguageHost
