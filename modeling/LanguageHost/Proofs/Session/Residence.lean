import LanguageHost.Proofs.Session.Mirror

/-! On which servers documents are open, whatever state these servers are in. As long as the editor tells
of every new language of a buffer, a document is open on one server at most. -/

namespace LanguageHost

abbrev Languages := DocumentId → Option LanguageId

namespace Move

def Respects (b : Languages) : Move → Prop
  | languageChanged d previous => b d.id = none ∨ b d.id = some previous
  | m => ∀ d ∈ m.documents, d.language = b d.id

def languages (m : Move) (b : Languages) : Languages :=
  match m with
  | languageChanged d _ => Function.update b d.id d.language
  | _ => b

end Move

/-- Every new language of a buffer is told before any other move is made. -/
def Faithful : Languages → List Move → Prop
  | _, [] => True
  | b, m :: rest => m.Respects b ∧ Faithful (m.languages b) rest

lemma Move.subject_mem {m : Move} {d : Document} (h : m.subject = some d) : d ∈ m.documents := by
  cases m <;> cases h <;> exact List.mem_singleton_self d

def Languages.run (b : Languages) (ms : List Move) : Languages :=
  ms.foldl (fun b m => m.languages b) b

lemma faithful_append {b : Languages} {ms ns : List Move} :
    Faithful b (ms ++ ns) ↔ Faithful b ms ∧ Faithful (b.run ms) ns := by
  induction ms generalizing b with
  | nil => exact ⟨fun h => ⟨trivial, h⟩, And.right⟩
  | cons m rest ih =>
    rw [List.cons_append, Faithful, Faithful, ih, and_assoc]
    rfl

namespace Host

variable {h k : Host} {b : Languages} {l m n : LanguageId} {i j : Instance} {slot : Slot}
  {id : DocumentId} {uri : Uri} {d : Document} {deed : Deed} {P : Deed → Prop}

def Lists (h : Host) (l : LanguageId) (id : DocumentId) (uri : Uri) : Prop :=
  ∃ i, h.instance? l = some i ∧ i.openUri? id = some uri

/-- Documents are open on no other servers than the settings have for the languages of their
buffers. -/
def Houses (h : Host) (b : Languages) : Prop :=
  ∀ ⦃l id uri⦄, h.Lists l id uri → ∃ n, b id = some n ∧ Routes h.settings n l

section Steps

lemma lists_kept (hs : k.slots = h.slots) (hk : k.Lists l id uri) : h.Lists l id uri := by
  obtain ⟨i, hi, ho⟩ := hk
  exact ⟨i, by simpa only [instance?, hs] using hi, ho⟩

lemma lists_erased (hs : k.slots = h.slots.erase m) (hk : k.Lists l id uri) : h.Lists l id uri := by
  obtain ⟨i, hi, ho⟩ := hk
  exact ⟨i, instance?_eq_some.mpr (Coherent.unfilled hs l _ (instance?_eq_some.mp hi)), ho⟩

lemma lists_filled (hs : k.slots = h.slots.set m slot)
    (hslot : ∀ j, slot = .active j → j.openUri? id = some uri → h.Lists m id uri)
    (hk : k.Lists l id uri) : h.Lists l id uri := by
  obtain ⟨j, hj, ho⟩ := hk
  have hget := instance?_eq_some.mp hj
  rw [hs, Slots.get?_set] at hget
  split at hget
  · next hm => exact hm ▸ hslot j (Option.some.inj hget) ho
  · exact ⟨j, instance?_eq_some.mpr hget, ho⟩

lemma lists_amended (hi : h.instance? m = some i) (hs : k.slots = h.slots.set m (.active j))
    (hj : j.openUri? id = some uri → i.openUri? id = some uri) (hk : k.Lists l id uri) :
    h.Lists l id uri := by
  refine lists_filled hs ?_ hk
  rintro _ ⟨⟩ ho
  exact ⟨i, hi, hj ho⟩

lemma openUri?_removed {e : DocumentId} (ho : (i.removeOpen e).openUri? id = some uri) :
    i.openUri? id = some uri := by
  rw [openUri?_removeOpen] at ho
  split at ho
  · cases ho
  · exact ho

lemma Step.lists (hs : Step h deed k) (hk : k.Lists l id uri) :
    h.Lists l id uri ∨ ∃ d, deed = .about d ∧ d.id = id ∧ h.Admits l d := by
  cases hs with
  | opened m i d new hi hr ho ha hu =>
    obtain ⟨j, hj, hopen⟩ := hk
    have hcases : (if m = l then some (i.addOpen d.id new) else h.instance? l) = some j := by
      rw [← hj]
      exact (instance?_setInstance _ m l _).symm
    split at hcases
    · next hm =>
      subst hm
      obtain rfl := Option.some.inj hcases
      rw [openUri?_addOpen ho] at hopen
      split at hopen
      · next hid => exact .inr ⟨d, rfl, hid, ha⟩
      · exact .inl ⟨i, hi, hopen⟩
    · exact .inl ⟨j, hcases, hopen⟩
  | logged | told | taken | progressed | announced | requested | elapsed | surrounded | popped
    | received | ended | planned | collected | replied | searched | asked | acknowledged | sealed
    | shuffled | released | departed | expelled | replaced => exact .inl (lists_kept rfl hk)
  | configured m slot notes hn hconf =>
    refine .inl (lists_filled (m := m) rfl (fun j hj ho => ?_) hk)
    rw [((configure_ok hconf).2 j hj).2] at ho
    cases ho
  | touched m i hi | changed m i d change uri hi | saved m i d uri hi | launched m i request notes plan hi
    | welcomed m i g response hi | stopping m i g hi =>
    refine .inl (lists_amended hi rfl ?_ hk)
    exact fun ho => ho
  | closed m i d old hi | unlisted m i d hi => exact .inl (lists_amended hi rfl openUri?_removed hk)
  | lost m i reason hi =>
    refine .inl (lists_amended hi rfl ?_ hk)
    intro ho
    cases ho
  | unlaunched m i e | failed m i request notes e | unattached m i request notes plan e
    | abandoned m i => exact .inl (lists_filled (m := m) rfl (by rintro _ ⟨⟩) hk)
  | dropped m | excused m | idled m | muted m | retired m | reminded m | evicted m | forgotten m =>
    exact .inl (lists_erased (m := m) rfl hk)

lemma Lists.settings (hk : k.Lists l id uri) (hs : Step h deed k) : k.settings = h.settings := by
  refine hs.settings.resolve_right fun hn => ?_
  obtain ⟨i, hi, -⟩ := hk
  have hget := instance?_eq_some.mp hi
  simp [hn, Slots.get?] at hget

lemma Step.houses (hs : Step h deed k) (ha : h.Arranged)
    (hd : ∀ d, deed = .about d → d.language = b d.id) (hb : h.Houses b) : k.Houses b := by
  intro l id uri hk
  rw [hk.settings hs]
  rcases hs.lists hk with hold | ⟨d, rfl, rfl, hadmits⟩
  · exact hb hold
  · obtain ⟨n, hn, hr⟩ := hadmits.1.routes ha
    exact ⟨n, (hd d rfl).symm.trans hn, hr⟩

lemma Walk.houses (hw : Walk P h k) (ha : h.Arranged) (hd : ∀ d, P (.about d) → d.language = b d.id)
    (hb : h.Houses b) : k.Houses b := by
  refine (hw.keeps (I := fun k => k.Arranged ∧ k.Houses b) ⟨ha, hb⟩
    fun {u v deed} hp hs ⟨hau, hbu⟩ => ⟨hs.arranged hau, hs.houses hau ?_ hbu⟩).2
  rintro d rfl
  exact hd d hp

lemma Walk.houses_gentle (hw : Walk (Deed.Gentle d) h k) (ha : h.Arranged)
    (hd : d.language = b d.id) (hb : h.Houses b) : k.Houses b := by
  refine hw.houses ha (fun e he => ?_) hb
  cases (show e = d from he)
  exact hd

lemma Houses.unique (hb : h.Houses b) (ha : h.Arranged) {uri' : Uri} (hl : h.Lists l id uri)
    (hm : h.Lists m id uri') : l = m := by
  obtain ⟨n, hn, hr⟩ := hb hl
  obtain ⟨n', hn', hr'⟩ := hb hm
  obtain rfl : n = n' := Option.some.inj (hn.symm.trans hn')
  obtain ⟨i, hi, -⟩ := hl
  obtain ⟨j, hj, -⟩ := hm
  exact ha.route_unique hi hj hr hr'

end Steps

section Moving

lemma Houses.resolved (hb : h.Houses b) (ha : h.Arranged) (hl : h.Lists l id uri) :
    ∃ n, b id = some n ∧ (h.resolve n).2 = .ok l := by
  obtain ⟨n, hn, hr⟩ := hb hl
  obtain ⟨i, hi, -⟩ := hl
  obtain ⟨k, hk, -⟩ := resolve_routed ha hi hr
  exact ⟨n, hn, by rw [hk]⟩

lemma Consults.lists (hk : h.Consults k) (hl : k.Lists l id uri) : h.Lists l id uri := by
  obtain ⟨i, hi, ho⟩ := hl
  rcases hk.made l _ (instance?_eq_some.mp hi) with hold | ⟨-, hmade⟩
  · exact ⟨i, instance?_eq_some.mpr hold, ho⟩
  · -- What the settings make of a language has nothing open.
    rw [((configure_ok (Prod.ext rfl hmade)).2 i rfl).2] at ho
    cases ho

lemma lists_synced {s : Sync} (hs : s.server.openUri? id = none) (hk : (h.synced m s).Lists l id uri) :
    m ≠ l ∧ h.Lists l id uri := by
  obtain ⟨i, hi, ho⟩ := hk
  have hcases : (if m = l then some s.server else h.instance? l) = some i := by
    rw [← hi]
    exact (instance?_setInstance _ m l _).symm
  split at hcases
  · obtain rfl := Option.some.inj hcases
    cases hs.symm.trans ho
  · next hm => exact ⟨hm, i, hcases, ho⟩

lemma closeOn_unlisted (ha : h.Arranged) (hb : h.Houses b) (hn : b d.id = none ∨ b d.id = some n) :
    ¬ (h.closeOn n d).1.Lists l d.id uri := by
  intro hl
  -- Wherever it was open before, the language leads to this server.
  have hfound {m : LanguageId} {old : Uri} (hm : h.Lists m d.id old) : (h.resolve n).2 = .ok m := by
    obtain ⟨p, hp, hres⟩ := hb.resolved ha hm
    rcases hn with hn | hn
    · cases hn.symm.trans hp
    · obtain rfl := Option.some.inj (hn.symm.trans hp)
      exact hres
  have hconsults := resolve_consults h n
  rcases hr : h.resolve n with ⟨k, e | serving⟩ <;> rw [hr] at hconsults
  · simp only [closeOn, hr] at hl
    have hres := hfound (hconsults.lists hl)
    rw [hr] at hres
    cases hres
  · simp only [closeOn, hr] at hl
    obtain ⟨-, j, hj⟩ := resolve_serves hr
    rw [syncOnly_fst hj] at hl
    obtain ⟨hne, hold⟩ := lists_synced (didClose_server _ d) hl
    have hres := hfound (hconsults.lists hold)
    rw [hr] at hres
    exact hne (Except.ok.inj hres)

lemma documentLanguageChanged_houses (ha : h.Arranged) (hb : h.Houses b) {previous : LanguageId}
    (hn : b d.id = none ∨ b d.id = some previous) :
    (h.documentLanguageChanged d previous).1.Houses (Function.update b d.id d.language) := by
  have hclosed : (h.closeOn previous d).1.Houses b := by
    -- Closing goes by the name of the document alone, so it may as well have its old language.
    rw [closeOn_congr (d := d) (e := { d with language := b d.id }) rfl]
    exact (closeOn_gentle h previous _).houses_gentle ha rfl hb
  have hmoved : (h.closeOn previous d).1.Houses (Function.update b d.id d.language) := by
    intro l id uri hl
    have hne : id ≠ d.id := by
      rintro rfl
      exact closeOn_unlisted ha hb hn hl
    rw [Function.update_of_ne hne]
    exact hclosed hl
  have hak := (closeOn_gentle h previous d).arranged ha
  rcases hr : h.closeOn previous d with ⟨k, e | u⟩ <;> rw [hr] at hmoved hak
  · simpa only [documentLanguageChanged, hr] using hmoved
  · simp only [documentLanguageChanged, hr]
    exact (didOpen_gentle k d).houses_gentle hak (by rw [Function.update_self]) hmoved

lemma perform_houses (hc : h.Coherent) (ha : h.Arranged) {m : Move} (hm : m.Respects b)
    (hb : h.Houses b) : (h.perform m).Houses (m.languages b) := by
  have hother (hstay : m.languages b = b) (hall : ∀ d ∈ m.documents, d.language = b d.id) :
      (h.perform m).Houses (m.languages b) := by
    obtain ⟨k, hw, hcalm⟩ := perform_walk hc.languages m
    rw [hstay]
    refine hcalm.houses (hw.arranged ha) (fun d hd => hall d ?_)
      (hw.houses ha (fun _ => False.elim) hb)
    exact Move.subject_mem hd
  cases m with
  | languageChanged d previous => exact documentLanguageChanged_houses ha hb hm
  | _ => exact hother rfl hm

lemma run_houses (hc : h.Coherent) (ha : h.Arranged) {ms : List Move} (hm : Faithful b ms)
    (hb : h.Houses b) : (h.run ms).Houses (b.run ms) := by
  induction ms generalizing h b with
  | nil => exact hb
  | cons m rest ih =>
    exact ih (perform_coherent hc m) (perform_arranged hc ha m) hm.2 (perform_houses hc ha hm.1 hb)

end Moving

/-- As long as the editor tells of every new language of a buffer together with the old one, and does so
before anything else, no document is open on two servers at once, and a document whose new language was
told is open on no other server than the one that is found for that language. -/
theorem documents_resident (settings : Settings) (root : Option FilePath) (environment : Environment)
    (b : Languages) (ms : List Move) (hm : Faithful b ms)
    (hk : (fresh settings root environment).run ms = k) :
    (∀ l i m j id, k.instance? l = some i → k.instance? m = some j →
      (i.openUri? id).isSome = true → (j.openUri? id).isSome = true → l = m) ∧
      ∀ pre t post d previous, (fresh settings root environment).turns ms = pre ++ t :: post →
        t.move = .languageChanged d previous →
        ∀ l i, t.after.instance? l = some i → (i.openUri? d.id).isSome = true →
          ∃ n, d.language = some n ∧ (t.after.resolve n).2 = .ok l := by
  subst hk
  have hc := fresh_coherent settings root environment
  have ha := fresh_arranged settings root environment
  have hb : (fresh settings root environment).Houses b := by
    rintro l id uri ⟨i, hi, -⟩
    have hget := instance?_eq_some.mp hi
    simp [fresh, Slots.get?] at hget
  generalize fresh settings root environment = h at hc ha hb
  constructor
  · intro l i m j id hi hj hopen hopen'
    obtain ⟨uri, ho⟩ := Option.isSome_iff_exists.mp hopen
    obtain ⟨uri', ho'⟩ := Option.isSome_iff_exists.mp hopen'
    exact (run_houses hc ha hm hb).unique (run_arranged hc ha ms) ⟨i, hi, ho⟩ ⟨j, hj, ho'⟩
  · intro pre t post d previous hts hmove l i hi hopen
    obtain ⟨uri, ho⟩ := Option.isSome_iff_exists.mp hopen
    obtain ⟨ns, -, hbefore, hpre, -⟩ := turns_mem_split hts
    have hms : ms = ns ++ t.move :: post.map Turn.move := by
      rw [← turns_moves h ms, hts, hpre, List.map_append, turns_moves, List.map_cons]
    have hfaithful := faithful_append.mp (hms ▸ hm)
    have hct : t.before.Coherent := hbefore ▸ run_coherent hc ns
    have hat : t.before.Arranged := hbefore ▸ run_arranged hc ha ns
    have hbt : t.before.Houses (b.run ns) := hbefore ▸ run_houses hc ha hfaithful.1 hb
    obtain ⟨n, hn, hres⟩ := (perform_houses hct hat hfaithful.2.1 hbt).resolved
      (perform_arranged hct hat t.move) ⟨i, hi, ho⟩
    refine ⟨n, ?_, hres⟩
    rw [← hn, hmove, Move.languages, Function.update_self]

end Host

namespace Sample

def other : LanguageId := ⟨"cpp", by decide, by decide⟩

def neighbours : Settings :=
  ⟨[⟨⟨"settings"⟩, [], [], [("c", [[("command", .str "serve")]]),
    ("cpp", [[("command", .str "serve")]])]⟩], {}⟩

def ready (g : Nat) : Move := .stray g (.initializeResponse (.ok answer)) {}

def renamed : Document := { document with language := some other }

def resettling : List Move :=
  [.didOpen document, ready 1, .didOpen document, .didOpen { renamed with id := ⟨2⟩ }, ready 2,
    .languageChanged renamed language]

def tongues : Languages := fun id => if id = ⟨2⟩ then some other else some language

end Sample

namespace Host

theorem resettling_resident :
    (∀ l i, ((fresh Sample.neighbours none Sample.environment).run Sample.resettling).instance? l =
        some i → (i.openUri? ⟨1⟩).isSome = true → l = Sample.other) ∧
      ∃ i, ((fresh Sample.neighbours none Sample.environment).run Sample.resettling).instance?
        Sample.other = some i ∧ (i.openUri? ⟨1⟩).isSome = true ∧
        ∃ n, Sample.renamed.language = some n ∧
          (((fresh Sample.neighbours none Sample.environment).run Sample.resettling).resolve n).2 =
            .ok Sample.other := by
  have hfaithful : Faithful Sample.tongues Sample.resettling := by
    simp [Faithful, Sample.resettling, Move.Respects, Move.languages, Move.documents, Move.subject,
      Sample.tongues, Sample.ready, Sample.renamed, Sample.document]
  have hopen : (((fresh Sample.neighbours none Sample.environment).run Sample.resettling).instance?
      Sample.other).any (fun i => (i.openUri? ⟨1⟩).isSome) = true := by decide +kernel
  obtain ⟨j, hj, hopen⟩ := (Option.any_eq_true ..).mp hopen
  obtain ⟨hunique, hmoved⟩ := documents_resident Sample.neighbours none Sample.environment
    Sample.tongues Sample.resettling hfaithful rfl
  refine ⟨fun l i hi ho => hunique l i Sample.other j ⟨1⟩ hi hj ho hopen, j, hj, hopen, ?_⟩
  exact hmoved _ ⟨_, .languageChanged Sample.renamed Sample.language⟩ [] Sample.renamed
    Sample.language (turns_append _ (Sample.resettling.take 5) (Sample.resettling.drop 5)) rfl
    Sample.other j hj hopen

end Host

end LanguageHost
