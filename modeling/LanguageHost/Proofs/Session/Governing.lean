import LanguageHost.Proofs.Session.Addressing
import LanguageHost.Proofs.Session.Custody
import LanguageHost.Proofs.Session.Ranges

namespace LanguageHost

structure Slot.Fulfils (c : ServerSettings) (l : LanguageId) (slot : Slot) : Prop where
  deferred : ∀ target, slot = .servedBy target ↔ c.Defers l target
  idle : slot = .unused ↔ (∀ target, ¬c.Defers l target) ∧ c.commandLine? = none
  own : (∃ i, slot = .active i ∧ i.settings = c) ∨ (∃ restarts reason, slot = .dead restarts reason) ↔
    (∀ target, ¬c.Defers l target) ∧ c.commandLine? ≠ none

lemma ServerSettings.Makes.fulfils {c : ServerSettings} {l : LanguageId} {slot made : Slot}
    (hm : c.Makes l made) (hf : slot.Follows made) : slot.Fulfils c l := by
  cases hm with
  | deferred target hd =>
    obtain rfl : slot = .servedBy target := by
      cases slot <;> simp_all [Slot.Follows]
    have honly (t : LanguageId) : c.Defers l t ↔ target = t := by
      refine ⟨fun ht => Option.some.inj (hd.1.symm.trans ht.1), ?_⟩
      rintro rfl
      exact hd
    exact ⟨fun t => by simp [honly], by simp [honly], by simp [honly]⟩
  | idle hd hc =>
    obtain rfl : slot = .unused := by
      cases slot <;> simp_all [Slot.Follows]
    exact ⟨fun t => by simp [hd], by simp [hd, hc], by simp [hc]⟩
  | own hd hc =>
    have hslot : (∃ i, slot = .active i ∧ i.settings = c) ∨
        ∃ restarts reason, slot = .dead restarts reason := by
      cases slot with
      | active i =>
        obtain ⟨j, hj, hi⟩ := hf
        cases hj
        exact .inl ⟨i, rfl, hi⟩
      | dead restarts reason => exact .inr ⟨restarts, reason, rfl⟩
      | _ => cases hf
    refine ⟨fun t => ?_, ?_, ⟨fun _ => ⟨hd, hc⟩, fun _ => hslot⟩⟩
    · rcases hslot with ⟨i, rfl, -⟩ | ⟨restarts, reason, rfl⟩ <;> simp [hd]
    · rcases hslot with ⟨i, rfl, -⟩ | ⟨restarts, reason, rfl⟩ <;> simp [hc]

def Move.settings (s : Settings) : Move → Settings
  | reconfigure t _ => t
  | _ => s

def LaunchRequest.Obeys (r : LaunchRequest) (s : Settings) (home : Option String) : Prop :=
  ∃ c, s.server r.language.name = .ok c ∧
    c.commandLine?.bind (CommandLine.parse? home) = some r.command ∧
    r.env = c.env ∧ r.showStderr = c.showServerStderr

namespace Host

variable {h k : Host} {l : LanguageId} {slot : Slot} {d : Document} {subject : Option Document}
  {ms : List Move}

/-- A message about a document goes to a server that has the settings in force, and to no other one
than these settings have for the document. -/
structure Governed (h : Host) (d : Document) (l : LanguageId) (i : Instance) (g : Nat)
    (m : Outbound) : Prop where
  runs : h.Runs l i g
  server : h.settings.server l.name = .ok i.settings
  negotiated : ∃ response, i.handshake = some response ∧
    i.capabilities = CapabilitySet.negotiate response i.settings
  routed : m.act? ≠ some .closes → ∃ n, d.language = some n ∧ Routes h.settings n l
  within : m.act? ≠ some .closes → eligible h.root i.settings d = true
  enabled : ∀ id method params, m = .request id method params →
    ∃ kind : RequestKind, method = kind.method ∧ i.capabilities.isEnabled kind.feature = true

section Settings

lemma Planned.fulfils {s : Settings} (hp : Planned s l slot) :
    ∃ c, s.server l.name = .ok c ∧ slot.Fulfils c l := by
  obtain ⟨made, hm, hf⟩ := hp
  obtain ⟨c, hc, hmakes⟩ := configure_makes hm
  exact ⟨c, hc, hmakes.fulfils hf⟩

lemma perform_settings (hc : h.Coherent) (m : Move) :
    (h.perform m).settings = Move.settings h.settings m := by
  by_cases hm : ∃ s w, m = .reconfigure s w
  · obtain ⟨s, w, rfl⟩ := hm
    rw [perform, reconfigure_eq]
    exact (Walk.foldl reattach_calm w.documents _).keeps (I := fun k => k.settings = s) rfl
      fun hd hs hk => (hs.calm_stays hd).1.trans hk
  · have hstay : Move.settings h.settings m = h.settings := by
      cases m with
      | reconfigure s w => exact absurd ⟨s, w, rfl⟩ hm
      | _ => rfl
    rw [hstay]
    refine perform_keeps (P := fun d => d ≠ .renew) (I := fun k => k.settings = h.settings) hc rfl m
      ?_ ?_ fun hd hs _ hk => (hs.settings_stay hd).trans hk
    · rintro d hd rfl
      exact hm hd
    · rintro subject d hd rfl
      exact hd

lemma run_settings (hc : h.Coherent) (ms : List Move) :
    (h.run ms).settings = ms.foldl Move.settings h.settings := by
  induction ms generalizing h with
  | nil => rfl
  | cons m rest ih =>
    rw [List.foldl_cons, ← perform_settings hc]
    exact ih (perform_coherent hc m)

lemma settings_unchanged (s : Settings) (hm : ∀ m ∈ ms, ∀ s w, m ≠ .reconfigure s w) :
    ms.foldl Move.settings s = s := by
  induction ms with
  | nil => rfl
  | cons m rest ih =>
    have hstay : Move.settings s m = s := by
      cases m with
      | reconfigure t w => exact absurd rfl (hm _ List.mem_cons_self t w)
      | _ => rfl
    rw [List.foldl_cons, hstay]
    exact ih fun m hmem => hm m (List.mem_cons_of_mem _ hmem)

lemma run_root (hc : h.Coherent) (ms : List Move) : (h.run ms).root = h.root :=
  run_keeps (P := fun _ => True) (I := fun k => k.root = h.root) hc rfl ms
    (fun _ _ _ _ => trivial) (fun _ _ _ => trivial) fun _ hs _ hk => hs.root.trans hk

end Settings

section Messages

lemma Discourse.governed {sent : List (Nat × Submission)}
    {answer : LanguageId → Nat → Json → Prop} (hd : Discourse (Deed.Calm (some d)) h sent k)
    (hc : h.Coherent) (ha : h.Arranged) (hg : h.Greeted answer) {s : Nat × Submission}
    (hs : s ∈ sent) (hact : s.2.1.act?.isSome = true) :
    ∃ l i, h.Governed d l i s.1 s.2.1 := by
  obtain ⟨u, v, deed, e, l, i, j, act, hw, hp, hsub, had⟩ := hd.addressed hs hact
  obtain rfl : d = e := by
    cases deed <;> cases hsub <;> exact Option.some.inj hp
  -- The server is one that was ready before, but for the documents that it has open.
  have hstill := hw.continues hc
  obtain ⟨i', hi, hii⟩ := hstill.runs l i s.1 had.runs
  obtain ⟨response, hresponse, hcap, -⟩ := hg l i' s.1 hi
  have hset : i.settings = i'.settings := by rw [hii]
  have hadmits (hcloses : s.2.1.act? ≠ some .closes) : u.Admits l d :=
    had.admitted fun hact => hcloses (hact ▸ had.acts)
  refine ⟨l, i', hi, ha.server hi.current, ⟨response, hresponse, hcap⟩, fun hcloses => ?_,
    fun hcloses => ?_, fun id method params hm => ?_⟩
  · rw [← hstill.settings]
    exact (hadmits hcloses).1.routes (hw.arranged ha)
  · have hin := (hadmits hcloses).2
    rwa [inScope, had.runs.current, Option.any_some, hstill.root, hset] at hin
  · have henabled := had.enabled id method params hm
    rwa [hii] at henabled

lemma turn_governed {t : Turn} {answer : LanguageId → Nat → Json → Prop} (hc : t.before.Coherent)
    (ha : t.before.Arranged) (hg : t.before.Greeted answer) {s : Nat × Submission} (hs : s ∈ t.sent)
    (hact : s.2.1.act?.isSome = true) :
    ∃ d l i, t.move.subject = some d ∧ t.before.Governed d l i s.1 s.2.1 := by
  obtain ⟨_, _, deed, d, _, _, _, _, -, hp, hsub, -⟩ := (Turn.discourse hc).addressed hs hact
  have hm := hp d hsub
  obtain ⟨sent, hsent, hd⟩ := (perform_about (h := t.before) hm).discourse hc
  obtain ⟨l, i, hi⟩ := hd.governed hc ha hg (Turn.sent_eq hsent ▸ hs) hact
  exact ⟨d, l, i, hm, hi⟩

end Messages

section Launches

lemma Requests.obeys {request : LaunchRequest} (hr : h.Requests l request) (ha : h.Arranged) :
    request.Obeys h.settings h.environment.home := by
  obtain ⟨rfl, i, hi, hi'⟩ := hr
  refine ⟨i.settings, ha.server hi, ?_⟩
  simp only [Instance.launchRequest] at hi'
  cases hcommand : i.settings.commandLine?.bind (CommandLine.parse? h.environment.home) with
  | none => simp [hcommand] at hi'
  | some command =>
    simp only [hcommand] at hi'
    obtain rfl := Except.ok.inj hi'
    exact ⟨rfl, rfl, rfl⟩

variable {P : LaunchRequest → Settings → Environment → Prop}

lemma Walk.launched (hP : ∀ u l r, Requests u l r → Arranged u → P r u.settings u.environment)
    (hw : Walk (Deed.Calm subject) h k) (hc : h.Coherent) (ha : h.Arranged) :
    ∃ news, k.connections.launches = h.connections.launches ++ news ∧
      ∀ a ∈ news, P a.2 k.settings k.environment := by
  refine (hw.preserves (I := fun k => k.Arranged ∧
    ∃ news, k.connections.launches = h.connections.launches ++ news ∧
      ∀ a ∈ news, P a.2 k.settings k.environment) hc ⟨ha, [], by simp⟩
    fun {u v deed} hd hs hcu ⟨hau, news, hnews, hholds⟩ => ⟨hs.arranged hau, ?_⟩).2
  obtain ⟨hset, henv⟩ := hs.calm_stays hd
  rw [hset, henv]
  rcases hs.attempts hcu with hl | ⟨a, -, hr, hl⟩
  · exact ⟨news, hl.trans hnews, hholds⟩
  · refine ⟨news ++ [a], by rw [hl, hnews, List.append_assoc], fun b hb => ?_⟩
    rcases List.mem_append.mp hb with hb | hb
    · exact hholds b hb
    · obtain rfl := List.mem_singleton.mp hb
      exact hP u _ _ hr hau

lemma turn_launched (hP : ∀ u l r, Requests u l r → Arranged u → P r u.settings u.environment)
    {t : Turn} (hc : t.before.Coherent) (ha : t.before.Arranged) :
    ∀ a ∈ t.launches, P a.2 t.after.settings t.after.environment := by
  obtain ⟨k, hw, hcalm⟩ := perform_walk hc.languages t.move
  -- Nothing is launched before the calm part, in which the settings stay.
  have hquiet : k.connections.launches = t.before.connections.launches := by
    refine hw.preserves (I := fun k => k.connections.launches = t.before.connections.launches) hc rfl
      fun hd hs hcu hu => ?_
    rcases hs.attempts hcu with hl | ⟨a, rfl, -⟩
    · exact hl.trans hu
    · exact hd.elim
  obtain ⟨news, hnews, hholds⟩ := hcalm.launched hP (hw.coherent hc) (hw.arranged ha)
  have hlaunches : t.launches = news := by
    rw [Turn.launches, show t.after.connections.launches = _ from hnews, hquiet, List.drop_left]
  exact hlaunches ▸ hholds

lemma launches_obey {t : Turn} (hc : t.before.Coherent) (ha : t.before.Arranged) :
    ∀ a ∈ t.launches, a.2.Obeys t.after.settings t.after.environment.home :=
  turn_launched (P := fun r s env => r.Obeys s env.home) (fun _ _ _ hr hau => hr.obeys hau) hc ha

end Launches

/-- The settings of the last configuration are in force. Every slot is the one that they call for, and
every server has what they say of its language, which decides its scope; so a server that takes the place
of another one without a new configuration has the same settings. Messages about documents go to
servers with these settings only, by the routes and within the scopes and the features of these settings,
and servers are launched with them. -/
theorem settings_govern (settings : Settings) (root : Option FilePath) (environment : Environment)
    (ms : List Move) (hk : (fresh settings root environment).run ms = k) :
    k.settings = ms.foldl Move.settings settings ∧
      (∀ l slot, k.slots.get? l = some slot →
        ∃ c, k.settings.server l.name = .ok c ∧ slot.Fulfils c l) ∧
      (∀ l i, k.instance? l = some i → k.settings.server l.name = .ok i.settings ∧
        ∀ d, k.inScope l d = eligible root i.settings d) ∧
      (∀ ns l i j, (∀ m ∈ ns, ∀ s w, m ≠ .reconfigure s w) → k.instance? l = some i →
        (k.run ns).instance? l = some j → j.settings = i.settings) ∧
      ∀ t ∈ (fresh settings root environment).turns ms,
        (∀ s ∈ t.sent, s.2.1.act?.isSome = true →
          ∃ d l i, t.move.subject = some d ∧ t.before.Governed d l i s.1 s.2.1) ∧
        ∀ a ∈ t.launches, a.2.Obeys t.after.settings t.after.environment.home := by
  subst hk
  have hc := fresh_coherent settings root environment
  have ha := fresh_arranged settings root environment
  have hruns := fresh_runs settings root environment
  have hroot : (fresh settings root environment).root = root := rfl
  have hset : (fresh settings root environment).settings = settings := rfl
  generalize fresh settings root environment = h at hc ha hruns hroot hset
  have hck := run_coherent hc ms
  have hak := run_arranged hc ha ms
  refine ⟨hset ▸ run_settings hc ms, fun l slot hl => (hak l slot hl).fulfils,
    fun l i hi => ⟨hak.server hi, fun d => ?_⟩, fun ns l i j hns hi hj => ?_, fun t ht => ?_⟩
  · rw [inScope, hi, Option.any_some, run_root hc, hroot]
  · have hserver := (run_arranged hck hak ns).server hj
    rw [run_settings hck, settings_unchanged _ hns, hak.server hi] at hserver
    exact (Except.ok.inj hserver).symm
  · obtain ⟨pre, post, hsplit⟩ := List.append_of_mem ht
    obtain ⟨ns, rest, hb, -, -⟩ := turns_mem_split hsplit
    have hct : t.before.Coherent := hb ▸ run_coherent hc ns
    have hat : t.before.Arranged := hb ▸ run_arranged hc ha ns
    refine ⟨fun s hs hact => ?_, launches_obey hct hat⟩
    exact turn_governed hct hat (hb ▸ turns_greeted hc hruns ns) hs hact

end Host

namespace Sample

def altered : Settings :=
  ⟨[⟨⟨"settings"⟩, [], [], [("c", [[("command", .str "serve --quiet")]])]⟩], {}⟩

def reconfigured : Move := .reconfigure altered { documents := [document] }

def reform : List Move :=
  [.didOpen document, reconfigured, .stray 2 (.initializeResponse (.ok answer)) {}, .didOpen document]

def restarted : List Move := [.restartAll { documents := [document] }]

end Sample

namespace Host

theorem reform_governed :
    (∃ i j, (Sample.session.run Sample.reform).instance? Sample.language = some i ∧
        i.settings.command = some "serve --quiet" ∧ Sample.altered.server "c" = .ok i.settings ∧
        (Slot.active i).Fulfils i.settings Sample.language ∧
        ((Sample.session.run Sample.reform).run Sample.restarted).instance? Sample.language = some j ∧
        j.settings = i.settings) ∧
      (∃ s ∈ Turn.sent ⟨Sample.session.run (Sample.reform.take 3), .didOpen Sample.document⟩,
        s.1 = 2 ∧ ∃ d l i,
          (Sample.session.run (Sample.reform.take 3)).Governed d l i s.1 s.2.1) ∧
      ∃ a ∈ Turn.launches ⟨Sample.session.run (Sample.reform.take 1), Sample.reconfigured⟩,
        a.1 = 2 ∧ a.2.Obeys Sample.altered none := by
  obtain ⟨-, hslots, hservers, hrestart, hturns⟩ :=
    settings_govern Sample.settings none Sample.environment Sample.reform rfl
  have hcommand : ((Sample.session.run Sample.reform).instance? Sample.language).any
      (·.settings.command = some "serve --quiet") = true := by decide +kernel
  have hagain : (((Sample.session.run Sample.reform).run Sample.restarted).instance?
      Sample.language).isSome = true := by decide +kernel
  have hsent : (Turn.sent ⟨Sample.session.run (Sample.reform.take 3), .didOpen Sample.document⟩).any
      (fun s => s.1 = 2 ∧ s.2.1.act?.isSome) = true := by decide +kernel
  have hlaunched : (Turn.launches
      ⟨Sample.session.run (Sample.reform.take 1), Sample.reconfigured⟩).any (·.1 = 2) = true := by
    decide +kernel
  obtain ⟨i, hi, hcommand⟩ := (Option.any_eq_true ..).mp hcommand
  obtain ⟨j, hj⟩ := Option.isSome_iff_exists.mp hagain
  obtain ⟨s, hs, hmessage⟩ := List.any_eq_true.mp hsent
  obtain ⟨hto, hact⟩ := of_decide_eq_true hmessage
  obtain ⟨a, ha, hlaunch⟩ := List.any_eq_true.mp hlaunched
  have hopened : ⟨Sample.session.run (Sample.reform.take 3), .didOpen Sample.document⟩ ∈
      Sample.session.turns Sample.reform := by simp [Sample.reform, turns, run]
  have hreconfigured : ⟨Sample.session.run (Sample.reform.take 1), Sample.reconfigured⟩ ∈
      Sample.session.turns Sample.reform := by simp [Sample.reform, turns, run]
  obtain ⟨d, l, n, -, hgoverned⟩ := (hturns _ hopened).1 s hs hact
  obtain ⟨c, hserver, hfulfils⟩ := hslots _ _ (instance?_eq_some.mp hi)
  obtain rfl : c = i.settings := Except.ok.inj (hserver.symm.trans (hservers _ i hi).1)
  refine ⟨⟨i, j, hi, of_decide_eq_true hcommand, hserver, hfulfils, hj,
    hrestart Sample.restarted _ i j (by simp [Sample.restarted]) hi hj⟩,
    ⟨s, hs, hto, d, l, n, hgoverned⟩, a, ha, of_decide_eq_true hlaunch,
    (hturns _ hreconfigured).2 a ha⟩

end Host

end LanguageHost
