import LanguageHost.Proofs.Session.Requests
import LanguageHost.Proofs.Session.Governing
import LanguageHost.Proofs.Feature.Narrowing

/-! A server is asked for what it has announced. The provider of definitions stands for all five ways of
going somewhere; for the other requests each has a provider of its own. -/

namespace LanguageHost

namespace RequestKind

def provider : RequestKind → String
  | goto _ => "definitionProvider"
  | hover => "hoverProvider"
  | completion => "completionProvider"
  | signatureHelp => "signatureHelpProvider"
  | highlight => "documentHighlightProvider"
  | documentSymbols => "documentSymbolProvider"
  | semanticTokens => "semanticTokensProvider"
  | workspaceSymbols => "workspaceSymbolProvider"

lemma method_inj {a b : RequestKind} (h : a.method = b.method) : a = b := by
  cases a with
  | goto a =>
    cases b with
    | goto b => cases a <;> cases b <;> first | rfl | simp [method, GotoKind.method] at h
    | _ => cases a <;> simp [method, GotoKind.method] at h
  | _ =>
    cases b with
    | goto b => cases b <;> simp [method, GotoKind.method] at h
    | _ => first | rfl | simp [method] at h

end RequestKind

/-- In an answer to the handshake a provider is `true` or a table of options. -/
def Json.Advertises (answer : Json) (provider : String) : Prop :=
  answer.at? ["capabilities", provider] = some (.bool true) ∨
    ∃ options, answer.at? ["capabilities", provider] = some (.obj options)

namespace CapabilitySet

variable {answer capabilities : Json} {s : ServerSettings} {key : String}

lemma at?_capability (answer : Json) (key : String) :
    answer.at? ["capabilities", key] = ((answer.get? "capabilities").getD .null).get? key := by
  rw [← Json.at?_single]
  exact (at?_announced answer key []).symm

lemma provides_iff : provides capabilities key = true ↔
    capabilities.get? key = some (.bool true) ∨
      ∃ options, capabilities.get? key = some (.obj options) := by
  rw [provides]
  constructor
  · intro h
    split at h
    · next hv => exact .inl hv
    · next options hv => exact .inr ⟨options, hv⟩
    · cases h
  · rintro (hv | ⟨options, hv⟩) <;> rw [hv]

lemma advertises_iff : answer.Advertises key ↔
    provides ((answer.get? "capabilities").getD .null) key = true := by
  rw [provides_iff, Json.Advertises, at?_capability]

lemma provides_of_at? {member : String} {p : List String} {v : Json}
    (h : capabilities.at? (key :: member :: p) = some v) : provides capabilities key = true := by
  rw [Json.at?_cons] at h
  obtain ⟨w, hw, h⟩ := Option.bind_eq_some_iff.mp h
  refine provides_iff.mpr (.inr ?_)
  cases w with
  | obj options => exact ⟨options, hw⟩
  | _ => cases h

lemma triggers_at? {keys : List String} (h : (triggers capabilities keys).isEmpty = false) :
    ∃ v, capabilities.at? keys = some v := by
  cases hk : capabilities.at? keys with
  | some v => exact ⟨v, rfl⟩
  | none => simp [triggers, hk] at h

lemma provides_of_offers (kind : RequestKind)
    (h : offers capabilities (triggers capabilities ["completionProvider", "triggerCharacters"])
      (triggers capabilities ["signatureHelpProvider", "triggerCharacters"]) kind.feature = true) :
    provides capabilities kind.provider = true := by
  cases kind with
  | completion | signatureHelp =>
    obtain ⟨v, hv⟩ := triggers_at? (by simpa [offers, RequestKind.feature] using h)
    exact provides_of_at? hv
  | semanticTokens =>
    simp only [offers, RequestKind.feature] at h
    split at h
    · next hv => exact provides_of_at? hv
    · cases h
  | _ => exact h

lemma advertises_of_enabled {kind : RequestKind}
    (h : (negotiate answer s).isEnabled kind.feature = true) : answer.Advertises kind.provider :=
  advertises_iff.mpr (provides_of_offers kind (isEnabled_negotiate_iff.mp h).2)

end CapabilitySet

namespace Host

variable {h k : Host} {l n : LanguageId} {i : Instance} {g : Nat} {deed : Deed} {P : Deed → Prop}
  {sent : List (Nat × Submission)}

def Poses (h : Host) (g : Nat) (method : String) : Prop :=
  method = "initialize" ∨ method = "shutdown" ∨ ∃ l i, ∃ kind : RequestKind,
    h.Runs l i g ∧ method = kind.method ∧ i.capabilities.isEnabled kind.feature = true

def Posing (h k : Host) : Prop :=
  ∃ sent, k.connections.submissions = h.connections.submissions ++ sent ∧
    ∀ s ∈ sent, ∀ id method params, s.2.1 = .request id method params → h.Poses s.1 method

section Steps

lemma Posing.quiet (he : k.connections.submissions = h.connections.submissions) : h.Posing k :=
  ⟨[], by simp [he], by simp⟩

lemma Posing.silent {c : Connections} (he : h.connections.Evolves c [])
    (hk : k.connections = c := by rfl) : h.Posing k :=
  .quiet (hk ▸ he.silent)

lemma Posing.plain (he : k.connections.submissions = h.connections.submissions ++ sent)
    (hs : ∀ s ∈ sent, s.2.1.isRequest = false) : h.Posing k := by
  refine ⟨sent, he, fun s hm id method params hr => ?_⟩
  have hplain := hs s hm
  rw [hr] at hplain
  cases hplain

lemma Posing.called {m : String} {params : Json} {t : Ticket} (hm : h.Poses g m)
    (hk : k.connections = (h.connections.call g m params t).1) : h.Posing k := by
  obtain ⟨sent, he, hsent⟩ := Connections.call_evolves h.connections g m params t
  refine ⟨sent, hk ▸ he.submissions, fun s hs id method ps hr => ?_⟩
  obtain ⟨hg, id', hid⟩ := hsent s hs
  cases hid.symm.trans hr
  exact hg ▸ hm

lemma Posing.told (hc : h.Coherent) (hi : h.instance? l = some i) (hr : i.state = .ready)
    {method : String} {params : Json}
    (hk : k.connections = h.connections.tell i.connection method params) : h.Posing k := by
  obtain ⟨g, hg⟩ := hc.runs hi hr
  obtain ⟨result, he⟩ := tell_said hc hg method params
  exact .plain (hk ▸ he) (by simp [Outbound.isRequest])

lemma Step.posing (hs : Step h deed k) (hc : h.Coherent) : h.Posing k := by
  cases hs with
  | told | taken | progressed | announced | requested | elapsed | surrounded | sealed | shuffled
    | replaced | popped | collected | touched | unlisted | excused | idled | forgotten | retired =>
    exact .quiet rfl
  | logged r => exact .silent (Connections.log_evolves _ r)
  | received g signals => exact .silent (Connections.receive_evolves _ g signals)
  | ended g => exact .silent (Connections.endOutput_evolves _ g)
  | planned g plan => exact .silent (Connections.setPlan_evolves _ g plan)
  | configured l slot notes => exact .silent (Connections.logs_evolves notes _)
  | unlaunched l i e => exact .silent (Connections.log_evolves _ _)
  | failed l i request notes e =>
    exact .quiet ((Connections.log_evolves _ _).silent.trans (launching_submissions h request notes))
  | unattached l i request notes plan e =>
    exact .quiet (((Connections.record_evolves _ rfl rfl).trans
      (Connections.log_evolves _ _)).silent.trans (launching_submissions h request notes))
  | lost l i | abandoned l i | muted l i | evicted l i | expelled i =>
    exact .silent (i.finish_evolves .forceExit _)
  | dropped l i how | departed i rest how => exact .silent (i.finish_evolves how _)
  | replied l i g id r =>
    obtain ⟨sent, he, hsent⟩ := Connections.reply_evolves h.connections g id r
    refine .plain he.submissions fun s hm => ?_
    cases hsent with
    | inl hnone => simp [hnone] at hm
    | inr hone =>
      obtain ⟨result, rfl⟩ := hone
      rw [List.mem_singleton.mp hm]
      rfl
  | searched l i g query hi hr hg he =>
    exact .called (.inr (.inr ⟨l, i, .workspaceSymbols, ⟨hi, hr, hg⟩, rfl, he⟩)) rfl
  | asked l i g kind d uri p hi hr hg he =>
    exact .called (.inr (.inr ⟨l, i, kind, ⟨hi, hr, hg⟩, rfl, he⟩)) rfl
  | stopping l i g | reminded l i g => exact .called (.inr (.inl rfl)) rfl
  | opened l i d uri hi hr | changed l i d change uri hi hr | saved l i d uri hi hr
    | closed l i d uri hi hr => exact .told hc hi hr rfl
  | launched l i request notes plan hi =>
    have hnone : (h.launching request notes).language? h.nextGeneration = none :=
      ((launching_keeps h request notes).language _).trans (hc.fresh _ (Nat.le_refl _))
    obtain ⟨sent, he, hsent⟩ := i.connect_evolves h.root h.environment h.nextGeneration plan
      (h.environment.overture h.nextGeneration request) _ hnone
    refine ⟨_, he.submissions.trans (congrArg (· ++ _) (launching_submissions h request notes)), ?_⟩
    intro s hm id method ps hr
    rcases hsent with rfl | ⟨_, _, _, rfl⟩
    · simp at hm
    rw [List.mem_singleton.mp hm] at hr
    cases hr
    exact .inl rfl
  | welcomed l i g response hi hst hg =>
    obtain ⟨result, he⟩ := Instance.initializeSucceeded_sends hg (hc.linked hi hg) response
    exact .plain he.submissions (by simp [Outbound.isRequest])
  | acknowledged l i g hi hg hst =>
    obtain ⟨result, he⟩ := Instance.notify_sends hg (hc.linked hi hg) "exit" .null
    exact .plain he.submissions (by simp [Outbound.isRequest])
  | released i g hi hg =>
    obtain ⟨m, hm, hl⟩ := (hc.leaves i hi).linked
    obtain rfl : m = g := Option.some.inj (hm.symm.trans hg)
    obtain ⟨result, he⟩ := Instance.notify_sends hg hl "exit" .null
    exact .plain he.submissions (by simp [Outbound.isRequest])

end Steps

end Host

namespace Turn

def Presents (t : Turn) (l : LanguageId) (g : Nat) (response : Json) : Prop :=
  t.event? = some ⟨l, g, .initializeResponse (.ok response)⟩ ∧
    t.before.Stands l g .awaitingInitialize

end Turn

namespace Host

variable {h k : Host} {l n : LanguageId} {i : Instance} {g : Nat} {P : Deed → Prop}
  {answer : LanguageId → Nat → Json → Prop}

section Introductions

lemma Walk.untold (hw : Walk P h k) (hc : h.Coherent) (hk : k.Untold g) : h.Untold g := by
  induction hw with
  | refl => exact hk
  | tail hw hlast ih =>
    obtain ⟨deed, -, hs⟩ := hlast
    exact ih (hs.untold (Walk.coherent hw hc) hk)

lemma Walk.welcomes (hw : Walk P h k) (hc : h.Coherent) :
    Walk (fun d => P d ∧ ∀ l g response, d = .welcome l g response → h.Untold g) h k := by
  induction hw with
  | refl => exact .refl h
  | tail hw hlast ih =>
    obtain ⟨deed, hd, hs⟩ := hlast
    refine ih.trans (.step hs ⟨hd, ?_⟩)
    rintro l g response rfl
    exact Walk.untold hw hc hs.welcome_untold

lemma stands_of_untold (hc : h.Coherent) (hcur : h.isCurrent l g = true) (hu : h.Untold g) :
    h.Stands l g .awaitingInitialize := by
  obtain ⟨i, hi, hg⟩ := (Option.any_eq_true ..).mp hcur
  have hhas := has_current hi (of_decide_eq_true hg)
  cases hu with
  | inl hle =>
    have := hc.has_issued hhas
    omega
  | inr hwait =>
    have hst := hc.has_unique hhas hwait
    exact ⟨i, hi, of_decide_eq_true hg, Station.current.inj hst⟩

lemma Walk.provided (hw : Walk P h k) (hc : h.Coherent)
    (hp : ∀ l g response, P (.welcome l g response) → answer l g response) (hg : h.Greeted answer) :
    k.Greeted answer ∧ ∃ sent, k.connections.submissions = h.connections.submissions ++ sent ∧
      ∀ s ∈ sent, ∀ (id : Int) (kind : RequestKind) (params : Option Json),
        s.2.1 = .request id kind.method params →
          ∃ l response, answer l s.1 response ∧ response.Advertises kind.provider := by
  refine (hw.preserves (I := fun k => k.Greeted answer ∧
    ∃ sent, k.connections.submissions = h.connections.submissions ++ sent ∧
      ∀ s ∈ sent, ∀ (id : Int) (kind : RequestKind) (params : Option Json),
        s.2.1 = .request id kind.method params →
          ∃ l response, answer l s.1 response ∧ response.Advertises kind.provider) hc
    ⟨hg, [], by simp, by simp⟩ fun {u v deed} hd hs hcu ⟨hgu, sent, hsent, hheld⟩ => ⟨?_, ?_⟩)
  · exact Walk.greeted (.step hs hd) hcu hp hgu
  · obtain ⟨new, hnew, hposed⟩ := hs.posing hcu
    refine ⟨sent ++ new, by rw [hnew, hsent, List.append_assoc], fun s hm id kind params hr => ?_⟩
    cases List.mem_append.mp hm with
    | inl hm => exact hheld s hm id kind params hr
    | inr hm =>
      have hfeature := Outbound.featureMethod_kind kind
      rcases hposed s hm id kind.method params hr with hm | hm | ⟨l, i, other, hi, hm, he⟩
      · rw [hm] at hfeature
        cases hfeature
      · rw [hm] at hfeature
        cases hfeature
      · obtain rfl := RequestKind.method_inj hm
        obtain ⟨response, -, hcap, hanswer⟩ := hgu l i s.1 hi
        rw [hcap] at he
        exact ⟨l, response, hanswer, CapabilitySet.advertises_of_enabled he⟩

def Introduced (ts : List Turn) (l : LanguageId) (g : Nat) (response : Json) : Prop :=
  ∃ u ∈ ts, u.Presents l g response

lemma turn_provided {pre : List Turn} {t : Turn} (hc : t.before.Coherent)
    (hg : t.before.Greeted (Introduced pre)) :
    t.after.Greeted (Introduced (pre ++ [t])) ∧
      ∀ s ∈ t.sent, ∀ (id : Int) (kind : RequestKind) (params : Option Json),
        s.2.1 = .request id kind.method params →
          ∃ l response, Introduced (pre ++ [t]) l s.1 response ∧
            response.Advertises kind.provider := by
  have hstart : t.before.Greeted (Introduced (pre ++ [t])) := by
    intro l i g hi
    obtain ⟨response, hh, hcap, u, hu, hin⟩ := hg l i g hi
    exact ⟨response, hh, hcap, u, List.mem_append_left _ hu, hin⟩
  obtain ⟨k, hw, hcalm⟩ := perform_walk hc.languages t.move
  obtain ⟨hgk, first, hfirst, hprovided⟩ := (hw.welcomes hc).provided hc
    (fun l g response hd =>
      ⟨t, by simp, hd.1.1, stands_of_untold hc hd.1.2 (hd.2 l g response rfl)⟩)
    hstart
  obtain ⟨hgt, last, hlast, hprovided'⟩ := hcalm.provided (hw.coherent hc)
    (fun _ _ _ => False.elim) hgk
  refine ⟨hgt, fun s hs => ?_⟩
  have hsent : t.sent = first ++ last := Turn.sent_eq (by
    rw [← List.append_assoc, ← hfirst]
    exact hlast)
  cases List.mem_append.mp (hsent ▸ hs) with
  | inl hs => exact hprovided s hs
  | inr hs => exact hprovided' s hs

lemma turns_introduced (hc : h.Coherent) (hn : ∀ l i g, ¬h.Runs l i g) (ms : List Move) :
    (h.run ms).Greeted (Introduced (h.turns ms)) := by
  induction ms using List.reverseRecOn with
  | nil => exact fun l i g hi => absurd hi (hn l i g)
  | append_singleton ms m ih =>
    rw [turns_append, run_append]
    exact (turn_provided (t := ⟨h.run ms, m⟩) (run_coherent hc ms) ih).1

end Introductions

section Refusals

lemma gate_refuses {f : Feature} (ha : h.Arranged) (hi : h.Runs l i g)
    (hr : Routes h.settings n l) (he : i.capabilities.isEnabled f = false) :
    ∃ k source, h.gate n f = (k, .error (.featureUnavailable l f source)) := by
  obtain ⟨k, hk, hki⟩ := resolve_routed ha hi.current hr
  refine ⟨k, i.capabilities.sourceOf f, ?_⟩
  have hoff : (i.capabilities.sourceOf f).isEnabled = false := he
  simp only [gate, hk, hki, hi.ready, ne_eq, not_true_eq_false, if_false, hoff, Bool.false_eq_true]

lemma ask_refuses {q : Inquiry} (ha : h.Arranged) (hi : h.Runs l i g) (hn : q.language = some n)
    (hr : Routes h.settings n l) (he : i.capabilities.isEnabled q.kind.feature = false) :
    ∃ k source, h.ask q = (k, .error (.featureUnavailable l q.kind.feature source)) ∧
      h.Untouched k := by
  obtain ⟨k, source, hk⟩ := gate_refuses ha hi hr he
  have hconsults := gate_consults h n q.kind.feature
  rw [hk] at hconsults
  refine ⟨k, source, ?_, hconsults.untouched⟩
  cases q with
  | about kind d p =>
    have hd : d.language = some n := hn
    simp only [Inquiry.kind] at hk ⊢
    simp only [ask, request, hd, hk]
  | symbols m query =>
    obtain rfl := Option.some.inj hn
    simp only [Inquiry.kind, RequestKind.feature] at hk ⊢
    simp only [ask, workspaceSymbols, hk]

end Refusals

/-- Whatever the servers announce and whatever the settings are, a feature request is written only to a
server whose answer to the handshake has the provider that stands for it, and a request for which this
provider is missing is refused and leaves the session untouched. -/
theorem features_advertised (settings : Settings) (root : Option FilePath) (environment : Environment)
    (ms : List Move) (hk : (fresh settings root environment).run ms = k) :
    (∀ pre t post, (fresh settings root environment).turns ms = pre ++ t :: post →
      ∀ s ∈ t.sent, ∀ (id : Int) (kind : RequestKind) (params : Option Json),
        s.2.1 = .request id kind.method params →
          ∃ l response, Introduced (pre ++ [t]) l s.1 response ∧
            response.Advertises kind.provider) ∧
      ∀ l i g, k.Runs l i g → ∃ response,
        Introduced ((fresh settings root environment).turns ms) l g response ∧
          ∀ q n, q.language = some n → Routes k.settings n l →
            ¬ response.Advertises q.kind.provider →
              ∃ source, (k.ask q).2 = .error (.featureUnavailable l q.kind.feature source) ∧
                k.Untouched (k.ask q).1 := by
  subst hk
  have hc := fresh_coherent settings root environment
  have ha := fresh_arranged settings root environment
  have hruns := fresh_runs settings root environment
  generalize fresh settings root environment = h at hc ha hruns
  constructor
  · intro pre t post hts
    obtain ⟨ns, rest, hb, hpre, -⟩ := turns_mem_split hts
    have hct : t.before.Coherent := hb ▸ run_coherent hc ns
    have hg := turns_introduced hc hruns ns
    rw [← hb, ← hpre] at hg
    exact (turn_provided hct hg).2
  · intro l i g hi
    obtain ⟨response, -, hcap, hin⟩ := turns_introduced hc hruns ms l i g hi
    refine ⟨response, hin, fun q n hn hr hnone => ?_⟩
    have he : i.capabilities.isEnabled q.kind.feature = false := by
      rw [Bool.eq_false_iff, hcap]
      exact fun he => hnone (CapabilitySet.advertises_of_enabled he)
    obtain ⟨k, source, hask, huntouched⟩ := ask_refuses (run_arranged hc ha ms) hi hn hr he
    exact ⟨source, by rw [hask], by rw [hask]; exact huntouched⟩

end Host

namespace Sample

def finder : Json := .object [("capabilities", .object [("definitionProvider", .bool true)])]

def search : Move := .request (.goto .declaration) document ⟨0, 0⟩

def finding : List Move := [.didOpen document, .stray 1 (.initializeResponse (.ok finder)) {}, search]

lemma finder_hover : ¬ finder.Advertises "hoverProvider" := by
  rw [CapabilitySet.advertises_iff]
  decide

lemma finder_declaration : ¬ finder.Advertises "declarationProvider" := by
  rw [CapabilitySet.advertises_iff]
  decide

lemma finding_introduced {l : LanguageId} {response : Json}
    (h : Host.Introduced (session.turns finding) l 1 response) : response = finder := by
  obtain ⟨u, hu, hevent, -⟩ := h
  simp only [finding, Host.turns, List.mem_cons, List.not_mem_nil, or_false] at hu
  rcases hu with rfl | rfl | rfl
  · cases hevent
  · simp only [Turn.event?, Host.incoming, Option.map_eq_some_iff] at hevent
    obtain ⟨m, -, he⟩ := hevent
    cases he
    rfl
  · cases hevent

lemma finding_sent : ∃ s ∈ Turn.sent ⟨session.run (finding.take 2), search⟩, ∃ id params,
    s.1 = 1 ∧ s.2.1 = .request id "textDocument/declaration" params := by
  have hany : (Turn.sent ⟨session.run (finding.take 2), search⟩).any
      (fun s => s.1 = 1 ∧ s.2.1.isRequest ∧ s.2.1.method? = some "textDocument/declaration") = true := by
    decide +kernel
  obtain ⟨⟨g, m, result⟩, hs, hm⟩ := List.any_eq_true.mp hany
  obtain ⟨hg, hr, hmethod⟩ := of_decide_eq_true hm
  cases m with
  | request id method params =>
    cases hmethod
    exact ⟨_, hs, id, params, hg, rfl⟩
  | _ => cases hr

lemma finding_runs : ∃ i, (session.run finding).Runs language i 1 := by
  have hany : ((session.run finding).instance? language).any
      (fun i => i.state = .ready ∧ i.connection = some 1) = true := by decide +kernel
  obtain ⟨i, hi, hi'⟩ := (Option.any_eq_true ..).mp hany
  obtain ⟨hr, hg⟩ := of_decide_eq_true hi'
  exact ⟨i, hi, hr, hg⟩

end Sample

namespace Host

theorem finding_advertised :
    (∃ s ∈ Turn.sent ⟨Sample.session.run (Sample.finding.take 2), Sample.search⟩, s.1 = 1 ∧
        ∃ l response, Introduced (Sample.session.turns Sample.finding) l 1 response ∧
          response.Advertises "definitionProvider") ∧
      ∃ source, ((Sample.session.run Sample.finding).ask Sample.hover).2 =
        .error (.featureUnavailable Sample.language .hover source) := by
  obtain ⟨hsent, hready⟩ :=
    features_advertised Sample.settings none Sample.environment Sample.finding rfl
  obtain ⟨s, hs, id, params, hg, hm⟩ := Sample.finding_sent
  obtain ⟨i, hi⟩ := Sample.finding_runs
  obtain ⟨response, hin, hrefused⟩ := hready Sample.language i 1 hi
  obtain rfl := Sample.finding_introduced hin
  obtain ⟨source, hasked, -⟩ := hrefused Sample.hover Sample.language rfl (.inl rfl)
    Sample.finder_hover
  refine ⟨⟨s, hs, hg, ?_⟩, source, hasked⟩
  exact hg ▸ hsent (Sample.session.turns (Sample.finding.take 2)) _ [] rfl s hs id
    (.goto .declaration) params hm

/-- A server that only finds definitions is asked for a declaration. -/
theorem declaration_asked :
    ∃ t ∈ Sample.session.turns Sample.finding, ∃ s ∈ t.sent, ∃ id params,
      s.1 = 1 ∧ s.2.1 = .request id "textDocument/declaration" params ∧
        ∀ l response, Introduced (Sample.session.turns Sample.finding) l 1 response →
          ¬ response.Advertises "declarationProvider" := by
  obtain ⟨s, hs, id, params, hg, hm⟩ := Sample.finding_sent
  refine ⟨_, ?_, s, hs, id, params, hg, hm, fun l response hin => ?_⟩
  · simp [Sample.finding, turns, run]
  · rw [Sample.finding_introduced hin]
    exact Sample.finder_declaration

end Host

end LanguageHost
