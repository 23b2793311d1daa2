import LanguageHost.Proofs.Rpc.Positional
import LanguageHost.Proofs.Session.Posting
import LanguageHost.Proofs.Session.Replies

namespace LanguageHost

namespace Inbound

variable {j : Json} {id : RequestId} {method : String} {params : Json}

lemma readId_toJson (h : readId j = some id) : id.toJson = j := by
  cases j with
  | str s =>
    obtain rfl := Option.some.inj h
    rfl
  | int n =>
    obtain ⟨m, hm, rfl⟩ := Option.map_eq_some_iff.mp h
    simp only [Json.asInt64?, Json.intIn?, Option.ite_none_right_eq_some] at hm
    obtain ⟨-, hm⟩ := hm
    rw [← Option.some.inj hm, RequestId.toJson]
  | _ => cases h

lemma classify_request (h : classify j = .ok (.request id method params)) :
    member? "id" 0 j = some id.toJson := by
  obtain ⟨raw, hr, hraw⟩ := classify_ok h
  have hid : raw.id = some id := by
    simp only [ofRaw] at hraw
    split at hraw
    · next name n hname hn =>
      obtain ⟨rfl, -, -⟩ := Inbound.request.inj (Except.ok.inj hraw)
      exact hn
    · cases hraw
    · split at hraw <;> cases hraw
  obtain ⟨v, hv, hmember⟩ := (optional_isSome hr.id).mp (by rw [hid]; rfl)
  have hread := hr.id
  rw [hmember, optional_present hv, hid] at hread
  cases hi : readId v with
  | none => simp [hi] at hread
  | some n =>
    rw [hi] at hread
    obtain rfl := Option.some.inj (Except.ok.inj hread)
    rw [hmember, readId_toJson hi]

end Inbound

namespace Outbound

structure Echoes (m : Outbound) (j : Json) : Prop where
  id : ∃ v, Inbound.member? "id" 0 j = some v ∧ m.toJson.get? "id" = some v
  outcome : (m.toJson.get? "result").isSome ≠ (m.toJson.get? "error").isSome

lemma reply_echoes {j : Json} {id : RequestId} {method : String} {params : Json}
    (hj : Inbound.classify j = .ok (.request id method params)) (r : Reply) :
    (reply id r).Echoes j where
  id := by
    refine ⟨_, Inbound.classify_request hj, ?_⟩
    cases r <;> simp [toJson, members, version, Reply.member, Json.object, Json.get?, Members.ofList,
      Members.find?_insert]
  outcome := by
    cases r <;> simp [toJson, members, version, Reply.member, Json.object, Json.get?, Members.ofList,
      Members.find?_insert, Members.find?]

end Outbound

namespace Connections

variable {c : Connections} {g : Nat} {client : Client Ticket} {j : Json}

lemma reply_said (hl : (c.language? g).isSome = true) (id : RequestId) (r : Reply) :
    ∃ result, Evolves c (c.reply g id r).1 [(g, .reply id r, result)] := by
  obtain ⟨l, hl⟩ := Option.isSome_iff_exists.mp hl
  obtain ⟨client, hc, -⟩ := Option.map_eq_some_iff.mp hl
  obtain ⟨result, hs⟩ := Client.submissions_reply client id r
  have ha := accept_evolves c hc (Client.reply_same client id r) (client.reply id r).2.1
  rw [hs] at ha
  exact ⟨result, by simp only [reply, ask, hc]; exact ha⟩

def read (c : Connections) (g : Nat) (j : Json) : Connections := c.update g (·.dispatch j)

lemma read_evolves (c : Connections) (g : Nat) (j : Json) : Evolves c (c.read g j) [] :=
  update_evolves c g _ (·.dispatch_traffic j)

lemma read_inbox (hc : c.get? g = some client) (j : Json) :
    (c.read g j).inbox =
      c.inbox ++ (client.dispatch j).2.filterMap (·.event? client.language g) := by
  obtain ⟨hgeneration, hlanguage⟩ := (client.dispatch_traffic j).1
  rw [read, update_accept hc, accept, absorbs_posts, hgeneration, hlanguage, get?_generation hc]
  rfl

lemma read_request (hc : c.get? g = some client) {id : RequestId} {method : String} {params : Json}
    (hj : Inbound.classify j = .ok (.request id method params)) :
    (c.read g j).inbox = c.inbox ++ [⟨client.language, g, .request id method params⟩] := by
  have hdone := (Client.dispatch_other (c := client) (m := j) (by simp [hj])).2
  have hpassed : Inbound.passed? j = some (.request id method params) := by
    rw [Inbound.passed?_classify, hj]
  rw [read_inbox hc, events_of_reports hdone, Client.dispatch_reports, hpassed]
  rfl

lemma read_other (hj : ∀ id method params, Inbound.classify j ≠ .ok (.request id method params))
    {e : ServerEvent} (he : e ∈ (c.read g j).inbox) :
    e ∈ c.inbox ∨ ∀ id method params, e.kind ≠ .request id method params := by
  cases hc : c.get? g with
  | none =>
    simp only [read, update, hc] at he
    exact .inl he
  | some client =>
    rw [read_inbox hc, List.mem_append] at he
    refine he.imp_right fun hnew id method params hk => ?_
    have hreport : e ∈ ((client.dispatch j).2.filterMap (·.event? client.language g)).filter
        (·.kind.answer?.isNone) :=
      List.mem_filter.mpr ⟨hnew, by rw [hk]; rfl⟩
    rw [events_reports, Client.dispatch_reports, Inbound.passed?_classify] at hreport
    obtain ⟨kind, hkind, rfl⟩ := List.mem_map.mp hreport
    obtain rfl : kind = .request id method params := hk
    split at hkind
    · cases List.mem_singleton.mp hkind
    · next n m p hm =>
      obtain ⟨rfl, rfl, rfl⟩ := ServerEventKind.request.inj (List.mem_singleton.mp hkind)
      exact hj _ _ _ hm
    · cases hkind

end Connections

namespace Host

variable {h k : Host} {w : Workspace} {l : LanguageId} {i : Instance} {g : Nat} {j : Json}
  {id : RequestId} {method : String} {params : Json}

def itemCount (params : Json) : Nat :=
  match params.get? "items" with
  | some (.arr items) => items.length
  | _ => 0

def supported : List String :=
  ["window/workDoneProgress/create", "workspace/applyEdit", "workspace/configuration",
    "client/registerCapability", "client/unregisterCapability"]

def edit? (params : Json) : Option WorkspaceEdit :=
  ((Shapes.applyEdit.read? params).bind (·.get? "edit")).map .mk

/-- The answer that is due to a request, and what becomes of the workspace. -/
inductive Due (w : Workspace) : String → Json → Reply → Workspace → Prop
  | created (params : Json) : Due w "window/workDoneProgress/create" params (.result .null) w
  | edited (params : Json) (edit : WorkspaceEdit) (he : edit? params = some edit) :
      Due w "workspace/applyEdit" params
        (.result (.object [("applied", .bool (w.applyEdit edit).2)])) (w.applyEdit edit).1
  | misread (params : Json) (message : String) (he : edit? params = none) :
      Due w "workspace/applyEdit" params (.error invalidParams message) w
  | configured (params : Json) :
      Due w "workspace/configuration" params
        (.result (.arr (List.replicate (itemCount params) .null))) w
  | registered (params : Json) : Due w "client/registerCapability" params (.result .null) w
  | unregistered (params : Json) : Due w "client/unregisterCapability" params (.result .null) w
  | rejected (method : String) (params : Json) (hm : method ∉ supported) :
      Due w method params (.error methodNotFound ("unsupported method: " ++ method)) w

lemma configurationReply_eq (params : Json) :
    configurationReply params = .result (.arr (List.replicate (itemCount params) .null)) := by
  simp only [configurationReply, itemCount, List.map_const']
  cases hi : params.get? "items" with
  | none => rfl
  | some items => cases items <;> rfl

lemma answer_due (h : Host) (w : Workspace) (l : LanguageId) (method : String) (params : Json) :
    Due w method params (h.answer w l method params).2.2 (h.answer w l method params).2.1 := by
  simp only [answer]
  split
  · next hm =>
    subst hm
    split <;> exact .created params
  · split
    · next hm =>
      subst hm
      split
      · next edit he => exact .edited params ⟨edit⟩ (by simp [edit?, he])
      · next he => exact .misread params _ (by simp [edit?, he])
    · split
      · next hm =>
        subst hm
        rw [configurationReply_eq]
        exact .configured params
      · split
        · next hm =>
          rcases hm with rfl | rfl
          · exact .registered params
          · exact .unregistered params
        · refine .rejected method params ?_
          simp_all [supported]

lemma answer_quiet (h : Host) (w : Workspace) (l : LanguageId) (method : String) (params : Json) :
    h.connections.Evolves (h.answer w l method params).1.connections [] ∧
      (h.answer w l method params).1.slots = h.slots := by
  simp only [answer]
  split
  · split <;> exact ⟨.refl _, rfl⟩
  · split
    · split <;> exact ⟨.refl _, rfl⟩
    · split
      · exact ⟨.refl _, rfl⟩
      · split
        · exact ⟨.refl _, rfl⟩
        · exact ⟨Connections.log_evolves _ _, rfl⟩

lemma sendReply_sends (hi : h.instance? l = some i) (hg : i.connection = some g)
    (hl : (h.connections.language? g).isSome = true) (id : RequestId) (method : String) (r : Reply) :
    ∃ result, (h.sendReply l id method r).connections.submissions =
      h.connections.submissions ++ [(g, .reply id r, result)] := by
  obtain ⟨result, he⟩ := Connections.reply_said hl id r
  refine ⟨result, ?_⟩
  simp only [sendReply, hi, Option.bind_some, hg]
  split
  · exact he.submissions
  · exact (he.trans_quiet (Connections.log_evolves _ _)).submissions

/-- One message is submitted: the reply that is due to a request, on its connection. -/
def Answers (h : Host) (w : Workspace) (g : Nat) (j : Json) (p : Host × Workspace) : Prop :=
  ∃ id method params r result, Inbound.classify j = .ok (.request id method params) ∧
    p.1.connections.submissions = h.connections.submissions ++ [(g, .reply id r, result)] ∧
    (Outbound.reply id r).Echoes j ∧ Due w method params r p.2

lemma handleEvent_replies (hc : h.Coherent) (hi : h.instance? l = some i)
    (hg : i.connection = some g) (w : Workspace) (id : RequestId) (method : String) (params : Json) :
    ∃ r result, (h.handleEvent w ⟨l, g, .request id method params⟩).1.connections.submissions =
        h.connections.submissions ++ [(g, .reply id r, result)] ∧
      Due w method params r (h.handleEvent w ⟨l, g, .request id method params⟩).2 := by
  rw [handleEvent_current hc hi hg]
  have hdue := answer_due h w l method params
  obtain ⟨he, hslots⟩ := answer_quiet h w l method params
  simp only [handleCurrent, onRequest]
  generalize h.answer w l method params = p at hdue he hslots ⊢
  obtain ⟨k, v, r⟩ := p
  have hk : k.instance? l = some i := by rwa [instance?, hslots]
  have hl : (k.connections.language? g).isSome = true := by
    rw [he.language, hc.linked hi hg]
    rfl
  obtain ⟨result, hsent⟩ := sendReply_sends hk hg hl id method r
  exact ⟨r, result, by rw [← he.silent]; exact hsent, hdue⟩

lemma handleEvent_answers (hc : h.Coherent) (hi : h.instance? l = some i)
    (hg : i.connection = some g) (hj : Inbound.classify j = .ok (.request id method params))
    (w : Workspace) :
    h.Answers w g j (h.handleEvent w ⟨l, g, .request id method params⟩) := by
  obtain ⟨r, result, hsent, hdue⟩ := handleEvent_replies hc hi hg w id method params
  exact ⟨id, method, params, r, result, hj, hsent, Outbound.reply_echoes hj r, hdue⟩

lemma handleNext_answers (hc : h.Coherent) (hi : h.instance? l = some i)
    (hg : i.connection = some g) (hj : Inbound.classify j = .ok (.request id method params))
    {rest : List ServerEvent}
    (hq : h.connections.inbox = ⟨l, g, .request id method params⟩ :: rest) (w : Workspace) :
    ∃ p, h.handleNext w = some p ∧ h.Answers w g j p := by
  have hpopped : Coherent { h with connections := { h.connections with inbox := rest } } :=
    Step.coherent (.popped _ rest hq) hc
  exact ⟨_, by simp only [handleNext, hq], handleEvent_answers hpopped hi hg hj w⟩

end Host

def Turn.petition? (t : Turn) : Option (Nat × RequestId) :=
  match t.event? with
  | some ⟨l, g, .request id _ _⟩ => if t.before.isCurrent l g then some (g, id) else none
  | _ => none

def Satisfies (p : Nat × RequestId) (s : Nat × Submission) : Prop :=
  s.1 = p.1 ∧ ∃ r, s.2.1 = .reply p.2 r

namespace Host

variable {h k : Host} {l : LanguageId} {i : Instance} {g : Nat} {ms : List Move}

lemma turn_replies {t : Turn} (hc : t.before.Coherent) :
    ∃ new, List.Forall₂ Satisfies t.petition?.toList new ∧
      t.after.connections.replies = t.before.connections.replies ++ new := by
  have hmute (hp : t.petition? = none)
      (hm : t.after.connections.replies = t.before.connections.replies) :
      ∃ new, List.Forall₂ Satisfies t.petition?.toList new ∧
        t.after.connections.replies = t.before.connections.replies ++ new :=
    ⟨[], by rw [hp]; exact .nil, by rw [hm, List.append_nil]⟩
  cases he : t.event? with
  | none =>
    exact hmute (by simp only [Turn.petition?, he]) (perform_mute_unprompted he)
  | some e =>
    obtain ⟨w, hafter⟩ := t.after_of_event he
    have hw := t.coherent_waiting hc
    obtain ⟨l, g, kind⟩ := e
    by_cases hreq : (∃ id method params, kind = .request id method params) ∧
        t.before.isCurrent l g = true
    · obtain ⟨⟨id, method, params, rfl⟩, hcur⟩ := hreq
      obtain ⟨i, hi, hg⟩ := isCurrent_iff.mp hcur
      obtain ⟨r, result, hsent, -⟩ := handleEvent_replies hw hi hg w.bare id method params
      refine ⟨[(g, .reply id r, result)], ?_, ?_⟩
      · simp only [Turn.petition?, he, hcur, if_true, Option.toList_some]
        exact .cons ⟨rfl, r, rfl⟩ .nil
      · rw [← hafter] at hsent
        rw [Connections.replies, hsent, List.filter_append]
        rfl
    · have hidle (id : RequestId) (method : String) (params : Json)
          (hk : kind = .request id method params) : t.before.isCurrent l g = false := by
        cases hcur : t.before.isCurrent l g with
        | false => rfl
        | true => exact absurd ⟨⟨id, method, params, hk⟩, hcur⟩ hreq
      refine hmute ?_ (hafter ▸ handleEvent_mute w.bare hw ⟨l, g, kind⟩ hidle)
      cases kind with
      | request id method params => simp [Turn.petition?, he, hidle id method params rfl]
      | _ => simp only [Turn.petition?, he]

lemma run_replies (hc : h.Coherent) (ms : List Move) :
    ∃ new, List.Forall₂ Satisfies ((h.turns ms).filterMap Turn.petition?) new ∧
      (h.run ms).connections.replies = h.connections.replies ++ new := by
  induction ms generalizing h with
  | nil => exact ⟨[], .nil, (List.append_nil _).symm⟩
  | cons m rest ih =>
    obtain ⟨first, hfirst, hone⟩ := turn_replies (t := ⟨h, m⟩) hc
    obtain ⟨later, hlater, hmore⟩ := ih (perform_coherent hc m)
    refine ⟨first ++ later, ?_, ?_⟩
    · have hsplit : (h.turns (m :: rest)).filterMap Turn.petition? =
          (Turn.petition? ⟨h, m⟩).toList ++ ((h.perform m).turns rest).filterMap Turn.petition? := by
        rw [turns, List.filterMap_cons]
        cases Turn.petition? ⟨h, m⟩ <;> rfl
      rw [hsplit]
      exact List.rel_append hfirst hlater
    · rw [← List.append_assoc, ← hone]
      exact hmore

/-- Whatever happened to a session, each request of a server in service is answered once, on its
connection, under its identifier and with what is due to it, also when its parameters are malformed.
What is no request is never answered. -/
theorem petitions_answered (settings : Settings) (root : Option FilePath)
    (environment : Environment) (ms : List Move)
    (hk : (fresh settings root environment).run ms = k) :
    (∀ l i g, k.instance? l = some i → i.connection = some g →
      ∀ j id method params, Inbound.classify j = .ok (.request id method params) →
        (k.connections.read g j).inbox =
            k.connections.inbox ++ [⟨l, g, .request id method params⟩] ∧
          ∀ w, k.Answers w g j (k.handleEvent w ⟨l, g, .request id method params⟩) ∧
            ∀ rest, k.connections.inbox = ⟨l, g, .request id method params⟩ :: rest →
              ∃ p, k.handleNext w = some p ∧ k.Answers w g j p) ∧
    (∀ g j, (k.connections.read g j).submissions = k.connections.submissions ∧
      ((∀ id method params, Inbound.classify j ≠ .ok (.request id method params)) →
        ∀ e ∈ (k.connections.read g j).inbox, e ∈ k.connections.inbox ∨
          ∀ id method params, e.kind ≠ .request id method params)) ∧
    (∀ w e, (∀ id method params, e.kind ≠ .request id method params) →
      (k.handleEvent w e).1.connections.replies = k.connections.replies) ∧
    List.Forall₂ Satisfies
      (((fresh settings root environment).turns ms).filterMap Turn.petition?)
      k.connections.replies := by
  have hfresh := fresh_coherent settings root environment
  have hc : k.Coherent := hk ▸ run_coherent hfresh ms
  refine ⟨fun l i g hi hg j id method params hj => ?_, fun g j => ?_, fun w e he => ?_, ?_⟩
  · obtain ⟨client, hclient, hlanguage⟩ := Option.map_eq_some_iff.mp (hc.linked hi hg)
    refine ⟨hlanguage ▸ Connections.read_request hclient hj, fun w => ?_⟩
    exact ⟨handleEvent_answers hc hi hg hj w, fun rest hq => handleNext_answers hc hi hg hj hq w⟩
  · exact ⟨(Connections.read_evolves k.connections g j).silent,
      fun hj e he => Connections.read_other hj he⟩
  · exact handleEvent_mute w hc e fun id method params hkind =>
      absurd hkind (he id method params)
  · obtain ⟨new, hnew, hreplies⟩ := run_replies hfresh ms
    rw [← hk, hreplies]
    exact hnew

end Host

namespace Sample

def petition : Json :=
  .obj [("id", .str "a"), ("method", .str "workspace/configuration"),
    ("params", .obj [("items", .arr [.null, .null])])]

def petitioned : ServerEventKind :=
  .request (.string "a") "workspace/configuration" (.obj [("items", .arr [.null, .null])])

end Sample

theorem Host.greeting_answered :
    ∃ i, (Sample.session.run [.didOpen Sample.document]).instance? Sample.language = some i ∧
      i.state = .awaitingInitialize ∧ i.connection = some 1 ∧
      (Sample.session.run [.didOpen Sample.document]).Answers {} 1 Sample.petition
        ((Sample.session.run [.didOpen Sample.document]).handleEvent {}
          ⟨Sample.language, 1, Sample.petitioned⟩) := by
  have hshape : ((Sample.session.run [.didOpen Sample.document]).instance? Sample.language).map
      (fun i => (i.state, i.connection)) = some (.awaitingInitialize, some 1) := by decide +kernel
  obtain ⟨i, hi, hshape⟩ := Option.map_eq_some_iff.mp hshape
  obtain ⟨hstate, hconnection⟩ := Prod.mk.inj hshape
  obtain ⟨hrequests, -⟩ := petitions_answered Sample.settings none Sample.environment
    [.didOpen Sample.document] rfl
  obtain ⟨-, hanswers⟩ := hrequests Sample.language i 1 hi hconnection Sample.petition _ _ _ rfl
  exact ⟨i, hi, hstate, hconnection, (hanswers {}).1⟩

end LanguageHost
