import LanguageHost.Proofs.Session.Course
import LanguageHost.Proofs.Session.Mirror

namespace LanguageHost

namespace DocumentAct

def next : Bool → DocumentAct → Option Bool
  | false, opens => some true
  | true, uses => some true
  | true, closes => some false
  | _, _ => none

end DocumentAct

namespace Outbound

variable {m : Outbound}

def opensText : Outbound → Bool
  | notification method _ => method = "textDocument/didOpen"
  | _ => false

def changesText : Outbound → Bool
  | notification method _ => method = "textDocument/didChange"
  | _ => false

def version? : Outbound → Option Nat
  | notification method (some params) =>
    if method = "textDocument/didOpen" ∨ method = "textDocument/didChange" then
      ((params.at? ["textDocument", "version"]).bind Json.asInt?).bind Int.toNat?
    else none
  | _ => none

lemma version?_open (uri : Uri) (l : LanguageId) (version : Nat) (text : String) :
    (notification "textDocument/didOpen"
      (Client.paramsOf (Sync.openParams uri l version text))).version? = some version := by
  simp [version?, Client.paramsOf, Sync.openParams, Json.object, Members.ofList, Json.at?, Json.get?,
    Members.find?_insert, Json.asInt?]
  rfl

lemma version?_change (uri : Uri) (version : Nat) (content : Sync.Content) :
    (notification "textDocument/didChange"
      (Client.paramsOf (Sync.changeParams uri version content))).version? = some version := by
  simp [version?, Client.paramsOf, Sync.changeParams, Json.object, Members.ofList, Json.at?,
    Json.get?, Members.find?_insert, Json.asInt?]
  rfl

def uri? : Outbound → Option String
  | notification _ (some params) | request _ _ (some params) =>
    (params.at? ["textDocument", "uri"]).bind Json.asString?
  | _ => none

lemma uri?_open (uri : Uri) (l : LanguageId) (version : Nat) (text : String) :
    (notification "textDocument/didOpen"
      (Client.paramsOf (Sync.openParams uri l version text))).uri? = some uri.text := by
  simp [uri?, Client.paramsOf, Sync.openParams, Json.object, Members.ofList, Json.at?, Json.get?,
    Members.find?_insert, Json.asString?]

lemma uri?_change (uri : Uri) (version : Nat) (content : Sync.Content) :
    (notification "textDocument/didChange"
      (Client.paramsOf (Sync.changeParams uri version content))).uri? = some uri.text := by
  simp [uri?, Client.paramsOf, Sync.changeParams, Json.object, Members.ofList, Json.at?, Json.get?,
    Members.find?_insert, Json.asString?]

lemma uri?_save (uri : Uri) (text : String) :
    (notification "textDocument/didSave" (Client.paramsOf (Sync.saveParams uri text))).uri? =
      some uri.text := by
  simp [uri?, Client.paramsOf, Sync.saveParams, Sync.identifier, Json.object, Members.ofList,
    Json.at?, Json.get?, Members.find?_insert, Json.asString?]

lemma uri?_close (uri : Uri) :
    (notification "textDocument/didClose" (Client.paramsOf (.object [Sync.identifier uri]))).uri? =
      some uri.text := by
  simp [uri?, Client.paramsOf, Sync.identifier, Json.object, Members.ofList, Json.at?, Json.get?,
    Members.find?_insert, Json.asString?]

lemma uri?_request (id : Int) (kind : RequestKind) (uri : Uri) (p : Position) :
    (request id kind.method (Client.paramsOf (kind.documentParams uri p))).uri? =
      some uri.text := by
  cases kind with
  | goto kind =>
    cases kind <;> simp [uri?, Client.paramsOf, RequestKind.documentParams, Sync.identifier,
      Json.object, Members.ofList, Json.at?, Json.get?, Members.find?_insert, Json.asString?]
  | _ => simp [uri?, Client.paramsOf, RequestKind.documentParams, Sync.identifier, Json.object,
      Members.ofList, Json.at?, Json.get?, Members.find?_insert, Json.asString?]

def isRequest : Outbound → Bool
  | request .. => true
  | _ => false

inductive Bears (m : Outbound) (i j : Instance) (d : Document) : DocumentAct → Prop
  | opens (uri : Uri) (hm : m.uri? = some uri.text) (hu : d.uriOrError = .ok uri)
      (hj : j.openUri? d.id = some uri) : Bears m i j d .opens
  | tells (uri : Uri) (hm : m.uri? = some uri.text) (hr : m.isRequest = false)
      (hi : i.openUri? d.id = some uri) (hj : j.openUri? d.id = some uri) : Bears m i j d .uses
  | asks (uri : Uri) (hm : m.uri? = some uri.text) (hr : m.isRequest = true)
      (hu : d.uriOrError = .ok uri) (hv : m.version? = none)
      (hj : j.openUri? d.id = i.openUri? d.id) : Bears m i j d .uses
  | closes (uri : Uri) (hm : m.uri? = some uri.text) (hr : m.isRequest = false)
      (hi : i.openUri? d.id = some uri) : Bears m i j d .closes

lemma act?_kind (kind : RequestKind) (id : Int) (params : Option Json) :
    (request id kind.method params).act? = none ∨
      (request id kind.method params).act? = some .uses := by
  cases kind with
  | goto kind => cases kind <;> exact .inr rfl
  | workspaceSymbols => exact .inl rfl
  | _ => exact .inr rfl

end Outbound

namespace Host

variable {h k : Host} {l : LanguageId} {i j : Instance} {g : Nat} {d : Document} {deed : Deed}
  {sent new : List (Nat × Submission)} {m : Outbound} {act : DocumentAct} {P : Deed → Prop}

section Telling

def Untold (h : Host) (g : Nat) : Prop :=
  h.nextGeneration ≤ g ∨ h.Has g (.current .awaitingInitialize)

lemma Runs.told (hi : h.Runs l i g) (hc : h.Coherent) : ¬h.Untold g := by
  have hg : h.Has g (.current .ready) := hi.ready ▸ has_current hi.current hi.linked
  rintro (hle | hw)
  · have := hc.has_issued hg
    omega
  · cases hc.has_unique hg hw

lemma Step.untold (hs : Step h deed k) (hc : h.Coherent) (hk : k.Untold g) : h.Untold g := by
  cases hs.talks hc with
  | quiet he hn hp =>
    rcases hk with hle | hk
    · exact .inl (hn.trans hle)
    · obtain ⟨q, hq, hl⟩ := hp g _ hk
      cases hl
      exact .inr hq
  | spoken n p q m result he hn hp hs hq =>
    rcases hk with hle | hk
    · exact .inl (hn ▸ hle)
    · rcases hq g _ hk with ⟨rfl, rfl⟩ | ⟨-, hh⟩
      · cases hs with
        | answered => exact .inr hp
        | released _ _ hp => simp at hp
      · exact .inr hh
  | greeted sent he hs hn hq =>
    rcases hk with hle | hk
    · exact .inl (by omega)
    · rcases hq g _ hk with ⟨rfl, -⟩ | ⟨-, hh⟩
      · exact .inl (Nat.le_refl _)
      · exact .inr hh

lemma Step.welcome_untold {response : Json} (hs : Step h (.welcome l g response) k) :
    h.Untold g := by
  cases hs with
  | welcomed l i g response hi hst hg => exact .inr (hst ▸ has_current hi hg)

lemma Talks.unaddressed (ht : Talks h k deed) (hd : deed.subject? = none)
    (he : k.connections.submissions = h.connections.submissions ++ sent) :
    ∀ s ∈ sent, s.2.1.act? = none := by
  intro s hs
  cases ht with
  | quiet hq =>
    have hnil : sent = [] := by simpa [hq] using he
    simp [hnil] at hs
  | spoken n p q m result hq hn hp hm =>
    obtain rfl := List.append_cancel_left (hq.symm.trans he)
    obtain rfl := List.mem_singleton.mp hs
    cases hm with
    | served m hf hact => exact hact.resolve_right (by simp [hd])
    | _ => rfl
  | greeted _ hq hsent =>
    obtain rfl := List.append_cancel_left (hq.symm.trans he)
    rcases hsent with rfl | ⟨id, params, result, rfl⟩
    · simp at hs
    · obtain rfl := List.mem_singleton.mp hs
      rfl

end Telling

lemma Coherent.runs_apart (hc : h.Coherent) (hi : h.Runs l i g) {m : LanguageId} {a : Instance}
    {n : Nat} (ha : h.Runs m a n) : m = l ∧ a = i ∧ n = g ∨ h.Runs m a n ∧ m ≠ l ∧ g ≠ n := by
  by_cases hm : m = l
  · subst hm
    obtain rfl := Option.some.inj (hi.current.symm.trans ha.current)
    exact .inl ⟨rfl, rfl, Option.some.inj (ha.linked.symm.trans hi.linked)⟩
  · refine .inr ⟨ha, hm, ?_⟩
    rintro rfl
    exact hm (Option.some.inj
      ((hc.linked ha.current ha.linked).symm.trans (hc.linked hi.current hi.linked)))

structure Addressed (h k : Host) (d : Document) (l : LanguageId) (i j : Instance) (g : Nat)
    (m : Outbound) (act : DocumentAct) : Prop where
  runs : h.Runs l i g
  amends : j = { i with opened := j.opened }
  leaves : ∀ m a n, k.Runs m a n → m = l ∧ a = j ∧ n = g ∨ h.Runs m a n ∧ m ≠ l ∧ g ≠ n
  acts : m.act? = some act
  follows : act.next (i.openUri? d.id).isSome = some (j.openUri? d.id).isSome
  others : ∀ id, d.id ≠ id → j.openUri? id = i.openUri? id
  admitted : act ≠ .closes → h.Admits l d
  text : act = .opens → ∃ uri language version,
    m = .notification "textDocument/didOpen" (some (Sync.openParams uri language version d.text))
  enabled : ∀ id method params, m = .request id method params →
    ∃ kind : RequestKind, method = kind.method ∧ i.capabilities.isEnabled kind.feature = true
  numbered : m.version? = some (h.versions.next d.path).2 ∧
      k.versions = (h.versions.next d.path).1 ∨
    m.version? = none ∧ k.versions = h.versions ∧ m.opensText = false ∧ m.changesText = false
  bears : m.Bears i j d act

inductive Addresses (h k : Host) (deed : Deed) : List (Nat × Submission) → Prop
  | aside {sent : List (Nat × Submission)} (hs : ∀ s ∈ sent, s.2.1.act? = none)
      (hv : k.versions = h.versions)
      (hr : ∀ l i g, k.Runs l i g → h.Runs l i g ∨ h.Untold g ∧ i.opened = []) :
      Addresses h k deed sent
  | addressed (d : Document) (l : LanguageId) (i j : Instance) (g : Nat) (m : Outbound)
      (act : DocumentAct) (result : Except TransportError Unit) (hd : deed.subject? = some d)
      (ha : Addressed h k d l i j g m act) : Addresses h k deed [(g, m, result)]

lemma Step.versions (hs : Step h deed k) (hd : deed.subject? = none) : k.versions = h.versions := by
  cases hs with
  | opened | changed | asked | saved | closed | unlisted => cases hd
  | _ => rfl

lemma Step.addresses (hs : Step h deed k) (hc : h.Coherent) :
    ∃ sent, k.connections.submissions = h.connections.submissions ++ sent ∧
      Addresses h k deed sent := by
  cases hd : deed.subject? with
  | none =>
    obtain ⟨sent, he, hu⟩ := hs.speaks hc
    refine ⟨sent, he, .aside ((hs.talks hc).unaddressed hd he) (hs.versions hd) ?_⟩
    cases hu with
    | silent _ hr =>
      intro l i g hk
      rcases hr l i g hk with hh | ⟨response, j, rfl, hj, rfl⟩
      · exact .inl hh
      · exact .inr ⟨hs.welcome_untold, hj⟩
    | opened | changed | closed => cases hd
  | some d =>
    cases hs with
    | asked l i g kind d uri p hi hr hg hf ha ho hu =>
      obtain ⟨sent, he, hm⟩ := Connections.call_sends h.connections g kind.method
        (kind.documentParams uri p) .caller
      refine ⟨sent, he.submissions, ?_⟩
      rcases hm with rfl | ⟨id, result, rfl⟩
      · exact .aside (by simp) rfl fun _ _ _ hk => .inl (runs_kept (by rfl) hk)
      rcases Outbound.act?_kind kind id (Client.paramsOf (kind.documentParams uri p))
        with hnone | huses
      · exact .aside (by simpa using hnone) rfl fun _ _ _ hk => .inl (runs_kept (by rfl) hk)
      · refine .addressed d l i i g _ .uses result rfl ?_
        exact
          { runs := ⟨hi, hr, hg⟩
            amends := rfl
            leaves := fun m a n hk => hc.runs_apart ⟨hi, hr, hg⟩ (runs_kept (by rfl) hk)
            acts := huses
            follows := by simp [ho, DocumentAct.next]
            others := fun id hid => rfl
            admitted := fun _ => ha
            text := by simp
            enabled := by
              rintro _ _ _ ⟨⟩
              exact ⟨kind, rfl, hf⟩
            numbered := .inr ⟨rfl, rfl, rfl, rfl⟩
            bears := .asks uri (Outbound.uri?_request ..) rfl hu rfl rfl }
    | opened l i d uri hi hr ho ha hu =>
      obtain ⟨g, hg⟩ := hc.runs hi hr
      obtain ⟨result, he⟩ := tell_said hc hg "textDocument/didOpen"
        (Sync.openParams uri (d.language.getD i.language) (h.versions.next d.path).2 d.text)
      refine ⟨_, he, .addressed d l i (i.addOpen d.id uri) g _ .opens result rfl ?_⟩
      exact
        { runs := hg
          amends := rfl
          leaves := fun m a n hk => runs_set (j := i.addOpen d.id uri) hc hg rfl rfl hk
          acts := rfl
          follows := by simp [ho, openUri?_addOpen ho, DocumentAct.next]
          others := fun id hid => by rw [openUri?_addOpen ho, if_neg hid]
          admitted := fun _ => ha
          text := fun _ => ⟨_, _, _, rfl⟩
          enabled := by simp
          numbered := .inl ⟨Outbound.version?_open .., rfl⟩
          bears := .opens uri (Outbound.uri?_open ..) hu (by rw [openUri?_addOpen ho, if_pos rfl]) }
    | changed l i d change uri hi hr ho ha =>
      obtain ⟨g, hg⟩ := hc.runs hi hr
      obtain ⟨result, he⟩ := tell_said hc hg "textDocument/didChange"
        (Sync.changeParams uri (h.versions.next d.path).2
          (Sync.contentOf ⟨i, h.versions, h.connections⟩ d change))
      refine ⟨_, he, .addressed d l i i g _ .uses result rfl ?_⟩
      exact
        { runs := hg
          amends := rfl
          leaves := fun m a n hk => runs_set (j := i) hc hg rfl rfl hk
          acts := rfl
          follows := by simp [ho, DocumentAct.next]
          others := fun id hid => rfl
          admitted := fun _ => ha
          text := by simp
          enabled := by simp
          numbered := .inl ⟨Outbound.version?_change .., rfl⟩
          bears := .tells uri (Outbound.uri?_change ..) rfl ho ho }
    | saved l i d uri hi hr ho ha =>
      obtain ⟨g, hg⟩ := hc.runs hi hr
      obtain ⟨result, he⟩ := tell_said hc hg "textDocument/didSave" (Sync.saveParams uri d.text)
      refine ⟨_, he, .addressed d l i i g _ .uses result rfl ?_⟩
      exact
        { runs := hg
          amends := rfl
          leaves := fun m a n hk => runs_set (j := i) hc hg rfl rfl hk
          acts := rfl
          follows := by simp [ho, DocumentAct.next]
          others := fun id hid => rfl
          admitted := fun _ => ha
          text := by simp
          enabled := by simp
          numbered := .inr ⟨rfl, rfl, rfl, rfl⟩
          bears := .tells uri (Outbound.uri?_save ..) rfl ho ho }
    | closed l i d uri hi hr ho =>
      obtain ⟨g, hg⟩ := hc.runs hi hr
      obtain ⟨result, he⟩ := tell_said hc hg "textDocument/didClose" (.object [Sync.identifier uri])
      refine ⟨_, he, .addressed d l i (i.removeOpen d.id) g _ .closes result rfl ?_⟩
      exact
        { runs := hg
          amends := rfl
          leaves := fun m a n hk => runs_set (j := i.removeOpen d.id) hc hg rfl rfl hk
          acts := rfl
          follows := by simp [ho, openUri?_removeOpen, DocumentAct.next]
          others := fun id hid => by rw [openUri?_removeOpen, if_neg hid]
          admitted := by simp
          text := by simp
          enabled := by simp
          numbered := .inr ⟨rfl, rfl, rfl, rfl⟩
          bears := .closes uri (Outbound.uri?_close ..) rfl ho }
    | unlisted l i d hi hr =>
      refine ⟨[], by simp [setInstance, setSlot], .aside (by simp) rfl fun m a n hk => .inl ?_⟩
      refine runs_filled (m := l) rfl ?_ hk
      rintro _ ⟨⟩
      exact hr
    | _ => cases hd

end Host

def Deed.Concerns (subject : Option Document) (deed : Deed) : Prop :=
  ∀ d, deed.subject? = some d → subject = some d

namespace Host

variable {h k : Host} {P : Deed → Prop} {sent : List (Nat × Submission)}

/-- What is sent in a sequence of steps. -/
inductive Discourse (P : Deed → Prop) (h : Host) : List (Nat × Submission) → Host → Prop
  | nil : Discourse P h [] h
  | next {sent new : List (Nat × Submission)} {k v : Host} {deed : Deed}
      (hd : Discourse P h sent k) (hp : P deed) (hs : Step k deed v) (ha : Addresses k v deed new) :
      Discourse P h (sent ++ new) v

lemma Discourse.walk (hd : Discourse P h sent k) : Walk P h k := by
  induction hd with
  | nil => exact .refl h
  | next _ hp hs _ ih => exact ih.trans (.step hs hp)

lemma Discourse.addressed (hd : Discourse P h sent k) {s : Nat × Submission} (hs : s ∈ sent)
    (ha : s.2.1.act?.isSome = true) :
    ∃ (u v : Host) (deed : Deed) (d : Document) (l : LanguageId) (i j : Instance)
      (act : DocumentAct), Walk P h u ∧ P deed ∧ deed.subject? = some d ∧
        Addressed u v d l i j s.1 s.2.1 act := by
  induction hd with
  | nil => cases hs
  | next hd hp _ hnew ih =>
    rcases List.mem_append.mp hs with hs | hs
    · exact ih hs
    cases hnew with
    | aside hnone => simp [hnone s hs] at ha
    | addressed d l i j g m act result hsub had =>
      obtain rfl := List.mem_singleton.mp hs
      exact ⟨_, _, _, d, l, i, j, act, hd.walk, hp, hsub, had⟩

lemma Walk.discourse (hw : Walk P h k) (hc : h.Coherent) :
    ∃ sent, k.connections.submissions = h.connections.submissions ++ sent ∧
      Discourse P h sent k := by
  induction hw with
  | refl => exact ⟨[], (List.append_nil _).symm, .nil⟩
  | tail _ hlast ih =>
    obtain ⟨deed, hp, hs⟩ := hlast
    obtain ⟨sent, hsub, hd⟩ := ih
    obtain ⟨new, hnew, ha⟩ := hs.addresses (hd.walk.coherent hc)
    exact ⟨sent ++ new, by rw [hnew, hsub, List.append_assoc], .next hd hp hs ha⟩

lemma perform_concerns (hc : h.Coherent) (m : Move) :
    Walk (Deed.Concerns m.subject) h (h.perform m) := by
  obtain ⟨k, hw, hcalm⟩ := perform_walk hc.languages m
  refine (hw.mono fun deed hd => ?_).trans (hcalm.mono fun deed hd => ?_)
  · rintro d hsub
    cases deed <;> cases hsub <;> exact hd.elim
  · rintro d hsub
    cases deed <;> cases hsub <;> exact hd

end Host

namespace Turn

lemma discourse {t : Turn} (hc : t.before.Coherent) :
    Host.Discourse (Deed.Concerns t.move.subject) t.before t.sent t.after := by
  obtain ⟨sent, hsub, hd⟩ := (Host.perform_concerns hc t.move).discourse hc
  exact sent_eq hsub ▸ hd

lemma submissions {t : Turn} (hc : t.before.Coherent) :
    t.after.connections.submissions = t.before.connections.submissions ++ t.sent := by
  obtain ⟨sent, hsub, -⟩ := (Host.perform_concerns hc t.move).discourse hc
  rw [sent_eq hsub]
  exact hsub

end Turn

lemma Host.run_submissions {h : Host} (hc : h.Coherent) (ms : List Move) :
    (h.run ms).connections.submissions =
      h.connections.submissions ++ (h.turns ms).flatMap (·.sent) := by
  induction ms generalizing h with
  | nil => simp [run, turns]
  | cons m rest ih =>
    rw [turns, List.flatMap_cons, ← List.append_assoc,
      ← Turn.submissions (t := ⟨h, m⟩) hc]
    exact ih (perform_coherent hc m)

end LanguageHost
