import Mathlib.Data.List.Basic
import Mathlib.Tactic.Lemma
import LanguageHost.Proofs.Session.Traffic
import LanguageHost.Session.Documents
import LanguageHost.Session.Pump
import LanguageHost.Session.Request

/-! The runs of a session. A move is an operation of the editor, one part of handling events, or what
the servers and the surroundings do in between. -/

namespace LanguageHost

inductive Move where
  | didOpen (d : Document)
  | didChange (d : Document) (change : TextChange)
  | didSave (d : Document)
  | didClose (d : Document)
  | reloaded (d : Document)
  | languageChanged (d : Document) (previous : LanguageId)
  | request (kind : RequestKind) (d : Document) (p : Position)
  | workspaceSymbols (l : LanguageId) (query : String)
  | collect (p : PendingRequest)
  | readiness (l : LanguageId)
  | shutdown (l : LanguageId)
  | beginShutdownAll
  | finishShutdownAll
  | restartAll (w : Workspace)
  | reconfigure (s : Settings) (w : Workspace)
  /-- The oldest event is handled, up to the documents of a server that has become ready. -/
  | handle (w : Workspace)
  /-- An event of a connection turns up out of order. -/
  | stray (generation : Nat) (kind : ServerEventKind) (w : Workspace)
  /-- A document of the workspace is opened on a server that has become ready. -/
  | catchUp (l : LanguageId) (d : Document)
  | settle (w : Workspace)
  | takeQueued
  /-- A server sends. -/
  | receive (generation : Nat) (signals : List Frame.Signal)
  /-- The output of a server ends. -/
  | endOutput (generation : Nat)
  /-- Frames that are sent to a server fare differently from now on. -/
  | setPlan (generation : Nat) (plan : Nat → Verdict)
  | pass (milliseconds : Nat)
  | surround (environment : Environment)

def Move.subject : Move → Option Document
  | didOpen d | didChange d _ | didSave d | didClose d | reloaded d | languageChanged d _ => some d
  | request _ d _ => some d
  | catchUp _ d => some d
  | _ => none

def Move.documents : Move → List Document
  | restartAll w | reconfigure _ w | handle w | stray _ _ w | settle w => w.documents
  | m => m.subject.toList

def Workspace.bare (w : Workspace) : Workspace := { w with documents := [] }

namespace Host

def fresh (settings : Settings) (root : Option FilePath) (environment : Environment) : Host :=
  { settings, root, environment }

def incoming (h : Host) : Move → Option ServerEvent
  | .handle _ => h.connections.inbox.head?
  | .stray generation kind _ =>
    (h.connections.language? generation).map fun l => ⟨l, generation, kind⟩
  | _ => none

def perform (h : Host) : Move → Host
  | .didOpen d => (h.didOpen d).1
  | .didChange d change => (h.didChange d change).1
  | .didSave d => (h.didSave d).1
  | .didClose d => (h.didClose d).1
  | .reloaded d => (h.documentReloaded d).1
  | .languageChanged d previous => (h.documentLanguageChanged d previous).1
  | .request kind d p => (h.request kind d p).1
  | .workspaceSymbols l query => (h.workspaceSymbols l query).1
  | .collect p => (h.collect p).1
  | .readiness l => (h.readiness l).1
  | .shutdown l => h.shutdown l
  | .beginShutdownAll => h.beginShutdownAll
  | .finishShutdownAll => h.finishShutdownAll.1
  | .restartAll w => h.restartAll w
  | .reconfigure s w => h.reconfigure s w
  | .handle w =>
    match h.handleNext w.bare with
    | none => h
    | some (k, _) => k
  | .stray generation kind w =>
    match h.connections.language? generation with
    | none => h
    | some l => (h.handleEvent w.bare ⟨l, generation, kind⟩).1
  | .catchUp l d => h.catchUpOne l d
  | .settle w => h.settle w
  | .takeQueued => h.takeQueued.1
  | .receive generation signals => { h with connections := h.connections.receive generation signals }
  | .endOutput generation => { h with connections := h.connections.endOutput generation }
  | .setPlan generation plan => { h with connections := h.connections.setPlan generation plan }
  | .pass milliseconds => { h with now := h.now + milliseconds }
  | .surround environment => { h with environment := { environment with lead := h.environment.lead } }

def run (h : Host) (ms : List Move) : Host := ms.foldl perform h

end Host

structure Turn where
  before : Host
  move : Move

namespace Turn

def after (t : Turn) : Host := t.before.perform t.move

def event? (t : Turn) : Option ServerEvent := t.before.incoming t.move

end Turn

namespace Host

def turns (h : Host) : List Move → List Turn
  | [] => []
  | m :: rest => ⟨h, m⟩ :: (h.perform m).turns rest

lemma run_append (h : Host) (ms ns : List Move) : h.run (ms ++ ns) = (h.run ms).run ns :=
  List.foldl_append

lemma turns_append (h : Host) (ms ns : List Move) :
    h.turns (ms ++ ns) = h.turns ms ++ (h.run ms).turns ns := by
  induction ms generalizing h with
  | nil => rfl
  | cons m rest ih =>
    simp only [List.cons_append, turns, ih]
    rfl

lemma turns_moves (h : Host) (ms : List Move) : (h.turns ms).map Turn.move = ms := by
  induction ms generalizing h with
  | nil => rfl
  | cons m rest ih => rw [turns, List.map_cons, ih]

lemma turns_move {h : Host} {ms : List Move} {t : Turn} (ht : t ∈ h.turns ms) : t.move ∈ ms :=
  turns_moves h ms ▸ List.mem_map_of_mem ht

lemma turns_split {h : Host} {ms : List Move} {pre post : List Turn} (ht : h.turns ms = pre ++ post) :
    ∃ ns rest, pre = h.turns ns ∧ post = (h.run ns).turns rest := by
  have hlength (ns : List Move) (k : Host) : (k.turns ns).length = ns.length := by
    conv_rhs => rw [← turns_moves k ns, List.length_map]
  have hle : pre.length ≤ ms.length := by simp [← hlength ms h, ht]
  have hsplit := turns_append h (ms.take pre.length) (ms.drop pre.length)
  rw [List.take_append_drop, ht] at hsplit
  exact ⟨_, _, List.append_inj hsplit (by simp [hlength, hle])⟩

lemma turns_mem_split {h : Host} {ms : List Move} {pre post : List Turn} {t : Turn}
    (ht : h.turns ms = pre ++ t :: post) :
    ∃ ns rest, t.before = h.run ns ∧ pre = h.turns ns ∧ post = t.after.turns rest := by
  obtain ⟨ns, rest, hpre, hpost⟩ := turns_split ht
  cases rest with
  | nil => cases hpost
  | cons m rest =>
    obtain ⟨rfl, rfl⟩ := List.cons.inj hpost
    exact ⟨ns, rest, rfl, hpre, rfl⟩

section Pumping

variable {h k : Host} {w v : Workspace}

lemma catchUp_run (h : Host) (w : Workspace) (l : LanguageId) :
    h.catchUp w l = h.run ((w.documents.filter (wantsCatchUp w)).map (.catchUp l)) := by
  rw [catchUp, run, List.foldl_map]
  rfl

lemma answer_bare (h : Host) (w : Workspace) (l : LanguageId) (method : String) (params : Json) :
    (h.answer w.bare l method params).1 = (h.answer w l method params).1 ∧
      (h.answer w.bare l method params).2.2 = (h.answer w l method params).2.2 ∧
      (h.answer w l method params).2.1.documents = w.documents := by
  simp only [answer]
  split
  · split <;> exact ⟨rfl, rfl, rfl⟩
  · split
    · split <;> exact ⟨rfl, rfl, rfl⟩
    · split
      · exact ⟨rfl, rfl, rfl⟩
      · split <;> exact ⟨rfl, rfl, rfl⟩

lemma onInitialized_bare (h : Host) (w : Workspace) (l : LanguageId) (response : Json) :
    h.onInitialized w l response = h.onInitialized w.bare l response ∨
      h.onInitialized w l response = (h.onInitialized w.bare l response).catchUp w l := by
  cases hi : h.instance? l with
  | none => exact .inl (by simp only [onInitialized, hi])
  | some i =>
    by_cases hs : i.state = .awaitingInitialize
    · refine .inr ?_
      simp only [onInitialized, hi, hs, ne_eq, not_true_eq_false, if_false]
      rfl
    · exact .inl (by simp only [onInitialized, hi, hs, ne_eq, not_false_eq_true, if_true])

lemma handleEvent_bare (h : Host) (w : Workspace) (e : ServerEvent) :
    ((h.handleEvent w e).1 = (h.handleEvent w.bare e).1 ∨
      (h.handleEvent w e).1 = (h.handleEvent w.bare e).1.catchUp w e.language) ∧
      (h.handleEvent w e).2.documents = w.documents := by
  obtain ⟨l, g, kind⟩ := e
  simp only [handleEvent]
  split
  · exact ⟨.inl rfl, rfl⟩
  · split
    · cases kind with
      | initializeResponse outcome =>
        rcases outcome with e | response
        · exact ⟨.inl rfl, rfl⟩
        · exact ⟨onInitialized_bare h w l response, rfl⟩
      | request id method params =>
        obtain ⟨hh, hr, hd⟩ := answer_bare h w l method params
        simp only [handleCurrent, onRequest]
        rw [hh, hr]
        exact ⟨.inl rfl, hd⟩
      | _ => exact ⟨.inl rfl, rfl⟩
    · exact ⟨.inl rfl, rfl⟩

end Pumping

end Host

def Move.Pumps (w : Workspace) : Move → Prop
  | handle v | settle v => v.documents = w.documents
  | catchUp _ d => d ∈ w.documents
  | pass _ | takeQueued => True
  | _ => False

namespace Host

variable {h k : Host} {w v : Workspace}

lemma handleNext_run (hk : h.handleNext w = some (k, v)) :
    v.documents = w.documents ∧ ∃ ms, k = h.run ms ∧ ∀ m ∈ ms, m.Pumps w := by
  cases hq : h.connections.inbox with
  | nil => simp [handleNext, hq] at hk
  | cons e rest =>
    have hmove : h.perform (.handle w) =
        ({ h with connections := { h.connections with inbox := rest } }.handleEvent w.bare e).1 := by
      simp only [perform, handleNext, hq]
    simp only [handleNext, hq, Option.some.injEq] at hk
    obtain ⟨hh, hd⟩ :=
      handleEvent_bare { h with connections := { h.connections with inbox := rest } } w e
    rw [hk] at hh hd
    rw [← hmove] at hh
    refine ⟨hd, ?_⟩
    rcases hh with hh | hh
    · exact ⟨[.handle w], hh, by simp [Move.Pumps]⟩
    · refine ⟨.handle w :: (w.documents.filter (wantsCatchUp w)).map (.catchUp e.language), ?_, ?_⟩
      · rw [catchUp_run] at hh
        exact hh
      · intro m hm
        rcases List.mem_cons.mp hm with rfl | hm
        · rfl
        · obtain ⟨d, hd, rfl⟩ := List.mem_map.mp hm
          exact (List.mem_filter.mp hd).1

def Pumped (h : Host) (w : Workspace) (r : Host × Workspace) : Prop :=
  r.2.documents = w.documents ∧ ∃ ms, r.1 = h.run ms ∧ ∀ m ∈ ms, m.Pumps w

lemma Pumped.refl (h : Host) (w : Workspace) : h.Pumped w (h, w) := ⟨rfl, [], rfl, by simp⟩

lemma Pumped.trans {r : Host × Workspace} (hk : h.Pumped w (k, v)) (hr : k.Pumped v r) :
    h.Pumped w r := by
  obtain ⟨hv, ms, hms, hpm⟩ := hk
  obtain ⟨hd, ns, hns, hpn⟩ := hr
  refine ⟨hd.trans hv, ms ++ ns, by rw [run_append, hns, ← hms], fun m hm => ?_⟩
  rcases List.mem_append.mp hm with hm | hm
  · exact hpm m hm
  · have hp := hpn m hm
    cases m <;> simp only [Move.Pumps, show v.documents = w.documents from hv] at hp ⊢ <;> exact hp

lemma Pumped.move {m : Move} (hm : m.Pumps w) : h.Pumped w (h.perform m, w) :=
  ⟨rfl, [m], rfl, by simpa using hm⟩

lemma handleMany_run (fuel : Nat) (h : Host) (w : Workspace) : h.Pumped w (handleMany fuel h w) := by
  induction fuel generalizing h w with
  | zero => exact .refl h w
  | succ fuel ih =>
    cases hk : h.handleNext w with
    | none =>
      simp only [handleMany, hk]
      exact .refl h w
    | some r =>
      simp only [handleMany, hk]
      exact Pumped.trans (handleNext_run hk) (ih r.1 r.2)

lemma drain_run (h : Host) (w : Workspace) : h.Pumped w (h.drain w) :=
  Pumped.trans (handleMany_run h.work h w) (Pumped.move (m := .settle _) rfl)

theorem processEvents_run (h : Host) (w : Workspace) :
    h.Pumped w ((h.processEvents w).1, (h.processEvents w).2.1) :=
  Pumped.trans (drain_run h w) (Pumped.move (m := .takeQueued) trivial)

lemma pass_run (h : Host) (w : Workspace) (limit : Nat) : h.Pumped w (h.pass limit, w) := by
  have hnow : h.now ≤ (h.pass limit).now := by
    simp only [pass]
    split
    · exact Nat.le_add_right _ _
    · exact Nat.le_min.mpr ⟨Nat.le_add_right _ _, Nat.le_max_left _ _⟩
  have hpass : h.pass limit = h.perform (.pass ((h.pass limit).now - h.now)) := by
    have heq : h.pass limit = { h with now := (h.pass limit).now } := by
      simp only [pass]
      split <;> rfl
    rw [perform, Nat.add_sub_cancel' hnow]
    exact heq
  rw [hpass]
  exact Pumped.move trivial

lemma waitForEvent_run (h : Host) (w : Workspace) (limit : Nat) :
    h.Pumped w (h.waitForEvent w limit) := by
  cases hk : h.handleNext w with
  | none =>
    simp only [waitForEvent, hk]
    exact Pumped.trans (pass_run h w limit) (drain_run _ w)
  | some r =>
    simp only [waitForEvent, hk]
    exact Pumped.trans (handleNext_run hk) (drain_run r.1 r.2)

theorem pumpEvents_run (h : Host) (w : Workspace) (limit : Nat) :
    h.Pumped w ((h.pumpEvents w limit).1, (h.pumpEvents w limit).2.1) := by
  cases hq : h.queued.isEmpty with
  | true =>
    simp only [pumpEvents, hq, if_true]
    exact Pumped.trans (waitForEvent_run h w limit) (processEvents_run _ _)
  | false =>
    simp only [pumpEvents, hq, Bool.false_eq_true, if_false]
    exact processEvents_run h w

end Host

/-- What the editor may do with a session. To shut everything down is to begin it, to wait for events,
and to finish it. -/
inductive EditorAct where
  | move (m : Move)
  | processEvents (w : Workspace)
  | pumpEvents (w : Workspace) (limit : Nat)
  | waitForEvent (w : Workspace) (limit : Nat)

namespace Host

def act (h : Host) : EditorAct → Host
  | .move m => h.perform m
  | .processEvents w => (h.processEvents w).1
  | .pumpEvents w limit => (h.pumpEvents w limit).1
  | .waitForEvent w limit => (h.waitForEvent w limit).1

theorem act_run (h : Host) (a : EditorAct) : ∃ ms, h.act a = h.run ms := by
  cases a with
  | move m => exact ⟨[m], rfl⟩
  | processEvents w => exact (processEvents_run h w).2.imp fun _ => And.left
  | pumpEvents w limit => exact (pumpEvents_run h w limit).2.imp fun _ => And.left
  | waitForEvent w limit => exact (waitForEvent_run h w limit).2.imp fun _ => And.left

end Host

namespace Sample

def language : LanguageId := ⟨"c", by decide, by decide⟩

def settings : Settings := ⟨[⟨⟨"settings"⟩, [], [], [("c", [[("command", .str "serve")]])]⟩], {}⟩

def environment : Environment where
  processId := 1
  home := none
  launch _ _ := ([], .ok Sink.open_.plan)
  readText _ := .error .notFound

def document : Document := ⟨⟨1⟩, some language, none, "", false⟩

def session : Host := Host.fresh settings none environment

end Sample

end LanguageHost
