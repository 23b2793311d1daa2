import Mathlib.Data.List.Basic
import Mathlib.Tactic.Lemma
import LanguageHost.Session.Request

/-! The order in which a server is sent messages: first the handshake, then what is asked about
documents, and after that only what helps the server to its end. -/

namespace LanguageHost

inductive DocumentAct where
  | opens
  | uses
  | closes
  deriving DecidableEq

namespace Outbound

def method? : Outbound → Option String
  | request _ method _ => some method
  | notification method _ => some method
  | reply .. => none

def isInitialize : Outbound → Bool
  | request _ method _ => method = "initialize"
  | _ => false

def isInitialized : Outbound → Bool
  | notification method _ => method = "initialized"
  | _ => false

def isShutdown : Outbound → Bool
  | request _ method _ => method = "shutdown"
  | _ => false

def isExit : Outbound → Bool
  | notification method _ => method = "exit"
  | _ => false

def isReply : Outbound → Bool
  | reply .. => true
  | _ => false

def featureMethod (method : String) : Bool :=
  method = "workspace/symbol" || "textDocument/".toList.isPrefixOf method.toList

def isFeature (m : Outbound) : Bool := m.method?.any featureMethod

def aboutDocument (method : String) : Bool := "textDocument/".toList.isPrefixOf method.toList

def act? : Outbound → Option DocumentAct
  | notification method _ =>
    if method = "textDocument/didOpen" then some .opens
    else if method = "textDocument/didClose" then some .closes
    else if aboutDocument method then some .uses
    else none
  | request _ method _ => if aboutDocument method then some .uses else none
  | reply .. => none

def isParting (m : Outbound) : Bool := m.isReply || m.isShutdown || m.isExit

lemma featureMethod_kind (kind : RequestKind) : featureMethod kind.method = true := by
  cases kind with
  | goto kind => cases kind <;> decide
  | _ => decide

lemma isFeature_alone {m : Outbound} (hm : m.isFeature = true) :
    m.isInitialize = false ∧ m.isInitialized = false ∧ m.isShutdown = false ∧ m.isExit = false := by
  have hne {method : String} (name : String) (hm : featureMethod method = true)
      (hn : featureMethod name = false) : ¬method = name := by
    rintro rfl
    simp [hm] at hn
  cases m with
  | request id method params =>
    have hf : featureMethod method = true := by simpa [isFeature, method?] using hm
    simp [isInitialize, isInitialized, isShutdown, isExit, hne "initialize" hf (by decide),
      hne "shutdown" hf (by decide)]
  | notification method params =>
    have hf : featureMethod method = true := by simpa [isFeature, method?] using hm
    simp [isInitialize, isInitialized, isShutdown, isExit,
      hne "initialized" hf (by decide), hne "exit" hf (by decide)]
  | reply => simp [isFeature, method?] at hm

end Outbound

inductive Headway where
  | silent
  | greeting
  | serving
  | parting

def Headway.begun : Headway → Headway
  | silent => greeting
  | st => st

namespace Headway

lemma begun_ne_silent (st : Headway) : st.begun ≠ .silent := by
  cases st <;> simp [begun]

lemma begun_early {st : Headway} :
    st.begun = .silent ∨ st.begun = .greeting ↔ st = .silent ∨ st = .greeting := by
  cases st <;> simp [begun]

lemma begun_serving {st : Headway} : st.begun = .serving ↔ st = .serving := by
  cases st <;> simp [begun]

end Headway

/-- What may be said at a stage, and to which stage it leads. A handshake that was refused leaves a
conversation that begins with something else. -/
inductive Headway.Next : Headway → Outbound → Headway → Prop
  | greet (id : Int) (params : Option Json) :
      Next .silent (.request id "initialize" params) .greeting
  | welcome (st : Headway) (params : Option Json) (hst : st = .silent ∨ st = .greeting) :
      Next st (.notification "initialized" params) .serving
  | feature (m : Outbound) (hm : m.isFeature = true) : Next .serving m .serving
  | stop (st : Headway) (id : Int) (params : Option Json) :
      Next st (.request id "shutdown" params) .parting
  | release (st : Headway) (params : Option Json) : Next st (.notification "exit" params) .parting
  | reply (st : Headway) (id : RequestId) (r : Reply) : Next st (.reply id r) st.begun

inductive Exchange : List Outbound → Headway → Prop
  | nil : Exchange [] .silent
  | next {ms : List Outbound} {m : Outbound} {st st' : Headway} (h : Exchange ms st)
      (hm : st.Next m st') : Exchange (ms ++ [m]) st'

def HandshakeLeads (ms : List Outbound) : Prop :=
  ∀ pre m post, ms = pre ++ m :: post → m.isInitialize = true → pre = []

lemma HandshakeLeads.head? {ms : List Outbound} {m : Outbound} (h : HandshakeLeads ms) (hm : m ∈ ms)
    (hi : m.isInitialize = true) : ms.head? = some m := by
  obtain ⟨pre, post, rfl⟩ := List.append_of_mem hm
  rw [h pre m post rfl hi]
  rfl

def ShutdownEnds (ms : List Outbound) : Prop :=
  ∀ pre m post, ms = pre ++ m :: post → m.isShutdown = true → ∀ x ∈ post, x.isParting = true

section Sublist

lemma sublist_split {α : Type} {ms pre post : List α} {m : α}
    (hs : (pre ++ m :: post).Sublist ms) :
    ∃ before after, ms = before ++ m :: after ∧ pre.Sublist before ∧ post.Sublist after := by
  obtain ⟨front, back, rfl, hpre, hback⟩ := List.append_sublist_iff.mp hs
  obtain ⟨left, right, rfl, hm, hpost⟩ := List.cons_sublist_iff.mp hback
  obtain ⟨skipped, rest, rfl⟩ := List.append_of_mem hm
  refine ⟨front ++ skipped, rest ++ right, by simp, ?_, ?_⟩
  · exact hpre.trans (List.sublist_append_left front skipped)
  · exact hpost.trans (List.sublist_append_right rest right)

variable {ms ns : List Outbound} (hs : ns.Sublist ms)
include hs

lemma HandshakeLeads.sublist (h : HandshakeLeads ms) : HandshakeLeads ns := by
  rintro pre m post rfl hi
  obtain ⟨before, after, hms, hpre, -⟩ := sublist_split hs
  rw [h before m after hms hi] at hpre
  exact List.sublist_nil.mp hpre

lemma ShutdownEnds.sublist (h : ShutdownEnds ms) : ShutdownEnds ns := by
  rintro pre m post rfl hm x hx
  obtain ⟨before, after, hms, -, hpost⟩ := sublist_split hs
  exact h before m after hms hm x (hpost.subset hx)

end Sublist

/-- What a server can rely on about the messages that it is sent. -/
structure Orderly (ms : List Outbound) : Prop where
  first : HandshakeLeads ms
  features : ∀ pre m post, ms = pre ++ m :: post → m.isFeature = true →
    ∃ x ∈ pre, x.isInitialized = true
  once : ms.countP Outbound.isInitialized ≤ 1
  parting : ShutdownEnds ms

lemma append_singleton_eq {α : Type} {ms pre post : List α} {m x : α}
    (h : ms ++ [m] = pre ++ x :: post) :
    post = [] ∧ pre = ms ∧ x = m ∨ ∃ rest, post = rest ++ [m] ∧ ms = pre ++ x :: rest := by
  rcases List.eq_nil_or_concat' post with rfl | ⟨rest, y, rfl⟩
  · obtain ⟨rfl, hx⟩ := List.append_inj' h rfl
    exact .inl ⟨rfl, rfl, (List.singleton_inj.mp hx).symm⟩
  · rw [← List.cons_append, ← List.append_assoc] at h
    obtain ⟨rfl, hy⟩ := List.append_inj' h rfl
    exact .inr ⟨rest, by rw [List.singleton_inj.mp hy], rfl⟩

namespace Exchange

variable {ms : List Outbound} {st : Headway}

lemma silent (h : Exchange ms st) : st = .silent ↔ ms = [] := by
  cases h with
  | nil => simp
  | next h hm =>
    cases hm with
    | reply => simp [Headway.begun_ne_silent]
    | _ => simp

lemma unparted (h : Exchange ms st) (hst : st ≠ .parting) :
    ms.countP Outbound.isShutdown = 0 := by
  induction h with
  | nil => rfl
  | next h hm ih =>
    rw [List.countP_append]
    cases hm with
    | greet => simp [ih, Outbound.isShutdown]
    | welcome _ params hwelcome =>
      simp [ih (by rcases hwelcome with rfl | rfl <;> simp), Outbound.isShutdown]
    | feature m hf => simp [ih, (Outbound.isFeature_alone hf).2.2.1]
    | stop | release => exact absurd rfl hst
    | reply => simp [ih fun hp => hst (by rw [hp]; rfl), Outbound.isShutdown]

lemma uninitialized (h : Exchange ms st) (hst : st = .silent ∨ st = .greeting) :
    ms.countP Outbound.isInitialized = 0 := by
  induction h with
  | nil => rfl
  | next h hm ih =>
    rw [List.countP_append]
    cases hm with
    | greet => simp [ih, Outbound.isInitialized]
    | welcome | feature | stop | release => simp at hst
    | reply st => simp [ih (Headway.begun_early.mp hst), Outbound.isInitialized]

lemma served (h : Exchange ms st) (hst : st = .serving) :
    ∃ x ∈ ms, x.isInitialized = true := by
  induction h with
  | nil => cases hst
  | next h hm ih =>
    cases hm with
    | welcome _ params => exact ⟨_, List.mem_append_right _ (List.mem_singleton_self _), rfl⟩
    | greet | stop | release => cases hst
    | feature =>
      obtain ⟨x, hx, hi⟩ := ih rfl
      exact ⟨x, List.mem_append_left _ hx, hi⟩
    | reply =>
      obtain ⟨x, hx, hi⟩ := ih (Headway.begun_serving.mp hst)
      exact ⟨x, List.mem_append_left _ hx, hi⟩

lemma initialized_once (h : Exchange ms st) : ms.countP Outbound.isInitialized ≤ 1 := by
  induction h with
  | nil => exact Nat.zero_le 1
  | next h hm ih =>
    rw [List.countP_append]
    cases hm with
    | welcome _ _ hst =>
      have hzero := h.uninitialized hst
      rw [hzero]
      simp [Outbound.isInitialized]
    | feature m hf => simpa [(Outbound.isFeature_alone hf).2.1] using ih
    | _ => simpa [Outbound.isInitialized] using ih

lemma parting_last (h : Exchange ms st) {pre post : List Outbound} {m : Outbound}
    (hms : ms = pre ++ m :: post) (hm : m.isShutdown = true) : ∀ x ∈ post, x.isParting = true := by
  induction h generalizing post with
  | nil => simp at hms
  | next h hnext ih =>
    rcases append_singleton_eq hms with ⟨rfl, -⟩ | ⟨rest, rfl, rfl⟩
    · simp
    intro x hx
    rcases List.mem_append.mp hx with hx | hx
    · exact ih rfl x hx
    obtain rfl := List.mem_singleton.mp hx
    -- A server that was asked to shut down stays at the last stage.
    have hparted : 0 < (pre ++ m :: rest).countP Outbound.isShutdown :=
      List.countP_pos_iff.mpr ⟨m, by simp, hm⟩
    cases hnext with
    | stop | release | reply => simp [Outbound.isParting, Outbound.isShutdown, Outbound.isExit,
        Outbound.isReply]
    | greet | feature =>
      have hzero := h.unparted (by simp)
      omega
    | welcome _ _ hst =>
      have hzero := h.unparted (by rcases hst with rfl | rfl <;> simp)
      omega

theorem orderly (h : Exchange ms st) : Orderly ms := by
  refine ⟨?_, ?_, h.initialized_once, fun pre m post => h.parting_last⟩
  · induction h with
    | nil => simp [HandshakeLeads]
    | next h hm ih =>
      intro pre x post hms hx
      rcases append_singleton_eq hms with ⟨-, rfl, rfl⟩ | ⟨rest, -, hprev⟩
      · cases hm with
        | greet => exact h.silent.mp rfl
        | feature m hf => simp [(Outbound.isFeature_alone hf).1] at hx
        | _ => simp [Outbound.isInitialize] at hx
      · exact ih pre x rest hprev hx
  · induction h with
    | nil => simp
    | next h hm ih =>
      intro pre x post hms hx
      rcases append_singleton_eq hms with ⟨-, rfl, rfl⟩ | ⟨rest, -, hprev⟩
      · cases hm with
        | feature m hf => exact h.served rfl
        | _ => simp [Outbound.isFeature, Outbound.method?, Outbound.featureMethod] at hx
      · exact ih pre x rest hprev hx

end Exchange

end LanguageHost
