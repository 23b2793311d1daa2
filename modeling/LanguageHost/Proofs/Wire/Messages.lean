import LanguageHost.Proofs.Json.Ordered
import LanguageHost.Proofs.Rpc.Positional
import LanguageHost.Proofs.Wire.Framing

namespace LanguageHost

def IsInt64 (n : Int) : Prop := -0x8000000000000000 ≤ n ∧ n ≤ 0x7fffffffffffffff

lemma asInt64?_eq_some_iff {j : Json} {n : Int} : j.asInt64? = some n ↔ IsInt64 n ∧ j = .int n := by
  cases j with
  | int i =>
    simp only [Json.asInt64?, Json.intIn?, Option.ite_none_right_eq_some, Option.some.injEq,
      Json.int.injEq]
    constructor
    · rintro ⟨hi, rfl⟩
      exact ⟨hi, rfl⟩
    · rintro ⟨hn, rfl⟩
      exact ⟨hn, rfl⟩
  | _ => simp [Json.asInt64?, Json.intIn?]

def RequestId.Fits : RequestId → Prop
  | number n => IsInt64 n
  | string _ => True

def Reply.Fits : Reply → Prop
  | result _ => True
  | error code _ => IsInt64 code

namespace Inbound

variable {j : Json} {id : RequestId}

lemma readId_eq_some_iff : readId j = some id ↔ id.Fits ∧ j = id.toJson := by
  cases id with
  | number n =>
    rw [RequestId.Fits, RequestId.toJson, ← asInt64?_eq_some_iff]
    cases j <;> simp [readId, Json.asInt64?, Json.intIn?]
  | string s => cases j <;> simp [readId, RequestId.Fits, RequestId.toJson, Json.asInt64?, Json.intIn?]

lemma optional_missing {α : Type} (read : Json → Option α) : optional read none = .ok none := rfl

lemma optional_method (method : String) :
    optional Json.asString? (some (.str method)) = .ok (some method) := rfl

lemma optional_number64 {n : Int} (h : IsInt64 n) :
    optional readId (some (.int n)) = .ok (some (.number n)) := optional_number h

lemma optional_id (h : id.Fits) : optional readId (some id.toJson) = .ok (some id) := by
  have hj : id.toJson ≠ .null := by cases id <;> simp [RequestId.toJson]
  rw [optional_present hj, readId_eq_some_iff.mpr ⟨h, rfl⟩]

lemma optional_error {code : Int} (h : IsInt64 code) (message : String) :
    optional readError (some (.object [("code", .int code), ("message", .str message)])) =
      .ok (some ⟨code, message, none⟩) := by
  have hcode : (Json.int code).asInt64? = some code := asInt64?_eq_some_iff.mpr ⟨h, rfl⟩
  simp [optional, readError, Json.object, Members.ofList, Members.find?_insert, Members.find?, hcode,
    Json.asString?]

end Inbound

namespace Outbound

def Fits : Outbound → Prop
  | request id _ _ => IsInt64 id
  | notification .. => True
  | reply id outcome => id.Fits ∧ outcome.Fits

def taken : Outbound → Inbound
  | request id method params => .request (.number id) method (params.getD .null)
  | notification method params => .notification method (params.getD .null)
  | reply id (.result value) => .response ⟨some id, value, none⟩
  | reply id (.error code message) => .response ⟨some id, .null, some ⟨code, message, none⟩⟩

variable {m : Outbound} {raw : Inbound.Raw}

lemma classify_of_reads (h : Inbound.Reads m.toJson raw) :
    Inbound.classify m.toJson = Inbound.ofRaw raw := by
  rw [Inbound.classify, Inbound.readRaw_ok_iff.mpr h]
  rfl

lemma member?_toJson (name : String) (place : Nat) :
    Inbound.member? name place m.toJson =
      (m.members.reverse.find? (·.1 = name)).map Prod.snd :=
  Members.find?_ofList m.members name

lemma find?_params (params : Option Json) (key : String) :
    (paramsMember params).reverse.find? (·.1 = key) =
      if key = "params" then params.map ("params", ·) else none := by
  cases params with
  | none => simp [paramsMember]
  | some j => by_cases hk : "params" = key <;> simp [paramsMember, hk, eq_comm]

lemma classify_toJson (h : m.Fits) : Inbound.classify m.toJson = .ok m.taken := by
  cases m with
  | request id method params =>
    obtain ⟨given, hgiven, hvalue⟩ := Inbound.optional_some params
    have hreads : Inbound.Reads (request id method params).toJson
        ⟨some (.number id), some method, given, none, none⟩ := by
      refine ⟨rfl, ?_, ?_, ?_, ?_, ?_⟩ <;>
        simp [member?_toJson, members, version, find?_params, Function.comp_def,
          Inbound.optional_missing, Inbound.optional_method, Inbound.optional_number64 h, hgiven]
    rw [classify_of_reads hreads, taken, ← hvalue]
    rfl
  | notification method params =>
    obtain ⟨given, hgiven, hvalue⟩ := Inbound.optional_some params
    have hreads : Inbound.Reads (notification method params).toJson
        ⟨none, some method, given, none, none⟩ := by
      refine ⟨rfl, ?_, ?_, ?_, ?_, ?_⟩ <;>
        simp [member?_toJson, members, version, find?_params, Function.comp_def,
          Inbound.optional_missing, Inbound.optional_method, hgiven]
    rw [classify_of_reads hreads, taken, ← hvalue]
    rfl
  | reply id outcome =>
    obtain ⟨hid, houtcome⟩ := h
    cases outcome with
    | result value =>
      -- A result that is `null` counts as missing, and the identifier alone makes it a response.
      obtain ⟨given, hgiven, hvalue⟩ := Inbound.optional_some (some value)
      have hreads : Inbound.Reads (reply id (.result value)).toJson
          ⟨some id, none, none, given, none⟩ := by
        refine ⟨rfl, ?_, ?_, ?_, ?_, ?_⟩ <;>
          simp [member?_toJson, members, version, Reply.member, Inbound.optional_missing,
            Inbound.optional_id hid, hgiven]
      rw [classify_of_reads hreads, taken]
      simp [Inbound.ofRaw, hvalue]
    | error code message =>
      have hreads : Inbound.Reads (reply id (.error code message)).toJson
          ⟨some id, none, none, none, some ⟨code, message, none⟩⟩ := by
        refine ⟨rfl, ?_, ?_, ?_, ?_, ?_⟩ <;>
          simp [member?_toJson, members, version, Reply.member, Inbound.optional_missing,
            Inbound.optional_id hid, Inbound.optional_error houtcome message]
      rw [classify_of_reads hreads, taken]
      rfl

/-- The text of a message fits into a frame, and it is read as the value that it was made from. -/
structure Legible (m : Outbound) : Prop where
  size : m.bytes.length ≤ maxContentLength
  text : Json.parseBytes m.bytes = .ok m.toJson

def received (body : Except TransportError Bytes) :
    Except TransportError (Except ClassifyError Inbound) :=
  (Frame.message body).map Inbound.classify

lemma received_bytes (h : m.Fits) (hm : m.Legible) : received (.ok m.bytes) = .ok (.ok m.taken) := by
  have hmessage : Frame.message (.ok m.bytes) = .ok m.toJson := by
    simp only [Frame.message, bind, Except.bind, hm.text]
  rw [received, hmessage, Except.map, classify_toJson h]

def heard (ms : List Outbound) : List (Except TransportError (Except ClassifyError Inbound)) :=
  ms.map (fun m => .ok (.ok m.taken)) ++ [.error .unexpectedEnd]

/-- A message is taken for the request, the notification or the reply that it is, with its identifier,
its method and its payload, and only the text or the number of an identifier is read as one. Messages
that are sent one after the other are taken so in their order, wherever the reads cut the bytes. -/
theorem messages_taken :
    (∀ m : Outbound, m.Fits → Inbound.classify m.toJson = .ok m.taken) ∧
    (∀ (j : Json) (id : RequestId), Inbound.readId j = some id ↔ id.Fits ∧ j = id.toJson) ∧
    ∀ ms : List Outbound, (∀ m ∈ ms, m.Fits ∧ m.Legible) →
      ∀ arrivals : List Frame.Arrival, Frame.uninterrupted (Frame.signals arrivals) =
          (Frame.sent (ms.map bytes)).map .byte →
        ∀ count : Nat, (Frame.Source.readMany count { arrivals }).map received =
          (heard ms).take count := by
  refine ⟨fun m => classify_toJson, fun j id => Inbound.readId_eq_some_iff, ?_⟩
  intro ms hms arrivals hcut count
  have hsize : ∀ body ∈ ms.map bytes, body.length ≤ maxContentLength := by
    intro body hbody
    obtain ⟨m, hm, rfl⟩ := List.mem_map.mp hbody
    exact (hms m hm).2.size
  have hstream : Frame.Source.readMany count { arrivals } =
      Frame.readMany count (Frame.uninterrupted (Frame.signals arrivals)) :=
    Frame.Source.readMany_content count _
  have htaken : ms.map ((received ∘ Except.ok) ∘ bytes) = ms.map fun m => .ok (.ok m.taken) :=
    List.map_congr_left fun m hm => received_bytes (hms m hm).1 (hms m hm).2
  rw [hstream, hcut, Frame.sent_eq, Frame.readMany_encode hsize, List.map_take, List.map_append,
    List.map_map, List.map_map, htaken]
  rfl

namespace Sample

def conversation : List Outbound :=
  [.request 7 "shutdown" none, .notification "exit" (some .null),
    .reply (.string "7") (.result .null), .reply (.number 7) (.error invalidParams "no \"uri\"")]

def trickle : List Frame.Arrival :=
  (Frame.sent (conversation.map bytes)).flatMap fun b => [.fault .interrupted, .chunk [b]]

lemma conversation_legible : ∀ m ∈ conversation, m.Fits ∧ m.Legible := by
  have hfits : ∀ m ∈ conversation, m.Fits := by
    simp [conversation, Outbound.Fits, RequestId.Fits, Reply.Fits, IsInt64, invalidParams]
  have hsize : ∀ m ∈ conversation, m.bytes.length ≤ maxContentLength := by decide +kernel
  have htext : ∀ m ∈ conversation, Json.parseBytes m.bytes = .ok m.toJson := by decide +kernel
  exact fun m hm => ⟨hfits m hm, hsize m hm, htext m hm⟩

end Sample

theorem messages_taken_trickling :
    (∀ m ∈ Sample.conversation, m.Fits ∧ m.Legible) ∧
    Frame.uninterrupted (Frame.signals Sample.trickle) =
      (Frame.sent (Sample.conversation.map bytes)).map .byte ∧
    (Frame.Source.readMany 5 { arrivals := Sample.trickle }).map received =
      [.ok (.ok (.request (.number 7) "shutdown" .null)), .ok (.ok (.notification "exit" .null)),
        .ok (.ok (.response ⟨some (.string "7"), .null, none⟩)),
        .ok (.ok (.response ⟨some (.number 7), .null, some ⟨invalidParams, "no \"uri\"", none⟩⟩)),
        .error .unexpectedEnd] := by
  have hcut : Frame.uninterrupted (Frame.signals Sample.trickle) =
      (Frame.sent (Sample.conversation.map bytes)).map .byte := by decide +kernel
  exact ⟨Sample.conversation_legible, hcut,
    messages_taken.2.2 Sample.conversation Sample.conversation_legible Sample.trickle hcut 5⟩

end Outbound

end LanguageHost
