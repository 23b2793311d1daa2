import LanguageHost.Proofs.Wire.Grammar
import LanguageHost.Wire.Frame

namespace LanguageHost.Frame

def Framed (body bytes : Bytes) : Prop :=
  ∃ headers line, bytes = block headers ++ line ++ body ∧ (∀ rest, Blank line rest) ∧
    Announces headers body.length ∧ body.length ≤ maxContentLength

lemma read_framed {body bytes : Bytes} (h : Framed body bytes) (stream : List Signal) :
    read (bytes.map .byte ++ stream) = (.ok body, stream) := by
  obtain ⟨headers, line, rfl, hblank, hn, hle⟩ := h
  exact readFrom_frame hn (hblank _) hle

lemma readMany_framed {frames : List (Bytes × Bytes)} (h : ∀ f ∈ frames, Framed f.1 f.2)
    (stream : List Signal) (count : Nat) :
    readMany count ((frames.flatMap Prod.snd).map .byte ++ stream) =
      (frames.map fun f => Except.ok f.1).take count ++ readMany (count - frames.length) stream := by
  induction frames generalizing count with
  | nil => simp
  | cons f frames ih =>
    rw [List.forall_mem_cons] at h
    cases count with
    | zero => simp [readMany]
    | succ count =>
      rw [List.flatMap_cons, List.map_append, List.append_assoc, readMany, read_framed h.1]
      simp only [ih h.2, List.map_cons, List.take_succ_cons, List.cons_append, List.length_cons,
        Nat.add_sub_add_right]

lemma isDigit_toNat {c : Char} (h : c.isDigit = true) : 48 ≤ c.toNat ∧ c.toNat ≤ 57 := by
  simp only [Char.isDigit, Bool.and_eq_true, decide_eq_true_eq] at h
  exact h

lemma isBlank_of_isDigit {c : Char} (h : c.isDigit = true) : Text.isBlank c = false := by
  have hc := isDigit_toNat h
  simp only [Text.isBlank]
  grind

lemma isDigit_toDigits {n : Nat} {c : Char} (hc : c ∈ Nat.toDigits 10 n) : c.isDigit = true :=
  Nat.isDigit_of_mem_toDigits (by omega) (by omega) hc

lemma trim_digits {digits : List Char} (h : ∀ c ∈ digits, c.isDigit = true)
    (before after : List Char) (hbefore : ∀ c ∈ before, Text.isBlank c = true)
    (hafter : ∀ c ∈ after, Text.isBlank c = true) :
    Text.trim (before ++ digits ++ after) = digits := by
  apply Text.trim_padded before digits after hbefore hafter
  · intro c hc
    exact isBlank_of_isDigit (h c (List.mem_of_mem_head? hc))
  · intro c hc
    exact isBlank_of_isDigit (h c (List.mem_of_mem_getLast? hc))

def announcing (n : Nat) : Header where
  name := contentLength.toList
  value := ' ' :: Nat.toDigits 10 n ++ ['\r']
  name_plain := by decide
  value_plain := by
    rw [List.mem_append, List.mem_cons, not_or, not_or]
    refine ⟨⟨by decide, fun h => ?_⟩, by decide⟩
    exact absurd (isDigit_toDigits h) (by decide)

lemma announcing_isLength (n : Nat) : (announcing n).isLength = true := by
  have hname : Text.equalIgnoringAsciiCase (String.ofList (Text.trim contentLength.toList))
      contentLength = true := by decide +kernel
  exact hname

lemma announcing_denotes {n : Nat} (h : n < 2 ^ 64) : (announcing n).Denotes n := by
  have hvalue : Text.trim (announcing n).value = Nat.toDigits 10 n :=
    trim_digits (fun c hc => isDigit_toDigits hc) [' '] ['\r']
      (List.forall_iff_forall_mem.mp (by decide)) (List.forall_iff_forall_mem.mp (by decide))
  refine ⟨announcing_isLength n, ?_, h⟩
  rw [hvalue]
  exact ⟨_, .inl rfl, Nat.toDigits_ne_nil, fun c hc => isDigit_toDigits hc,
    Nat.ofDigitChars_ten_toDigits⟩

lemma announcing_announces {n : Nat} (h : n < 2 ^ 64) : Announces [announcing n] n := by
  have hn := announcing_denotes h
  refine ⟨fun x hx _ => ⟨n, ?_⟩, [], _, [], rfl, hn, fun a ha => absurd ha List.not_mem_nil⟩
  rw [List.mem_singleton.1 hx]
  exact hn

lemma blank_return (rest : List Signal) : Blank [13, newline] rest :=
  ⟨['\r'], List.forall_iff_forall_mem.mp (by decide), by decide, .inl rfl⟩

lemma encode_eq (body : Bytes) :
    encode body = block [announcing body.length] ++ [13, newline] ++ body := by
  have hheader : header body.length =
      Utf8.encode ((announcing body.length).text ++ ['\n'] ++ ['\r', '\n']) := by
    have hname : contentLength.toList ++ ": ".toList = contentLength.toList ++ [':', ' '] := by
      decide
    have hnumber : (toString body.length).toList = Nat.toDigits 10 body.length := by
      rw [Nat.toString_eq_ofList_toDigits, String.toList_ofList]
    have hend : "\r\n\r\n".toList = ['\r', '\n', '\r', '\n'] := by decide
    rw [header, Utf8.encodeString, String.toList_append, String.toList_append,
      String.toList_append, hname, hnumber, hend]
    simp [announcing, Header.text]
  rw [encode, hheader, Utf8.encode_append, block, List.flatMap_cons, List.flatMap_nil,
    List.append_nil]
  rfl

lemma framed_encode {body : Bytes} (h : body.length ≤ maxContentLength) :
    Framed body (encode body) :=
  ⟨_, _, encode_eq body, blank_return,
    announcing_announces (Nat.lt_of_le_of_lt h (by decide)), h⟩

lemma readMany_nil (count : Nat) :
    readMany count [] = [Except.error TransportError.unexpectedEnd].take count := by
  cases count with
  | zero => rfl
  | succ count => simp [readMany, read, readFrom, finish, Phase.start]

lemma readMany_encode {bodies : List Bytes} (h : ∀ body ∈ bodies, body.length ≤ maxContentLength)
    (count : Nat) :
    readMany count ((bodies.flatMap encode).map .byte) =
      (bodies.map Except.ok ++ [Except.error TransportError.unexpectedEnd]).take count := by
  have hframes : ∀ f ∈ bodies.map fun body => (body, encode body), Framed f.1 f.2 := by
    intro f hf
    obtain ⟨body, hbody, rfl⟩ := List.mem_map.1 hf
    exact framed_encode (h body hbody)
  have hread := readMany_framed hframes [] count
  simp only [List.flatMap_map, List.map_map, List.length_map, List.append_nil, readMany_nil] at hread
  rw [List.take_append, List.length_map]
  exact hread

def sent (bodies : List Bytes) : Bytes :=
  (bodies.foldl (fun sink body => (sink.send body).1) Sink.open_).written

lemma sent_eq (bodies : List Bytes) : sent bodies = bodies.flatMap encode := by
  suffices h : ∀ sink : Sink, sink.plan = Sink.open_.plan →
      (bodies.foldl (fun sink body => (sink.send body).1) sink).written =
        sink.written ++ bodies.flatMap encode from h Sink.open_ rfl
  induction bodies with
  | nil =>
    intro sink _
    simp
  | cons body bodies ih =>
    intro sink hplan
    have hsend : (sink.send body).1 =
        { sink with attempts := sink.attempts + 1, written := sink.written ++ encode body } := by
      simp [Sink.send, hplan, Sink.open_]
    rw [List.foldl_cons, ih _ (by rw [hsend, hplan]), hsend, List.flatMap_cons, List.append_assoc]

/-- Bodies sent as frames are read back in their order, then the end of the stream, wherever the
reads cut the bytes and however often they are interrupted. Of any other stream as well the frames
and errors read do not depend on the reads that deliver it. -/
theorem bodies_recovered :
    (∀ bodies : List Bytes, (∀ body ∈ bodies, body.length ≤ maxContentLength) →
      ∀ arrivals : List Arrival, uninterrupted (signals arrivals) = (sent bodies).map .byte →
        ∀ count : Nat, Source.readMany count { arrivals } =
          (bodies.map Except.ok ++ [Except.error TransportError.unexpectedEnd]).take count) ∧
    ∀ a b : List Arrival, uninterrupted (signals a) = uninterrupted (signals b) →
      ∀ count : Nat, Source.readMany count { arrivals := a } =
        Source.readMany count { arrivals := b } := by
  have hstream (arrivals : List Arrival) (count : Nat) :
      Source.readMany count { arrivals } = readMany count (uninterrupted (signals arrivals)) :=
    Source.readMany_content count _
  constructor
  · intro bodies hsize arrivals hcut count
    rw [hstream, hcut, sent_eq]
    exact readMany_encode hsize count
  · intro a b hab count
    rw [hstream, hstream, hab]

namespace Sample

def bodies : List Bytes := [header 7, [0xff, 13, 10, 13, 10], []]

def trickle : List Arrival := (sent bodies).flatMap fun b => [.fault .interrupted, .chunk [b]]

end Sample

theorem bodies_recovered_trickling :
    Source.readMany 4 { arrivals := Sample.trickle } =
      [.ok (header 7), .ok [0xff, 13, 10, 13, 10], .ok [], .error .unexpectedEnd] ∧
    Source.readMany 3 { arrivals := Sample.trickle } =
      Source.readMany 3 { arrivals := [.chunk (sent Sample.bodies)] } :=
  ⟨bodies_recovered.1 Sample.bodies (by decide +kernel) Sample.trickle (by decide +kernel) 4,
    bodies_recovered.2 Sample.trickle [.chunk (sent Sample.bodies)] (by decide +kernel) 3⟩

end LanguageHost.Frame
