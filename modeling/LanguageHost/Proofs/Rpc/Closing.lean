import LanguageHost.Proofs.Rpc.Reading
import LanguageHost.Proofs.Wire.Cuts

namespace LanguageHost

variable {κ : Type}

def Emission.ending? : Emission κ → Option (Option TransportError)
  | .ended error => some error
  | _ => none

def endings (es : List (Emission κ)) : List (Option TransportError) :=
  es.filterMap Emission.ending?

lemma endings_append (es fs : List (Emission κ)) : endings (es ++ fs) = endings es ++ endings fs := by
  simp [endings]

namespace Client

def closing (c : Client κ) (stream : List Frame.Signal) : List (Emission κ) :=
  (c.receive stream).2 ++ (c.receive stream).1.finish.2

lemma feed_interrupted (c : Client κ) : c.feed (.fault .interrupted) = (c, []) := by
  have hfeed : Frame.feed c.phase (.fault .interrupted) = .more c.phase := by
    cases c.phase <;> rfl
  rw [feed, hfeed]
  split <;> rfl

lemma receive_uninterrupted (c : Client κ) (stream : List Frame.Signal) :
    c.receive (Frame.uninterrupted stream) = c.receive stream := by
  induction stream generalizing c with
  | nil => rfl
  | cons s stream ih =>
    by_cases hs : s = .fault .interrupted
    · subst hs
      have hskip : Frame.uninterrupted (.fault .interrupted :: stream) =
          Frame.uninterrupted stream := by simp [Frame.uninterrupted]
      rw [hskip, receive, feed_interrupted, ih]
      rfl
    · have hkeep : Frame.uninterrupted (s :: stream) = s :: Frame.uninterrupted stream := by
        simp [Frame.uninterrupted, hs]
      simp only [hkeep, receive, ih]

lemma receive_scan {c : Client κ} (hc : c.reading = true) (stream : List Frame.Signal) :
    c.receive stream =
      match Frame.scan c.phase stream with
      | .inl p => ({ c with phase := p }, [])
      | .inr (r, rest) =>
        let (d, es) := { c with phase := .start }.take (Frame.message r)
        ((d.receive rest).1, es ++ (d.receive rest).2) := by
  induction stream generalizing c with
  | nil => rfl
  | cons s stream ih =>
    rw [receive, Frame.scan, feed, if_pos hc]
    cases Frame.feed c.phase s with
    | more p => exact ih (c := { c with phase := p }) hc
    | done r => rfl

lemma complete_quiet (c : Client κ) (r : Response) :
    (c.complete r).1.reading = c.reading ∧ (c.complete r).1.phase = c.phase ∧
      endings (c.complete r).2 = [] := by
  rw [complete]
  cases r.id.bind c.pendingOf <;> exact ⟨rfl, rfl, rfl⟩

lemma endings_traceNote (c : Client κ) (side : Side) (direction : String) (text : List Char) :
    endings (c.traceNote side direction text) = [] := by
  rw [traceNote]
  split <;> rfl

lemma dispatch_quiet (c : Client κ) (m : Json) :
    (c.dispatch m).1.reading = c.reading ∧ (c.dispatch m).1.phase = c.phase ∧
      endings (c.dispatch m).2 = [] := by
  cases hm : Inbound.classify m with
  | error e =>
    simp only [dispatch, hm, endings_append, endings_traceNote]
    exact ⟨trivial, trivial, rfl⟩
  | ok inbound =>
    cases inbound with
    | response r =>
      obtain ⟨hreading, hphase, hendings⟩ := c.complete_quiet r
      simp only [dispatch, hm, endings_append, endings_traceNote, hendings]
      exact ⟨hreading, hphase, rfl⟩
    | notification | request =>
      simp only [dispatch, hm, endings_append, endings_traceNote]
      exact ⟨trivial, trivial, rfl⟩

lemma endings_stop (c : Client κ) (error : Option TransportError) :
    endings (c.stop error).2 = [error] := by
  have hnote : endings (error.toList.map fun _ => note (κ := κ) .reader .warn
      "closing connection after transport error" [c.languageField, c.generationField]) = [] := by
    cases error <;> rfl
  have hcalls (calls : List (PendingCall κ)) (outcome : Outcome) :
      endings (calls.map (Emission.completed · outcome)) = [] := by
    simp [endings, Emission.ending?, List.filterMap_eq_nil_iff]
  simp only [stop, drain, endings_append, hnote, hcalls]
  rfl

def reported : TransportError → Option TransportError
  | .unexpectedEnd => none
  | e => some e

lemma take_stop (c : Client κ) (e : TransportError) : c.take (.error e) = c.stop (reported e) := by
  cases e <;> rfl

lemma closing_framed {c : Client κ} (hc : c.reading = true) (hp : c.phase = .start)
    {frames : List (Bytes × Bytes)}
    (hframes : ∀ f ∈ frames, Frame.Framed f.1 f.2 ∧ ∃ m, Json.parseBytes f.1 = .ok m)
    (stream : List Frame.Signal) :
    ∃ d : Client κ, d.reading = true ∧ d.phase = .start ∧
      endings (c.closing ((frames.flatMap Prod.snd).map .byte ++ stream)) =
        endings (d.closing stream) := by
  induction frames generalizing c with
  | nil => exact ⟨c, hc, hp, rfl⟩
  | cons f frames ih =>
    rw [List.forall_mem_cons] at hframes
    obtain ⟨⟨hframed, m, hm⟩, hrest⟩ := hframes
    obtain ⟨hreading, hphase, hendings⟩ := { c with phase := .start }.dispatch_quiet m
    obtain ⟨d, hd, hdp, heq⟩ := ih (c := ({ c with phase := .start }.dispatch m).1)
      (hreading.trans hc) hphase hrest
    refine ⟨d, hd, hdp, ?_⟩
    have hmessage : Frame.message (.ok f.1) = .ok m := by
      simp only [Frame.message, bind, Except.bind, hm]
    have hscan : Frame.scan c.phase
        (((f :: frames).flatMap Prod.snd).map .byte ++ stream) =
          .inr (.ok f.1, (frames.flatMap Prod.snd).map .byte ++ stream) := by
      rw [hp, List.flatMap_cons, List.map_append, List.append_assoc, Frame.scan_append,
        Frame.scan_framed hframed]
      rfl
    rw [closing, receive_scan hc, hscan]
    simp only [hmessage, take]
    rw [List.append_assoc, endings_append, hendings, List.nil_append, ← heq, closing]

lemma closing_scan {c : Client κ} (hc : c.reading = true) (hp : c.phase = .start)
    {stream : List Frame.Signal} {p : Frame.Phase} {e : TransportError}
    (hscan : Frame.scan .start stream = .inl p)
    (he : Frame.message (Frame.finish p) = .error e) :
    endings (c.closing stream) = [reported e] := by
  rw [closing, receive_scan hc, hp, hscan]
  simp only [List.nil_append, finish, hc, he, if_true]
  rw [take_stop, endings_stop]

end Client

namespace Frame

/-- What comes of a stream: these bodies, then this end, and one report that says so. The bodies have
to be messages for the connection to come to the end. -/
structure Ends (arrivals : List Arrival) (bodies : List Bytes)
    (last : List (Except TransportError Bytes)) (error : Option TransportError) : Prop where
  read : ∀ count, Source.readMany count { arrivals } = (bodies.map Except.ok ++ last).take count
  reported : ∀ {κ : Type} (c : Client κ), c.reading = true → c.phase = .start →
    (∀ body ∈ bodies, ∃ m, Json.parseBytes body = .ok m) →
      endings (c.closing (signals arrivals)) = [error]

def thenEnd : Except TransportError Bytes → List (Except TransportError Bytes)
  | .error .unexpectedEnd => [.error .unexpectedEnd]
  | r => [r, .error .unexpectedEnd]

lemma readMany_end {stream : List Signal} {r : Except TransportError Bytes}
    (h : read stream = (r, [])) (count : Nat) : readMany count stream = (thenEnd r).take count := by
  cases count with
  | zero => rfl
  | succ count =>
    rw [readMany, h]
    rcases r with e | b
    · cases e with
      | unexpectedEnd => simp [thenEnd]
      | _ => simp [thenEnd, readMany_nil]
    · simp [thenEnd, readMany_nil]

lemma ends_of_cut {frames : List (Bytes × Bytes)} (hframes : ∀ f ∈ frames, Framed f.1 f.2)
    {body cut : Bytes} (hsize : body.length ≤ maxContentLength) (hcut : cut <+: encode body)
    (hproper : cut ≠ encode body) {arrivals : List Arrival}
    (harrivals : uninterrupted (signals arrivals) =
      (frames.flatMap Prod.snd ++ cut).map .byte) {e : TransportError}
    (he : message (brokenOff cut) = .error e) :
    Ends arrivals (frames.map Prod.fst) (thenEnd (brokenOff cut)) (Client.reported e) := by
  obtain ⟨more, hmore⟩ := hcut
  have hne : more ≠ [] := by
    rintro rfl
    rw [List.append_nil] at hmore
    exact hproper hmore
  have hread := read_cut hsize hmore.symm hne
  rw [List.map_append] at harrivals
  constructor
  · intro count
    have hsource : Source.readMany count { arrivals } =
        readMany count (uninterrupted (signals arrivals)) := Source.readMany_content count _
    rw [hsource, harrivals, readMany_framed hframes, readMany_end hread, List.take_append,
      List.length_map, List.length_map, List.map_map]
    rfl
  · intro κ c hc hp hmessages
    have hstream : c.closing (signals arrivals) =
        c.closing ((frames.flatMap Prod.snd).map .byte ++ cut.map .byte) := by
      rw [Client.closing, ← Client.receive_uninterrupted, harrivals, Client.closing]
    obtain ⟨d, hd, hdp, hclosing⟩ := Client.closing_framed hc hp
      (fun f hf => ⟨hframes f hf, hmessages f.1 (List.mem_map_of_mem hf)⟩) (cut.map .byte)
    obtain ⟨q, hscan, hq⟩ := scan_cut (hmore ▸ framed_encode hsize) hne
    rw [hread, Prod.mk.injEq] at hq
    rw [hstream, hclosing]
    apply Client.closing_scan hd hdp hscan
    rw [← hq.1, he]

/-- A stream that breaks off inside a frame, wherever that is, gives the whole frames before it and
then its end, and the connection is reported closed without an error. Two cuts are told apart from
that: one that leaves no digit of the announcement is taken for an invalid header, and the loss of
no more than the last newline of a frame without a body for the whole frame. -/
theorem cuts_reported {frames : List (Bytes × Bytes)} (hframes : ∀ f ∈ frames, Framed f.1 f.2)
    {body cut : Bytes} (hsize : body.length ≤ maxContentLength) (hcut : cut <+: encode body)
    (hproper : cut ≠ encode body) {arrivals : List Arrival}
    (harrivals : uninterrupted (signals arrivals) =
      (frames.flatMap Prod.snd ++ cut).map .byte) :
    ((cut = [] ∨ stem.length < cut.length) → cut ++ [newline] ≠ encode [] →
      Ends arrivals (frames.map Prod.fst) [.error .unexpectedEnd] none) ∧
    (cut ≠ [] → cut.length ≤ stem.length →
      let e := TransportError.invalidHeader (String.ofList (Text.trim (stem.take cut.length)))
      Ends arrivals (frames.map Prod.fst) [.error e, .error .unexpectedEnd] (some e)) ∧
    (cut ++ [newline] = encode [] →
      Ends arrivals (frames.map Prod.fst) [.ok [], .error .unexpectedEnd]
        (some (.malformedBody .unexpectedEnd))) := by
  have hends := fun {e : TransportError} =>
    ends_of_cut hframes hsize hcut hproper harrivals (e := e)
  refine ⟨fun hlength hlost => ?_, fun hne hlength => ?_, fun hlost => ?_⟩
  · have hbroken : brokenOff cut = .error .unexpectedEnd := by
      rw [brokenOff, if_neg hlost, if_neg]
      rintro ⟨hpos, hle⟩
      rcases hlength with rfl | hlt
      · exact absurd hpos (by decide)
      · omega
    rw [hbroken] at hends
    exact hends rfl
  · have hbroken : brokenOff cut =
        .error (.invalidHeader (String.ofList (Text.trim (stem.take cut.length)))) := by
      rw [brokenOff, if_pos ⟨List.length_pos_iff.2 hne, hlength⟩]
    rw [hbroken] at hends
    exact hends rfl
  · have hbroken : brokenOff cut = .ok [] := by
      have hlength := congrArg List.length hlost
      have htotal : (encode []).length = 21 := by decide +kernel
      rw [List.length_append, htotal, List.length_singleton] at hlength
      have hstem : stem.length = 16 := by decide
      rw [brokenOff, if_neg (by omega), if_pos hlost]
    rw [hbroken] at hends
    exact hends rfl

namespace Sample

def greeting : Bytes := Utf8.encodeString "hello, world"

def halfNumber : Bytes := Utf8.encodeString "Content-Length: 1"

def null : Bytes := Utf8.encodeString "null"

def breakdown : List Arrival :=
  [.chunk ((encode null).take 20), .fault .interrupted,
    .chunk ((encode null).drop 20 ++ halfNumber)]

def halfName : Bytes := Utf8.encodeString "Content-Le"

def lostNewline : Bytes := Utf8.encodeString "Content-Length: 0\r\n\r"

def connection : Client Unit := .start ⟨"json", by decide, by decide⟩ 1 false fun _ => .whole

end Sample

theorem half_number_reported :
    (∀ f ∈ [(Sample.null, encode Sample.null)], Framed f.1 f.2) ∧
      Sample.greeting.length ≤ maxContentLength ∧
      Sample.halfNumber <+: encode Sample.greeting ∧ Sample.halfNumber ≠ encode Sample.greeting ∧
      Ends Sample.breakdown [Sample.null] [.error .unexpectedEnd] none := by
  have hframes : ∀ f ∈ [(Sample.null, encode Sample.null)], Framed f.1 f.2 := by
    intro f hf
    rw [List.mem_singleton.1 hf]
    exact framed_encode (by decide +kernel)
  have hcut : Sample.halfNumber <+: encode Sample.greeting := by decide +kernel
  have hproper : Sample.halfNumber ≠ encode Sample.greeting := by decide +kernel
  have hsize : Sample.greeting.length ≤ maxContentLength := by decide +kernel
  refine ⟨hframes, hsize, hcut, hproper, ?_⟩
  exact (cuts_reported hframes hsize hcut hproper (by decide +kernel)).1
    (.inr (by decide +kernel)) (by decide +kernel)

/-- Neither of these streams is read as one that ends inside a frame. -/
theorem half_lines_misread :
    (Sample.halfName <+: encode [] ∧ Sample.halfName ≠ encode [] ∧
      Source.readMany 2 { arrivals := [.chunk Sample.halfName] } =
        [.error (.invalidHeader "Content-Le"), .error .unexpectedEnd] ∧
      endings (Sample.connection.closing (Sample.halfName.map .byte)) =
        [some (.invalidHeader "Content-Le")]) ∧
    Sample.lostNewline <+: encode [] ∧ Sample.lostNewline ≠ encode [] ∧
      Source.readMany 2 { arrivals := [.chunk Sample.lostNewline] } =
        [.ok [], .error .unexpectedEnd] ∧
      endings (Sample.connection.closing (Sample.lostNewline.map .byte)) =
        [some (.malformedBody .unexpectedEnd)] := by
  rw [readMany_signals, readMany_signals]
  decide +kernel

end Frame

end LanguageHost
