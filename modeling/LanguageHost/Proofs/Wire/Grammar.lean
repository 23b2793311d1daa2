import Mathlib.Algebra.Group.Nat.Defs
import LanguageHost.Proofs.Wire.Chunks
import LanguageHost.Proofs.Wire.Lines

namespace LanguageHost.Frame

structure Header where
  name : List Char
  value : List Char
  name_plain : ':' ∉ name ∧ '\n' ∉ name
  value_plain : '\n' ∉ value

namespace Header

def text (h : Header) : List Char := h.name ++ ':' :: h.value

def bytes (h : Header) : Bytes := Utf8.encode (h.text ++ ['\n'])

def isLength (h : Header) : Bool :=
  Text.equalIgnoringAsciiCase (String.ofList (Text.trim h.name)) contentLength

def Denotes (h : Header) (n : Nat) : Prop :=
  h.isLength = true ∧ Numeral (Text.trim h.value) n ∧ n < 2 ^ 64

end Header

def block (headers : List Header) : Bytes := headers.flatMap Header.bytes

/-- Every header that announces a length has one, and the last of them is this one. -/
structure Announces (headers : List Header) (n : Nat) : Prop where
  wellFormed : ∀ h ∈ headers, h.isLength = true → ∃ m, h.Denotes m
  last : ∃ before h after, headers = before ++ h :: after ∧ h.Denotes n ∧
    ∀ a ∈ after, a.isLength = false

/-- A line of white space in front of the rest of the stream. The end of the stream may take the
place of its newline. -/
def Blank (line : Bytes) (rest : List Signal) : Prop :=
  ∃ cs, (∀ c ∈ cs, Text.isBlank c = true) ∧ '\n' ∉ cs ∧
    (line = Utf8.encode (cs ++ ['\n']) ∨ line = Utf8.encode cs ∧ cs ≠ [] ∧ rest = [])

inductive Leads : Option Nat → List Header → Option Nat → Prop
  | nil (a : Option Nat) : Leads a [] a
  | length {a z : Option Nat} {h : Header} {hs : List Header} {n : Nat} (hn : h.Denotes n)
      (rest : Leads (some n) hs z) : Leads a (h :: hs) z
  | other {a z : Option Nat} {h : Header} {hs : List Header} (hn : h.isLength = false)
      (rest : Leads a hs z) : Leads a (h :: hs) z

namespace Leads

variable {a y z : Option Nat} {hs before after : List Header}

lemma append (hb : Leads a before y) (ha : Leads y after z) : Leads a (before ++ after) z := by
  induction hb with
  | nil => exact ha
  | length hn _ ih => exact .length hn (ih ha)
  | other hn _ ih => exact .other hn (ih ha)

lemma of_others (h : ∀ x ∈ hs, x.isLength = false) (a : Option Nat) : Leads a hs a := by
  induction hs with
  | nil => exact .nil a
  | cons x hs ih =>
    rw [List.forall_mem_cons] at h
    exact .other h.1 (ih h.2)

lemma exists_of_wellFormed (h : ∀ x ∈ hs, x.isLength = true → ∃ n, x.Denotes n) (a : Option Nat) :
    ∃ z, Leads a hs z := by
  induction hs generalizing a with
  | nil => exact ⟨a, .nil a⟩
  | cons x hs ih =>
    rw [List.forall_mem_cons] at h
    cases hx : x.isLength with
    | true =>
      obtain ⟨n, hn⟩ := h.1 hx
      obtain ⟨z, hz⟩ := ih h.2 (some n)
      exact ⟨z, .length hn hz⟩
    | false =>
      obtain ⟨z, hz⟩ := ih h.2 a
      exact ⟨z, .other hx hz⟩

lemma wellFormed (h : Leads a hs z) : ∀ x ∈ hs, x.isLength = true → ∃ n, x.Denotes n := by
  induction h with
  | nil => exact fun x hx => absurd hx List.not_mem_nil
  | length hn _ ih => exact List.forall_mem_cons.2 ⟨fun _ => ⟨_, hn⟩, ih⟩
  | other hn _ ih =>
    refine List.forall_mem_cons.2 ⟨fun hlength => ?_, ih⟩
    rw [hn] at hlength
    cases hlength

lemma last (h : Leads a hs z) :
    (z = a ∧ ∀ x ∈ hs, x.isLength = false) ∨ ∃ before x after n, z = some n ∧
      hs = before ++ x :: after ∧ x.Denotes n ∧ ∀ y ∈ after, y.isLength = false := by
  induction h with
  | nil => exact .inl ⟨rfl, fun x hx => absurd hx List.not_mem_nil⟩
  | length hn _ ih =>
    right
    rcases ih with ⟨rfl, hothers⟩ | ⟨before, x, after, n, rfl, rfl, hx, hafter⟩
    · exact ⟨[], _, _, _, rfl, rfl, hn, hothers⟩
    · exact ⟨_ :: before, x, after, n, rfl, rfl, hx, hafter⟩
  | other hn _ ih =>
    rcases ih with ⟨rfl, hothers⟩ | ⟨before, x, after, n, rfl, rfl, hx, hafter⟩
    · exact .inl ⟨rfl, List.forall_mem_cons.2 ⟨hn, hothers⟩⟩
    · exact .inr ⟨_ :: before, x, after, n, rfl, rfl, hx, hafter⟩

end Leads

lemma leads_iff {hs : List Header} {n : Nat} : Leads none hs (some n) ↔ Announces hs n := by
  constructor
  · intro h
    rcases h.last with ⟨hnone, -⟩ | ⟨before, x, after, m, hm, hs, hx, hafter⟩
    · cases hnone
    · cases hm
      exact ⟨h.wellFormed, before, x, after, hs, hx, hafter⟩
  · rintro ⟨hwell, before, x, after, rfl, hx, hafter⟩
    obtain ⟨y, hy⟩ := Leads.exists_of_wellFormed
      (fun h hh => hwell h (List.mem_append_left _ hh)) none
    exact hy.append (.length hx (.of_others hafter _))

section Reading

variable {a z : Option Nat} {hs : List Header} {stream rest r : List Signal} {n m : Nat}
  {soFar b : Bytes} {res : Except TransportError Bytes}

lemma Header.newline_notMem (h : Header) : newline ∉ Utf8.encode h.text := by
  rw [newline_mem_encode, text, List.mem_append, List.mem_cons, not_or, not_or]
  exact ⟨h.name_plain.2, by decide, h.value_plain⟩

lemma Header.endLine_denotes {h : Header} (hn : h.Denotes n) (a : Option Nat) :
    endLine a h.bytes = .more (.line (some n) []) := by
  obtain ⟨hlength, hvalue, hsize⟩ := hn
  rw [bytes, text, List.append_assoc, List.cons_append]
  apply endLine_length a h.name_plain.1 hlength
  rw [trim_line, parseLength_eq_some_iff]
  exact ⟨hvalue, hsize⟩

lemma Header.endLine_other {h : Header} (hn : h.isLength = false) (a : Option Nat) :
    endLine a h.bytes = .more (.line a []) := by
  rw [bytes, text, List.append_assoc, List.cons_append]
  exact Frame.endLine_other a h.name_plain.1 hn _

lemma Header.readFrom_bytes {h : Header} {p : Phase} (he : endLine a h.bytes = .more p)
    (stream : List Signal) :
    readFrom (.line a []) (h.bytes.map .byte ++ stream) = readFrom p stream := by
  rw [bytes, encode_line] at he ⊢
  rw [List.map_append, List.append_assoc]
  refine (readFrom_line h.newline_notMem).trans ?_
  simp only [List.reverse_nil, List.nil_append, he]
  rfl

lemma readFrom_block (h : Leads a hs z) (stream : List Signal) :
    readFrom (.line a []) ((block hs).map .byte ++ stream) = readFrom (.line z []) stream := by
  induction h with
  | nil => rfl
  | length hn _ ih =>
    rw [block, List.flatMap_cons, List.map_append, List.append_assoc,
      Header.readFrom_bytes (Header.endLine_denotes hn _)]
    exact ih
  | other hn _ ih =>
    rw [block, List.flatMap_cons, List.map_append, List.append_assoc,
      Header.readFrom_bytes (Header.endLine_other hn _)]
    exact ih

def readAnnounced (n : Nat) (stream : List Signal) : Except TransportError Bytes × List Signal :=
  match beginBody (some n) with
  | .done r => (r, stream)
  | .more p => readFrom p stream

lemma readAnnounced_end (n : Nat) :
    readAnnounced n [] =
      (match beginBody (some n) with
        | .done r => r
        | .more _ => .error .unexpectedEnd, []) := by
  rw [readAnnounced, beginBody]
  split_ifs <;> rfl

lemma readFrom_blank {line : Bytes} (h : Blank line rest) (n : Nat) :
    readFrom (.line (some n) []) (line.map .byte ++ rest) = readAnnounced n rest := by
  obtain ⟨cs, hblank, hnl, rfl | ⟨rfl, hne, rfl⟩⟩ := h
  · rw [encode_line, List.map_append, List.append_assoc]
    refine (readFrom_line ((newline_mem_encode cs).not.2 hnl)).trans ?_
    have hall : ∀ c ∈ cs ++ ['\n'], Text.isBlank c = true :=
      List.forall_mem_append.2 ⟨hblank, List.forall_iff_forall_mem.mp (by decide)⟩
    rw [List.reverse_nil, List.nil_append, ← encode_line, endLine_blank _ hall]
    rw [readAnnounced]
    cases beginBody (some n) <;> rfl
  · rw [readFrom_part ((newline_mem_encode cs).not.2 hnl), List.append_nil, readAnnounced_end,
      readFrom]
    have hline : Utf8.encode cs ≠ [] := by
      intro h
      have hdecode := Utf8.decode?_encode cs
      rw [h] at hdecode
      exact hne (Option.some.inj hdecode).symm
    cases hbegin : beginBody (some n) <;>
      simp only [finish_line hline, endLine_blank _ hblank, hbegin]

lemma readFrom_headers {headers : List Header} {line : Bytes} (hn : Announces headers n)
    (hblank : Blank line rest) :
    readFrom (.line none []) ((block headers ++ line).map .byte ++ rest) = readAnnounced n rest := by
  rw [List.map_append, List.append_assoc, readFrom_block (leads_iff.2 hn), readFrom_blank hblank]

lemma readAnnounced_body (h : b.length ≤ maxContentLength) (r : List Signal) :
    readAnnounced b.length (b.map .byte ++ r) = (.ok b, r) := by
  rw [readAnnounced, beginBody, if_neg (Nat.not_lt.2 h)]
  by_cases hzero : b.length = 0
  · rw [if_pos hzero, List.eq_nil_of_length_eq_zero hzero]
    rfl
  · rw [if_neg hzero]
    exact readFrom_body rfl (Nat.pos_of_ne_zero hzero)

lemma readAnnounced_large (h : maxContentLength < n) (r : List Signal) :
    readAnnounced n r = (.error (.frameTooLarge n), r) := by
  rw [readAnnounced, beginBody, if_pos h]

lemma readFrom_frame {headers : List Header} {line : Bytes} (hn : Announces headers b.length)
    (hblank : Blank line (b.map .byte ++ r)) (hle : b.length ≤ maxContentLength) :
    readFrom (.line none []) ((block headers ++ line ++ b).map .byte ++ r) = (.ok b, r) := by
  rw [List.map_append, List.append_assoc, readFrom_headers hn hblank, readAnnounced_body hle]

def isSettled : Except TransportError Bytes → Bool
  | .ok _ => true
  | .error (.frameTooLarge _) => true
  | .error _ => false

lemma isSettled_ofFault (f : Fault) : isSettled (.error (.ofFault f)) = false := by
  cases f <;> rfl

lemma first_line (stream : List Signal) (h : .fault .interrupted ∉ stream) :
    ∃ bs : Bytes, newline ∉ bs ∧ ((∃ rest, stream = bs.map .byte ++ .byte newline :: rest) ∨
      stream = bs.map .byte ∨ ∃ f rest, f ≠ .interrupted ∧ stream = bs.map .byte ++ .fault f :: rest) := by
  induction stream with
  | nil => exact ⟨[], List.not_mem_nil, .inr (.inl rfl)⟩
  | cons s stream ih =>
    rw [List.mem_cons, not_or] at h
    cases s with
    | fault f =>
      refine ⟨[], List.not_mem_nil, .inr (.inr ⟨f, stream, ?_, rfl⟩)⟩
      rintro rfl
      exact h.1 rfl
    | byte b =>
      by_cases hb : b = newline
      · subst hb
        exact ⟨[], List.not_mem_nil, .inl ⟨stream, rfl⟩⟩
      obtain ⟨bs, hbs, hrest⟩ := ih h.2
      have hmem : newline ∉ b :: bs := by
        rw [List.mem_cons, not_or]
        exact ⟨Ne.symm hb, hbs⟩
      refine ⟨b :: bs, hmem, ?_⟩
      rcases hrest with ⟨rest, rfl⟩ | rfl | ⟨f, rest, hf, rfl⟩
      · exact .inl ⟨rest, rfl⟩
      · exact .inr (.inl rfl)
      · exact .inr (.inr ⟨f, rest, hf, rfl⟩)

lemma readFrom_body_cases (stream : List Signal) (h : .fault .interrupted ∉ stream)
    (hpos : 0 < m) (soFar : Bytes) :
    (∃ (bs : Bytes) (rest : List Signal), bs.length = m ∧ stream = bs.map .byte ++ rest) ∨
      isSettled (readFrom (.body m soFar) stream).1 = false := by
  induction stream generalizing m soFar with
  | nil => exact .inr rfl
  | cons s stream ih =>
    rw [List.mem_cons, not_or] at h
    cases s with
    | fault f =>
      right
      rw [readFrom_fault fun hf => h.1 (congrArg _ hf.symm)]
      exact isSettled_ofFault f
    | byte b =>
      by_cases hm : m ≤ 1
      · exact .inl ⟨[b], stream, by simp; omega, rfl⟩
      · rcases ih h.2 (m := m - 1) (by omega) (b :: soFar) with ⟨bs, rest, hlength, rfl⟩ | hnot
        · exact .inl ⟨b :: bs, rest, by simp; omega, rfl⟩
        · right
          simpa only [readFrom, feed, if_neg hm] using hnot

lemma readAnnounced_settled (h : .fault .interrupted ∉ stream)
    (hres : isSettled (readAnnounced n stream).1 = true) :
    maxContentLength < n ∨ ∃ (b : Bytes) (r : List Signal),
      n = b.length ∧ b.length ≤ maxContentLength ∧ stream = b.map .byte ++ r := by
  rcases Nat.lt_or_ge maxContentLength n with hlarge | hle
  · exact .inl hlarge
  right
  rcases Nat.eq_zero_or_pos n with rfl | hpos
  · exact ⟨[], stream, rfl, hle, rfl⟩
  have hread : readAnnounced n stream = readFrom (.body n []) stream := by
    rw [readAnnounced, beginBody, if_neg (Nat.not_lt.2 hle), if_neg (Nat.pos_iff_ne_zero.1 hpos)]
  rcases readFrom_body_cases stream h hpos [] with ⟨bs, rest, rfl, rfl⟩ | hnot
  · exact ⟨bs, rest, rfl, hle, rfl⟩
  · rw [hread, hnot] at hres
    cases hres

lemma readAnnounced_ok (h : .fault .interrupted ∉ stream)
    (heq : readAnnounced n stream = (.ok b, r)) :
    n = b.length ∧ b.length ≤ maxContentLength ∧ stream = b.map .byte ++ r := by
  rcases readAnnounced_settled h (by rw [heq]; rfl) with hlarge | ⟨b', r', rfl, hle, rfl⟩
  · rw [readAnnounced_large hlarge] at heq
    cases heq
  · rw [readAnnounced_body hle] at heq
    cases heq
    exact ⟨rfl, hle, rfl⟩

lemma readAnnounced_tooLarge (h : .fault .interrupted ∉ stream)
    (heq : readAnnounced n stream = (.error (.frameTooLarge m), r)) :
    n = m ∧ maxContentLength < m ∧ stream = r := by
  rcases readAnnounced_settled h (by rw [heq]; rfl) with hlarge | ⟨b', r', rfl, hle, rfl⟩
  · rw [readAnnounced_large hlarge] at heq
    cases heq
    exact ⟨rfl, hlarge, rfl⟩
  · rw [readAnnounced_body hle] at heq
    cases heq

inductive Turned (a : Option Nat) (bs : Bytes) : Step → Prop
  | blank {cs : List Char} (hbs : bs = Utf8.encode cs) (hnl : '\n' ∉ cs)
      (h : ∀ c ∈ cs, Text.isBlank c = true) : Turned a bs (beginBody a)
  | header {h : Header} {y : Option Nat} (hbs : bs ++ [newline] = h.bytes)
      (hy : ∀ hs z, Leads y hs z → Leads a (h :: hs) z) : Turned a bs (.more (.line y []))
  | refused {e : TransportError} (h : isSettled (.error e) = false) : Turned a bs (.done (.error e))

lemma header_of_line {bs : Bytes} {name value : List Char} (hbs : newline ∉ bs)
    (hname : ':' ∉ name) (h : bs ++ [newline] = Utf8.encode (name ++ ':' :: value)) :
    ∃ x : Header, bs ++ [newline] = x.bytes ∧ x.name = name ∧ value = x.value ++ ['\n'] := by
  obtain ⟨ds, hds, hnl, rfl⟩ := text_of_line hbs h.symm
  rcases List.eq_nil_or_concat value with rfl | ⟨front, last, rfl⟩
  · cases (List.append_inj' hds rfl).2
  rw [List.concat_eq_append] at hds ⊢
  rw [← List.cons_append, ← List.append_assoc] at hds
  obtain ⟨rfl, hlast⟩ := List.append_inj' hds rfl
  cases hlast
  rw [List.mem_append, List.mem_cons, not_or, not_or] at hnl
  refine ⟨⟨name, front, ⟨hname, hnl.1⟩, hnl.2.2⟩, ?_, rfl, rfl⟩
  rw [Header.bytes, Header.text, encode_line]

lemma endLine_turned {bs : Bytes} (hbs : newline ∉ bs) (a : Option Nat) :
    Turned a bs (endLine a (bs ++ [newline])) := by
  have hended := endLine_ended a (bs ++ [newline])
  generalize endLine a (bs ++ [newline]) = step at hended ⊢
  generalize hline : bs ++ [newline] = line at hended
  cases hended with
  | blank hblank =>
    obtain ⟨ds, rfl, hnl, rfl⟩ := text_of_line hbs hline.symm
    exact .blank rfl hnl fun c hc => hblank c (List.mem_append_left _ hc)
  | length hname hlength hvalue hsize =>
    obtain ⟨x, hx, rfl, rfl⟩ := header_of_line hbs hname hline
    rw [trim_line] at hvalue
    exact .header hx fun hs z hz => .length ⟨hlength, hvalue, hsize⟩ hz
  | other hname hlength =>
    obtain ⟨x, hx, rfl, rfl⟩ := header_of_line hbs hname hline
    exact .header hx fun hs z hz => .other hlength hz
  | garbled => exact .refused rfl
  | invalid => exact .refused rfl

lemma readFrom_settled_end {bs : Bytes} (hbs : newline ∉ bs) (hres : isSettled res = true)
    (h : readFrom (.line a []) (bs.map .byte) = (res, r)) :
    ∃ n, a = some n ∧ Blank bs [] ∧ readAnnounced n [] = (res, r) := by
  have hnil : bs.map Signal.byte = bs.map .byte ++ [] := (List.append_nil _).symm
  rw [hnil, readFrom_part hbs, List.append_nil, readFrom] at h
  by_cases hne : bs = []
  · subst hne
    cases h
    cases hres
  rw [finish_line hne] at h
  have hended := endLine_ended a bs
  generalize endLine a bs = step at h hended
  cases hended with
  | @blank cs hblank =>
    cases a with
    | none =>
      cases h
      cases hres
    | some n =>
      have hcs : cs ≠ [] := by
        rintro rfl
        exact hne rfl
      refine ⟨n, rfl, ⟨cs, hblank, (newline_mem_encode cs).not.1 hbs, .inr ⟨rfl, hcs, rfl⟩⟩, ?_⟩
      rw [readAnnounced_end]
      exact h
  | _ =>
    cases h
    cases hres

lemma readFrom_settled (hi : .fault .interrupted ∉ stream) (hres : isSettled res = true)
    (h : readFrom (.line a []) stream = (res, r)) :
    ∃ hs n line rest, Leads a hs (some n) ∧ Blank line rest ∧
      stream = (block hs ++ line).map .byte ++ rest ∧ readAnnounced n rest = (res, r) := by
  -- The induction goes from line to line: only a header leads on, and a blank line ends it.
  induction hn : stream.length using Nat.strong_induction_on generalizing a stream with
  | _ length ih =>
    obtain ⟨bs, hbs, ⟨rest, rfl⟩ | rfl | ⟨f, rest, hf, rfl⟩⟩ := first_line stream hi
    · rw [readFrom_line hbs, List.reverse_nil, List.nil_append] at h
      have hturned := endLine_turned hbs a
      generalize endLine a (bs ++ [newline]) = step at h hturned
      cases hturned with
      | @blank cs hcs hnl hblank =>
        cases a with
        | none =>
          cases h
          cases hres
        | some n =>
          refine ⟨[], n, bs ++ [newline], rest, .nil _, ⟨cs, hblank, hnl, .inl ?_⟩, ?_, ?_⟩
          · rw [encode_line, hcs]
          · simp [block]
          · rw [readAnnounced]
            cases hbegin : beginBody (some n) <;> simpa only [hbegin] using h
      | @header x y hx hy =>
        have hrest : .fault .interrupted ∉ rest := fun hmem => hi (by simp [hmem])
        obtain ⟨hs, n, line, rest, hleads, hblank, rfl, hread⟩ :=
          ih rest.length (by simp at hn; omega) hrest h rfl
        refine ⟨x :: hs, n, line, rest, hy _ _ hleads, hblank, ?_, hread⟩
        have hbytes : block (x :: hs) = bs ++ [newline] ++ block hs := by
          rw [block, List.flatMap_cons, hx, block]
        simp [hbytes]
      | refused he =>
        cases h
        rw [he] at hres
        cases hres
    · obtain ⟨n, rfl, hblank, hread⟩ := readFrom_settled_end hbs hres h
      exact ⟨[], n, bs, [], .nil _, hblank, (List.append_nil _).symm, hread⟩
    · rw [readFrom_part hbs, readFrom_fault hf] at h
      cases h
      rw [isSettled_ofFault] at hres
      cases hres

end Reading

lemma Source.uninterrupted_content (s : Source) : .fault .interrupted ∉ s.content := by
  simp [content, uninterrupted]

/-- A frame is read from a stream just where its headers announce it, its blank line follows and
all of it is there. Of a frame that is too large the body stays in the stream. -/
theorem frame_read_iff (s : Source) (b : Bytes) (r : List Signal) :
    ((∃ s', s.readFrame = (.ok b, s') ∧ s'.content = r) ↔
      ∃ headers line, s.content = (block headers ++ line ++ b).map .byte ++ r ∧
        Blank line (b.map .byte ++ r) ∧ Announces headers b.length ∧
        b.length ≤ maxContentLength) ∧
    ∀ n, ((∃ s', s.readFrame = (.error (.frameTooLarge n), s') ∧ s'.content = r) ↔
      ∃ headers line, s.content = (block headers ++ line).map .byte ++ r ∧ Blank line r ∧
        Announces headers n ∧ maxContentLength < n) := by
  have hread : Frame.readFrom (.line none []) s.content = (s.readFrame.1, s.readFrame.2.content) :=
    s.readFrom_content none
  have hi : .fault .interrupted ∉ s.content := s.uninterrupted_content
  have hresult (res : Except TransportError Bytes) :
      (∃ s', s.readFrame = (res, s') ∧ s'.content = r) ↔
        Frame.readFrom (.line none []) s.content = (res, r) := by
    rw [hread]
    constructor
    · rintro ⟨s', heq, rfl⟩
      rw [heq]
    · intro heq
      cases heq
      exact ⟨_, rfl, rfl⟩
  constructor
  · rw [hresult]
    constructor
    · intro h
      obtain ⟨headers, n, line, rest, hleads, hblank, hcontent, hafter⟩ := readFrom_settled hi rfl h
      have hrest : .fault .interrupted ∉ rest := fun hmem => hi (by simp [hcontent, hmem])
      obtain ⟨rfl, hle, rfl⟩ := readAnnounced_ok hrest hafter
      refine ⟨headers, line, ?_, hblank, leads_iff.1 hleads, hle⟩
      simp only [hcontent, List.map_append, List.append_assoc]
    · rintro ⟨headers, line, hcontent, hblank, hn, hle⟩
      rw [hcontent]
      exact readFrom_frame hn hblank hle
  · intro n
    rw [hresult]
    constructor
    · intro h
      obtain ⟨headers, m, line, rest, hleads, hblank, hcontent, hafter⟩ := readFrom_settled hi rfl h
      have hrest : .fault .interrupted ∉ rest := fun hmem => hi (by simp [hcontent, hmem])
      obtain ⟨rfl, hlt, rfl⟩ := readAnnounced_tooLarge hrest hafter
      exact ⟨headers, line, hcontent, hblank, leads_iff.1 hleads, hlt⟩
    · rintro ⟨headers, line, hcontent, hblank, hn, hlt⟩
      rw [hcontent, readFrom_headers hn hblank, readAnnounced_large hlt]

end LanguageHost.Frame
