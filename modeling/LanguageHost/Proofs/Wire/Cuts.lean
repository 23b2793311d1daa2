import LanguageHost.Proofs.Wire.Framing

namespace LanguageHost

lemma Utf8.prefix_ascii {cs : List Char} (h : ∀ c ∈ cs, c.toNat < 0x80) {cut rest : Bytes}
    (heq : encode cs = cut ++ rest) :
    ∃ ds es, cs = ds ++ es ∧ cut = encode ds := by
  induction cs generalizing cut with
  | nil =>
    obtain ⟨rfl, -⟩ := List.append_eq_nil_iff.1 heq.symm
    exact ⟨[], [], rfl, rfl⟩
  | cons c cs ih =>
    rw [List.forall_mem_cons] at h
    cases cut with
    | nil => exact ⟨[], c :: cs, rfl, rfl⟩
    | cons b cut =>
      rw [encode_cons, encodeChar_one h.1, List.singleton_append, List.cons_append] at heq
      obtain ⟨rfl, htail⟩ := List.cons.inj heq
      obtain ⟨ds, es, rfl, rfl⟩ := ih h.2 htail
      refine ⟨c :: ds, es, rfl, ?_⟩
      rw [encode_cons, encodeChar_one h.1, List.singleton_append]

lemma Utf8.length_encode_ascii {cs : List Char} (h : ∀ c ∈ cs, c.toNat < 0x80) :
    (encode cs).length = cs.length := by
  induction cs with
  | nil => rfl
  | cons c cs ih =>
    rw [List.forall_mem_cons] at h
    rw [encode_cons, encodeChar_one h.1, List.singleton_append, List.length_cons, ih h.2,
      List.length_cons]

namespace Frame

def scan (p : Phase) : List Signal → Phase ⊕ (Except TransportError Bytes × List Signal)
  | [] => .inl p
  | s :: rest =>
    match feed p s with
    | .more q => scan q rest
    | .done r => .inr (r, rest)

lemma readFrom_append (p : Phase) (stream rest : List Signal) :
    readFrom p (stream ++ rest) =
      match scan p stream with
      | .inl q => readFrom q rest
      | .inr (r, left) => (r, left ++ rest) := by
  induction stream generalizing p with
  | nil => rfl
  | cons s stream ih =>
    rw [List.cons_append, readFrom, scan]
    cases feed p s with
    | more q => exact ih q
    | done r => rfl

lemma scan_append (p : Phase) (stream rest : List Signal) :
    scan p (stream ++ rest) =
      match scan p stream with
      | .inl q => scan q rest
      | .inr (r, left) => .inr (r, left ++ rest) := by
  induction stream generalizing p with
  | nil => rfl
  | cons s stream ih =>
    rw [List.cons_append, scan, scan]
    cases feed p s with
    | more q => exact ih q
    | done r => rfl

lemma scan_framed {body bytes : Bytes} (h : Framed body bytes) :
    scan .start (bytes.map .byte) = .inr (.ok body, []) := by
  -- A frame ends with its last byte, so that a fault behind it is not met.
  have hread := read_framed h [.fault .other]
  rw [read, readFrom_append] at hread
  cases hscan : scan .start (bytes.map .byte) with
  | inl q =>
    simp only [hscan] at hread
    rw [readFrom_fault (by decide)] at hread
    cases hread
  | inr result =>
    obtain ⟨r, left⟩ := result
    simp only [hscan, Prod.mk.injEq] at hread
    obtain ⟨rfl, hleft⟩ := hread
    rw [List.append_left_eq_self.1 hleft]

lemma scan_cut {body cut more : Bytes} (h : Framed body (cut ++ more)) (hmore : more ≠ []) :
    ∃ q, scan .start (cut.map .byte) = .inl q ∧ read (cut.map .byte) = (finish q, []) := by
  cases hscan : scan .start (cut.map .byte) with
  | inl q =>
    refine ⟨q, rfl, ?_⟩
    have hread := readFrom_append .start (cut.map .byte) []
    rw [List.append_nil] at hread
    rw [read, hread, hscan]
    rfl
  | inr result =>
    obtain ⟨r, left⟩ := result
    have hwhole := scan_framed h
    rw [List.map_append, scan_append, hscan] at hwhole
    simp only [Sum.inr.injEq, Prod.mk.injEq, List.append_eq_nil_iff, List.map_eq_nil_iff] at hwhole
    exact absurd hwhole.2.2 hmore

section Line

variable {n : Nat} {front : List Char}

def stem : List Char := (contentLength ++ ": ").toList

lemma stem_eq : stem = contentLength.toList ++ ':' :: [' '] := by decide

lemma text_announcing (n : Nat) :
    (announcing n).text = stem ++ (Nat.toDigits 10 n ++ ['\r']) := by
  simp [announcing, Header.text, stem_eq]

lemma endLine_stem (h : front <+: stem) (hne : front ≠ []) :
    endLine none (Utf8.encode front) =
      .done (.error (.invalidHeader (String.ofList (Text.trim front)))) := by
  obtain ⟨back, heq⟩ := h
  by_cases hcolon : ':' ∈ front
  · obtain ⟨name, value, rfl, hname⟩ := List.eq_append_cons_of_mem hcolon
    rw [List.append_assoc, List.cons_append, stem_eq] at heq
    obtain ⟨rfl, -, hvalue⟩ :=
      (List.append_cons_inj_of_notMem (by decide) (by decide)).1 heq.symm
    apply endLine_malformed none hname (announcing_isLength 0)
    have hblank : Text.trim value = [] := by
      rw [Text.trim_eq_nil_iff]
      intro c hc
      have hmem : c ∈ [' '] := hvalue ▸ List.mem_append_left back hc
      rw [List.mem_singleton.1 hmem]
      decide
    rw [hblank]
    rfl
  · obtain ⟨c, front, rfl⟩ := List.exists_cons_of_ne_nil hne
    obtain rfl : c = 'C' := (List.cons.inj heq).1
    exact endLine_bare none List.mem_cons_self (by decide) hcolon

lemma digits_lt {before after : List Char} (h : Nat.toDigits 10 n = before ++ after)
    (hn : n < 2 ^ 64) : Nat.ofDigitChars 10 before 0 < 2 ^ 64 := by
  have hvalue := Nat.ofDigitChars_ten_toDigits (n := n)
  rw [h, Nat.ofDigitChars_append, Nat.ofDigitChars_eq_ofDigitChars_zero] at hvalue
  have hpow : 0 < 10 ^ after.length := Nat.pow_pos (by decide)
  have hle := Nat.le_mul_of_pos_left (Nat.ofDigitChars 10 before 0) hpow
  omega

lemma endLine_digits (h : front <+: Nat.toDigits 10 n ++ ['\r']) (hne : front ≠ [])
    (hn : n < 2 ^ 64) :
    ∃ m, endLine none (Utf8.encode (stem ++ front)) = .more (.line (some m) []) := by
  obtain ⟨back, heq⟩ := h
  -- The digits of the line, and the return behind them.
  obtain ⟨digits, rest, after, hdigits, rfl, hnonempty, hafter⟩ :
      ∃ digits rest after, Nat.toDigits 10 n = digits ++ rest ∧ front = digits ++ after ∧
        digits ≠ [] ∧ ∀ c ∈ after, Text.isBlank c = true := by
    rcases List.append_eq_append_iff.1 heq with ⟨rest, hdigits, -⟩ | ⟨after, rfl, hafter⟩
    · exact ⟨front, rest, [], hdigits, (List.append_nil _).symm, hne, by simp⟩
    · refine ⟨_, [], after, (List.append_nil _).symm, rfl, Nat.toDigits_ne_nil, fun c hc => ?_⟩
      have hmem : c ∈ ['\r'] := hafter ▸ List.mem_append_left back hc
      rw [List.mem_singleton.1 hmem]
      decide
  have hdigit : ∀ c ∈ digits, c.isDigit = true := by
    intro c hc
    apply isDigit_toDigits (n := n)
    rw [hdigits]
    exact List.mem_append_left rest hc
  have htrim : Text.trim (' ' :: (digits ++ after)) = digits :=
    trim_digits hdigit [' '] after (List.forall_iff_forall_mem.mp (by decide)) hafter
  refine ⟨Nat.ofDigitChars 10 digits 0, ?_⟩
  rw [stem_eq, List.append_assoc, List.cons_append, List.singleton_append]
  apply endLine_length none (by decide) (announcing_isLength 0)
  rw [htrim, parseLength_eq_some_iff]
  exact ⟨⟨digits, .inl rfl, hnonempty, hdigit, rfl⟩, digits_lt hdigits hn⟩

end Line

section Cut

variable {n : Nat} {body cut more : Bytes}

lemma announcing_ascii (n : Nat) : ∀ c ∈ (announcing n).text, c.toNat < 0x80 := by
  have hstem : ∀ c ∈ stem, c.toNat < 0x80 := List.forall_iff_forall_mem.mp (by decide)
  intro c hc
  rw [text_announcing, List.mem_append, List.mem_append] at hc
  rcases hc with hc | hc | hc
  · exact hstem c hc
  · have := isDigit_toNat (isDigit_toDigits hc)
    omega
  · rw [List.mem_singleton.1 hc]
    decide

lemma read_line (hcut : newline ∉ cut) :
    read (cut.map .byte) = (finish (.line none cut.reverse), []) := by
  have hnil : cut.map Signal.byte = cut.map .byte ++ [] := (List.append_nil _).symm
  rw [read, Phase.start, hnil, readFrom_part hcut, List.append_nil]
  rfl

/-- What is read of a frame that breaks off: the line that it ends in is taken for a whole one. -/
def brokenOff (cut : Bytes) : Except TransportError Bytes :=
  if 1 ≤ cut.length ∧ cut.length ≤ stem.length then
    .error (.invalidHeader (String.ofList (Text.trim (stem.take cut.length))))
  else if cut ++ [newline] = encode [] then .ok []
  else .error .unexpectedEnd

lemma read_announcement (hn : n < 2 ^ 64) (h : Utf8.encode (announcing n).text = cut ++ more) :
    read (cut.map .byte) = (brokenOff cut, []) := by
  obtain ⟨front, back, htext, rfl⟩ := Utf8.prefix_ascii (announcing_ascii n) h
  have hlength : (Utf8.encode front).length = front.length := by
    apply Utf8.length_encode_ascii
    intro c hc
    apply announcing_ascii n
    rw [htext]
    exact List.mem_append_left _ hc
  have hnewline : newline ∉ Utf8.encode front := by
    intro hmem
    apply (announcing n).newline_notMem
    rw [htext, Utf8.encode_append]
    exact List.mem_append_left _ hmem
  have hempty : Utf8.encode front ++ [newline] ≠ encode [] := by
    intro heq
    have hcount := congrArg (List.count newline) heq
    rw [List.count_append, List.count_eq_zero.2 hnewline] at hcount
    exact absurd hcount (by decide +kernel)
  rw [read_line hnewline, brokenOff, if_neg hempty, hlength]
  by_cases hne : front = []
  · subst hne
    rfl
  have hbytes : Utf8.encode front ≠ [] := by
    rw [← List.length_pos_iff, hlength]
    exact List.length_pos_iff.2 hne
  rw [finish_line hbytes]
  by_cases hstem : front <+: stem
  · rw [endLine_stem hstem hne, if_pos ⟨List.length_pos_iff.2 hne, hstem.length_le⟩,
      ← List.prefix_iff_eq_take.1 hstem]
  rw [text_announcing] at htext
  rcases List.append_eq_append_iff.1 htext.symm with ⟨rest, hrest, -⟩ | ⟨rest, rfl, hdigits⟩
  · exact absurd ⟨rest, hrest.symm⟩ hstem
  · have hrest : rest ≠ [] := by
      rintro rfl
      exact hstem ⟨[], by simp⟩
    obtain ⟨m, hm⟩ := endLine_digits ⟨back, hdigits.symm⟩ hrest hn
    have hlong : ¬ (stem ++ rest).length ≤ stem.length := by
      have := List.length_pos_iff.2 hrest
      rw [List.length_append]
      omega
    rw [hm, if_neg fun hle => hlong hle.2]

lemma readAnnounced_short (hle : n ≤ maxContentLength) (h : cut.length < n) :
    readAnnounced n (cut.map .byte) = (.error .unexpectedEnd, []) := by
  have hnil : cut.map Signal.byte = cut.map .byte ++ [] := (List.append_nil _).symm
  rw [readAnnounced, beginBody, if_neg (Nat.not_lt.2 hle), if_neg (by omega)]
  change readFrom (.body n []) (cut.map .byte) = _
  rw [hnil, readFrom_piece h]
  rfl

lemma encode_split (body : Bytes) :
    encode body = Utf8.encode (announcing body.length).text ++ newline :: 13 :: newline :: body := by
  rw [encode_eq, block, List.flatMap_cons, List.flatMap_nil, List.append_nil, Header.bytes,
    encode_line]
  simp

lemma read_behind (hle : body.length ≤ maxContentLength) (hmore : more ≠ [])
    (h : 13 :: newline :: body = cut ++ more) :
    readFrom (.line (some body.length) []) (cut.map .byte) =
      (if body = [] ∧ cut = [13] then .ok [] else .error .unexpectedEnd, []) := by
  match cut, h with
  | [], _ =>
    rw [if_neg (by simp)]
    rfl
  | [b], h =>
    obtain ⟨rfl, -⟩ := List.cons.inj h
    have hend : endLine (some body.length) [13] = beginBody (some body.length) := rfl
    have hnil : ([13] : Bytes).map Signal.byte = ([13] : Bytes).map .byte ++ [] := rfl
    rw [hnil, readFrom_part (by decide), readFrom]
    change (finish (.line (some body.length) ([13] : Bytes).reverse), []) = _
    rw [finish_line (by simp), hend, beginBody, if_neg (Nat.not_lt.2 hle)]
    by_cases hbody : body = []
    · subst hbody
      rfl
    · have hlength : body.length ≠ 0 := fun h => hbody (List.eq_nil_of_length_eq_zero h)
      rw [if_neg hlength, if_neg fun h => hbody h.1]
  | b :: c :: piece, h =>
    rw [List.cons_append, List.cons_append, List.cons.injEq, List.cons.injEq] at h
    obtain ⟨rfl, rfl, rfl⟩ := h
    have hshort : piece.length < (piece ++ more).length := by
      have := List.length_pos_iff.2 hmore
      rw [List.length_append]
      omega
    have hread := readFrom_blank (blank_return (piece.map .byte)) (piece ++ more).length
    rw [readAnnounced_short hle hshort] at hread
    rw [if_neg (by simp)]
    exact hread

lemma line_unique {a b x y : Bytes} (ha : newline ∉ a) (hb : newline ∉ b)
    (h : a ++ newline :: x = b ++ newline :: y) : a = b ∧ x = y := by
  rcases List.append_eq_append_iff.1 h with ⟨rest, rfl, hrest⟩ | ⟨rest, rfl, hrest⟩
  · cases rest with
    | nil =>
      cases hrest
      exact ⟨(List.append_nil a).symm, rfl⟩
    | cons c rest =>
      obtain ⟨rfl, -⟩ := List.cons.inj hrest
      exact absurd (List.mem_append_right a List.mem_cons_self) hb
  · cases rest with
    | nil =>
      cases hrest
      exact ⟨List.append_nil b, rfl⟩
    | cons c rest =>
      obtain ⟨rfl, -⟩ := List.cons.inj hrest
      exact absurd (List.mem_append_right b List.mem_cons_self) ha

lemma announcing_inj {m n : Nat}
    (h : Utf8.encode (announcing m).text = Utf8.encode (announcing n).text) : m = n := by
  have htext := congrArg Utf8.decode? h
  rw [Utf8.decode?_encode, Utf8.decode?_encode, Option.some.injEq, text_announcing,
    text_announcing] at htext
  have hdigits := List.append_cancel_right (List.append_cancel_left htext)
  rw [← Nat.ofDigitChars_ten_toDigits (n := m), hdigits, Nat.ofDigitChars_ten_toDigits]

lemma brokenOff_behind {rest : Bytes} (body : Bytes) :
    brokenOff (Utf8.encode (announcing body.length).text ++ newline :: rest) =
      if body = [] ∧ rest = [13] then .ok [] else .error .unexpectedEnd := by
  have hlong : ¬ (Utf8.encode (announcing body.length).text ++ newline :: rest).length ≤ stem.length := by
    rw [List.length_append, Utf8.length_encode_ascii (announcing_ascii _), text_announcing,
      List.length_append, List.length_append]
    simp
    omega
  have hlost : Utf8.encode (announcing body.length).text ++ newline :: rest ++ [newline] = encode [] ↔
      body = [] ∧ rest = [13] := by
    rw [encode_split, List.append_assoc, List.cons_append]
    constructor
    · intro h
      obtain ⟨htext, hrest⟩ := line_unique (announcing _).newline_notMem (announcing _).newline_notMem h
      refine ⟨List.eq_nil_of_length_eq_zero (announcing_inj htext), ?_⟩
      exact List.append_cancel_right (show rest ++ [newline] = [13] ++ [newline] from hrest)
    · rintro ⟨rfl, rfl⟩
      rfl
  rw [brokenOff, if_neg fun h => hlong h.2]
  simp only [hlost]

lemma read_cut (hle : body.length ≤ maxContentLength) (h : encode body = cut ++ more)
    (hmore : more ≠ []) : read (cut.map .byte) = (brokenOff cut, []) := by
  have hsize : body.length < 2 ^ 64 := Nat.lt_of_le_of_lt hle (by decide)
  rw [encode_split] at h
  -- Either the line of the announcement is whole, or the stream ends inside it.
  rcases List.append_eq_append_iff.1 h with ⟨rest, rfl, hrest⟩ | ⟨rest, hannounced, -⟩
  · cases rest with
    | nil =>
      rw [List.append_nil]
      exact read_announcement hsize (List.append_nil _).symm
    | cons b rest =>
      rw [List.cons_append, List.cons.injEq] at hrest
      obtain ⟨rfl, hrest⟩ := hrest
      have hline := Header.endLine_denotes (announcing_denotes hsize) none
      rw [List.map_append, List.map_cons, read, Phase.start,
        readFrom_line (announcing body.length).newline_notMem, List.reverse_nil, List.nil_append,
        ← encode_line, ← Header.bytes, hline, brokenOff_behind]
      exact read_behind hle hmore hrest
  · exact read_announcement hsize hannounced

end Cut

end Frame

end LanguageHost
