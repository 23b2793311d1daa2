import Mathlib.Data.List.TakeDrop
import LanguageHost.Proofs.Text.Encoding
import LanguageHost.Proofs.Text.Trimming
import LanguageHost.Wire.Frame

namespace LanguageHost.Frame

def Numeral (cs : List Char) (n : Nat) : Prop :=
  ∃ digits, (cs = digits ∨ cs = '+' :: digits) ∧ digits ≠ [] ∧
    (∀ c ∈ digits, c.isDigit = true) ∧ Nat.ofDigitChars 10 digits 0 = n

section Lines

variable {cs name value : List Char} {n : Nat}

lemma newline_mem_encode (cs : List Char) : newline ∈ Utf8.encode cs ↔ '\n' ∈ cs :=
  Utf8.mem_encode_ascii (c := '\n') (by decide) cs

lemma encode_line (cs : List Char) : Utf8.encode (cs ++ ['\n']) = Utf8.encode cs ++ [newline] := by
  rw [Utf8.encode_append]
  rfl

lemma text_of_line {bs : Bytes} (hbs : newline ∉ bs) (h : Utf8.encode cs = bs ++ [newline]) :
    ∃ ds, cs = ds ++ ['\n'] ∧ '\n' ∉ ds ∧ Utf8.encode ds = bs := by
  have hmem : '\n' ∈ cs := by
    rw [← newline_mem_encode, h]
    exact List.mem_append_right _ List.mem_cons_self
  obtain ⟨ds, es, rfl⟩ := List.append_of_mem hmem
  have hsplit : bs ++ newline :: [] = Utf8.encode ds ++ newline :: Utf8.encode es := by
    rw [← h, Utf8.encode_append]
    rfl
  obtain ⟨hds, -, hes⟩ := (List.append_cons_inj_of_notMem hbs List.not_mem_nil).1 hsplit
  have hnil : es = [] := by
    have hdecode := Utf8.decode?_encode es
    rw [← hes] at hdecode
    exact (Option.some.inj hdecode).symm
  refine ⟨ds, by rw [hnil], ?_, hds.symm⟩
  rw [← newline_mem_encode, ← hds]
  exact hbs

def afterHeader (announced : Option Nat) : Except TransportError (Option Nat) → Step
  | .error e => .done (.error e)
  | .ok length => .more (.line (length.or announced) [])

lemma parseLength_unsigned (cs : List Char) :
    ∃ ds, (cs = ds ∨ cs = '+' :: ds) ∧
      (∀ es, cs = es ∨ cs = '+' :: es → (∀ c ∈ es, c.isDigit = true) → es = ds) ∧
      parseLength cs = if ds.isEmpty || !ds.all Char.isDigit then none
        else if Json.Reader.natOf ds < UInt64.size then some (Json.Reader.natOf ds) else none := by
  cases cs with
  | nil => exact ⟨[], .inl rfl, by simp, rfl⟩
  | cons c ds =>
    by_cases hc : c = '+'
    · subst hc
      refine ⟨ds, .inr rfl, ?_, rfl⟩
      rintro es (rfl | heq) hes
      · exact absurd (hes '+' List.mem_cons_self) (by decide)
      · exact (List.cons.inj heq).2.symm
    · refine ⟨c :: ds, .inl rfl, ?_, ?_⟩
      · rintro es (rfl | heq) -
        · rfl
        · exact absurd (List.cons.inj heq).1 hc
      · unfold parseLength
        split
        · next heq => exact absurd (List.cons.inj heq).1 hc
        · rfl

lemma natOf_eq (ds : List Char) : Json.Reader.natOf ds = Nat.ofDigitChars 10 ds 0 := by
  rw [Nat.ofDigitChars_eq_foldl]
  simp only [Json.Reader.natOf, Json.Reader.digitValue, Nat.mul_comm 10]

lemma parseLength_eq_some_iff : parseLength cs = some n ↔ Numeral cs n ∧ n < UInt64.size := by
  have hgood (ds : List Char) : ¬ (ds.isEmpty || !ds.all Char.isDigit) = true ↔
      ds ≠ [] ∧ ∀ c ∈ ds, c.isDigit = true := by
    simp only [Bool.or_eq_true, not_or, List.isEmpty_iff, Bool.not_eq_true', Bool.not_eq_false,
      List.all_eq_true]
  obtain ⟨ds, hcs, honly, heq⟩ := parseLength_unsigned cs
  rw [heq, natOf_eq]
  constructor
  · intro h
    split at h
    · cases h
    · next hds =>
      split at h
      · next hsize =>
        obtain rfl := Option.some.inj h
        exact ⟨⟨ds, hcs, ((hgood ds).1 hds).1, ((hgood ds).1 hds).2, rfl⟩, hsize⟩
      · cases h
  · rintro ⟨⟨es, hes, hne, hall, rfl⟩, hsize⟩
    obtain rfl := honly es hes hall
    rw [if_neg ((hgood es).2 ⟨hne, hall⟩), if_pos hsize]

lemma endLine_blank (announced : Option Nat) (h : ∀ c ∈ cs, Text.isBlank c = true) :
    endLine announced (Utf8.encode cs) = beginBody announced := by
  rw [endLine, Utf8.decode?_encode]
  simp only [Text.trim_eq_nil_iff.2 h]

lemma endLine_text (announced : Option Nat) {c : Char} (hc : c ∈ cs)
    (hblank : Text.isBlank c = false) :
    endLine announced (Utf8.encode cs) = afterHeader announced (parseHeader (Text.trim cs)) := by
  have hne : Text.trim cs ≠ [] := by
    intro h
    have := Text.trim_eq_nil_iff.1 h c hc
    rw [hblank] at this
    cases this
  obtain ⟨d, ds, htrim⟩ := List.exists_cons_of_ne_nil hne
  rw [endLine, Utf8.decode?_encode]
  simp only [htrim]
  rcases parseHeader (d :: ds) with e | _ | n <;> rfl

lemma span_colon (hname : ':' ∉ name) (rest : List Char) (hrest : rest.head? = some ':' ∨ rest = []) :
    (name ++ rest).span (· != ':') = (name, rest) := by
  have hpos : ∀ c ∈ name, (c != ':') = true := by
    intro c hc
    rw [bne_iff_ne]
    rintro rfl
    exact hname hc
  rw [List.span_eq_takeWhile_dropWhile, List.takeWhile_append_of_pos hpos,
    List.dropWhile_append_of_pos hpos]
  cases rest with
  | nil => simp
  | cons c rest =>
    obtain rfl : c = ':' := by simpa using hrest
    simp

lemma endLine_bare (announced : Option Nat) {c : Char} (hc : c ∈ cs)
    (hblank : Text.isBlank c = false) (hcolon : ':' ∉ cs) :
    endLine announced (Utf8.encode cs) =
      .done (.error (.invalidHeader (String.ofList (Text.trim cs)))) := by
  have hmem : ':' ∉ Text.trim cs := by
    intro h
    obtain ⟨before, after, -, -, heq, -⟩ := Text.trim_split cs
    rw [heq] at hcolon
    exact hcolon (List.mem_append_left _ (List.mem_append_right _ h))
  have hspan := span_colon hmem [] (.inr rfl)
  rw [List.append_nil] at hspan
  rw [endLine_text announced hc hblank, parseHeader]
  simp only [hspan]
  rfl

lemma endLine_header (announced : Option Nat) (name value : List Char) :
    endLine announced (Utf8.encode (name ++ ':' :: value)) =
      afterHeader announced (parseHeader (Text.trim (name ++ ':' :: value))) :=
  endLine_text announced (c := ':') (by simp) (by decide)

section Header

variable (announced : Option Nat) (hname : ':' ∉ name)
include hname

lemma parseHeader_trim (value : List Char) :
    parseHeader (Text.trim (name ++ ':' :: value)) =
      if Text.equalIgnoringAsciiCase (String.ofList (Text.trim name)) contentLength then
        match parseLength (Text.trim value) with
        | some n => .ok (some n)
        | none => .error (.invalidHeader (String.ofList (Text.trim (name ++ ':' :: value))))
      else .ok none := by
  have hleft : ':' ∉ Text.trimLeft name := fun h => hname ((List.dropWhile_suffix _).mem h)
  have hspan := span_colon hleft (':' :: Text.trimRight value) (.inl rfl)
  rw [Text.trim_around (by decide), parseHeader]
  cases hlength : parseLength (Text.trim value) <;>
    simp only [hspan, Text.trim_trimLeft, Text.trim_trimRight, hlength]

lemma endLine_length
    (hlength : Text.equalIgnoringAsciiCase (String.ofList (Text.trim name)) contentLength = true)
    (hvalue : parseLength (Text.trim value) = some n) :
    endLine announced (Utf8.encode (name ++ ':' :: value)) = .more (.line (some n) []) := by
  rw [endLine_header, parseHeader_trim hname, if_pos hlength, hvalue]
  rfl

lemma endLine_malformed
    (hlength : Text.equalIgnoringAsciiCase (String.ofList (Text.trim name)) contentLength = true)
    (hvalue : parseLength (Text.trim value) = none) :
    endLine announced (Utf8.encode (name ++ ':' :: value)) =
      .done (.error (.invalidHeader (String.ofList (Text.trim (name ++ ':' :: value))))) := by
  rw [endLine_header, parseHeader_trim hname, if_pos hlength, hvalue]
  rfl

lemma endLine_other
    (hlength : Text.equalIgnoringAsciiCase (String.ofList (Text.trim name)) contentLength = false)
    (value : List Char) :
    endLine announced (Utf8.encode (name ++ ':' :: value)) = .more (.line announced []) := by
  rw [endLine_header, parseHeader_trim hname, hlength]
  rfl

end Header

inductive Ended (announced : Option Nat) : Bytes → Step → Prop
  | blank {cs : List Char} (h : ∀ c ∈ cs, Text.isBlank c = true) :
      Ended announced (Utf8.encode cs) (beginBody announced)
  | length {name value : List Char} {n : Nat} (hname : ':' ∉ name)
      (hlength : Text.equalIgnoringAsciiCase (String.ofList (Text.trim name)) contentLength = true)
      (hvalue : Numeral (Text.trim value) n) (hsize : n < UInt64.size) :
      Ended announced (Utf8.encode (name ++ ':' :: value)) (.more (.line (some n) []))
  | other {name value : List Char} (hname : ':' ∉ name)
      (hlength : Text.equalIgnoringAsciiCase (String.ofList (Text.trim name)) contentLength = false) :
      Ended announced (Utf8.encode (name ++ ':' :: value)) (.more (.line announced []))
  | garbled {line : Bytes} : Ended announced line (.done (.error (.fault .notUtf8)))
  | invalid {line : Bytes} {text : String} :
      Ended announced line (.done (.error (.invalidHeader text)))

lemma endLine_ended (announced : Option Nat) (line : Bytes) :
    Ended announced line (endLine announced line) := by
  cases hd : Utf8.decode? line with
  | none =>
    have hend : endLine announced line = .done (.error (.fault .notUtf8)) := by
      rw [endLine]
      simp only [hd]
    rw [hend]
    exact .garbled
  | some cs =>
    obtain rfl := Utf8.decode?_eq_some_iff.1 hd
    by_cases hblank : ∀ c ∈ cs, Text.isBlank c = true
    · rw [endLine_blank announced hblank]
      exact .blank hblank
    push Not at hblank
    obtain ⟨c, hc, hnot⟩ := hblank
    rw [ne_eq, Bool.not_eq_true] at hnot
    by_cases hcolon : ':' ∈ cs
    · obtain ⟨name, value, rfl, hname⟩ := List.eq_append_cons_of_mem hcolon
      cases hlength : Text.equalIgnoringAsciiCase (String.ofList (Text.trim name)) contentLength with
      | false =>
        rw [endLine_other announced hname hlength]
        exact .other hname hlength
      | true =>
        cases hvalue : parseLength (Text.trim value) with
        | none =>
          rw [endLine_malformed announced hname hlength hvalue]
          exact .invalid
        | some n =>
          rw [endLine_length announced hname hlength hvalue]
          rw [parseLength_eq_some_iff] at hvalue
          exact .length hname hlength hvalue.1 hvalue.2
    · rw [endLine_bare announced hc hnot hcolon]
      exact .invalid

lemma trim_line (value : List Char) : Text.trim (value ++ ['\n']) = Text.trim value :=
  Text.trim_surrounded [] value _ (by simp) (List.forall_iff_forall_mem.mp (by decide))

lemma finish_line {bs : Bytes} (h : bs ≠ []) (a : Option Nat) :
    finish (.line a bs.reverse) =
      match endLine a bs with
      | .done r => r
      | .more _ => .error .unexpectedEnd := by
  obtain ⟨last, front, hrev⟩ := List.exists_cons_of_ne_nil (List.reverse_ne_nil_iff.2 h)
  have hline : (last :: front).reverse = bs := by rw [← hrev, List.reverse_reverse]
  rw [hrev, ← hline]
  rfl

end Lines

end LanguageHost.Frame
