import LanguageHost.Editor.Document
import LanguageHost.Proofs.Text.Encoding

namespace LanguageHost

namespace FilePath

lemma slash_notMem_pieces (cs : List Char) : ∀ piece ∈ pieces cs, '/' ∉ piece := by
  induction cs with
  | nil => simp [pieces]
  | cons c cs ih =>
    by_cases hc : c = '/'
    · subst hc
      simpa [pieces] using ih
    · cases hp : pieces cs with
      | nil =>
        have hstep : pieces (c :: cs) = [[c]] := by simp [pieces, hp]
        rw [hstep]
        simpa using Ne.symm hc
      | cons p ps =>
        have hstep : pieces (c :: cs) = (c :: p) :: ps := by simp [pieces, hp]
        rw [hp, List.forall_mem_cons] at ih
        rw [hstep, List.forall_mem_cons]
        exact ⟨by simpa [ih.1] using Ne.symm hc, ih.2⟩

inductive Component.Below : Component → Prop
  | parent : Below .parent
  | normal (piece : List Char) (hne : piece ≠ []) (hd : piece ≠ ['.', '.']) (hs : '/' ∉ piece) :
      Below (.normal (String.ofList piece))

lemma Component.Below.text_inj {c d : Component} (hc : c.Below) (hd : d.Below)
    (h : c.text = d.text) : c = d := by
  have hparent : Component.parent.text = String.ofList ['.', '.'] := by decide
  cases hc with
  | parent =>
    cases hd with
    | parent => rfl
    | normal piece _ hp =>
      rw [hparent] at h
      exact absurd (String.ofList_injective h).symm hp
  | normal piece _ hp =>
    cases hd with
    | parent =>
      rw [hparent] at h
      exact absurd (String.ofList_injective h) hp
    | normal piece' => exact congrArg Component.normal h

lemma components_absolute {p : FilePath} (h : p.isAbsolute = true) :
    ∃ cs, p.components = .root :: cs ∧ ∀ c ∈ cs, c.Below := by
  refine ⟨(pieces p.text.toList).filterMap component?, by simp [components, h], fun c hc => ?_⟩
  obtain ⟨piece, hpiece, hcomponent⟩ := List.mem_filterMap.mp hc
  unfold component? at hcomponent
  split at hcomponent
  · cases hcomponent
  · next hdrop =>
    rw [not_or] at hdrop
    split at hcomponent
    · cases hcomponent
      exact .parent
    · next hparent =>
      cases hcomponent
      exact .normal piece hdrop.1 hparent (slash_notMem_pieces _ piece hpiece)

end FilePath

namespace Uri

def hexValue (c : Char) : Nat := if c.isDigit then c.toNat - 48 else c.toNat - 55

def unescape : List Char → Bytes
  | '%' :: a :: b :: cs => UInt8.ofNat (16 * hexValue a + hexValue b) :: unescape cs
  | c :: cs => Utf8.encodeChar c ++ unescape cs
  | [] => []

lemma hexValue_upperHex (n : Nat) : hexValue (upperHex n) = n % 16 := by
  have hall : ∀ m < 16, hexValue (Nat.digitChar m).toUpper = m := by decide
  exact hall (n % 16) (Nat.mod_lt _ (by decide))

lemma unescape_escapeByte (b : UInt8) (rest : List Char) :
    unescape (escapeByte b ++ rest) = b :: unescape rest := by
  have hvalue : 16 * (b.toNat / 16 % 16) + b.toNat % 16 = b.toNat := by
    have := b.toNat_lt
    omega
  simp only [escapeByte, List.cons_append, List.nil_append, unescape, hexValue_upperHex, hvalue,
    UInt8.ofNat_toNat]

lemma unescape_escapeChar (c : Char) (rest : List Char) :
    unescape (escapeChar c ++ rest) = Utf8.encodeChar c ++ unescape rest := by
  by_cases hc : mustEscape c = true
  · rw [escapeChar, if_pos hc]
    induction Utf8.encodeChar c with
    | nil => rfl
    | cons b bs ih =>
      rw [List.flatMap_cons, List.append_assoc, unescape_escapeByte, ih, List.cons_append]
  · rw [escapeChar, if_neg hc, List.singleton_append, unescape]
    rintro a b cs rfl
    exact absurd (by decide) hc

lemma unescape_escape (cs : List Char) : unescape (cs.flatMap escapeChar) = Utf8.encode cs := by
  induction cs with
  | nil => rfl
  | cons c cs ih => rw [List.flatMap_cons, unescape_escapeChar, ih, Utf8.encode_cons]

lemma escape_inj {cs ds : List Char} (h : cs.flatMap escapeChar = ds.flatMap escapeChar) :
    cs = ds := by
  have hbytes := congrArg unescape h
  rw [unescape_escape, unescape_escape] at hbytes
  have hchars := congrArg Utf8.decode? hbytes
  rw [Utf8.decode?_encode, Utf8.decode?_encode] at hchars
  exact Option.some.inj hchars

lemma notMem_escape {d : Char} (hd : mustEscape d = true) (hpercent : d ≠ '%')
    (hdigit : ∀ m < 16, (Nat.digitChar m).toUpper ≠ d) (cs : List Char) :
    d ∉ cs.flatMap escapeChar := by
  intro hmem
  obtain ⟨c, -, hc⟩ := List.mem_flatMap.mp hmem
  rw [escapeChar] at hc
  split at hc
  · obtain ⟨b, -, hb⟩ := List.mem_flatMap.mp hc
    have hne (n : Nat) : d ≠ upperHex n :=
      Ne.symm (hdigit (n % 16) (Nat.mod_lt _ (by decide)))
    simp [escapeByte, hpercent, hne] at hb
  · next hplain =>
    obtain rfl := List.mem_singleton.mp hc
    exact absurd hd hplain

lemma slash_notMem_escape (cs : List Char) : '/' ∉ cs.flatMap escapeChar :=
  notMem_escape (by decide) (by decide) (by decide) cs

lemma slash_notMem_component (c : FilePath.Component) : '/' ∉ escapeComponent c :=
  slash_notMem_escape c.text.toList

lemma takeWhile_segment {segment rest : List Char} (hs : '/' ∉ segment)
    (hr : rest = [] ∨ ∃ more, rest = '/' :: more) :
    (segment ++ rest).takeWhile (· != '/') = segment := by
  rw [List.takeWhile_append_of_pos fun c hc => by
    simpa using fun h : c = '/' => hs (h ▸ hc)]
  rcases hr with rfl | ⟨more, rfl⟩ <;> simp

def segments (cs : List FilePath.Component) : List Char :=
  cs.flatMap fun c => '/' :: escapeComponent c

lemma segments_cons (c : FilePath.Component) (cs : List FilePath.Component) :
    segments (c :: cs) = '/' :: (escapeComponent c ++ segments cs) := rfl

lemma escapeComponent_inj {c d : FilePath.Component} (hc : c.Below) (hd : d.Below)
    (h : escapeComponent c = escapeComponent d) : c = d :=
  hc.text_inj hd (String.toList_injective (escape_inj h))

lemma segments_inj {cs ds : List FilePath.Component} (hcs : ∀ c ∈ cs, c.Below)
    (hds : ∀ d ∈ ds, d.Below) (h : segments cs = segments ds) : cs = ds := by
  have hstart (cs : List FilePath.Component) :
      segments cs = [] ∨ ∃ more, segments cs = '/' :: more := by
    cases cs with
    | nil => exact .inl rfl
    | cons c cs => exact .inr ⟨_, segments_cons c cs⟩
  induction cs generalizing ds with
  | nil =>
    cases ds with
    | nil => rfl
    | cons d ds => cases h
  | cons c cs ih =>
    cases ds with
    | nil => cases h
    | cons d ds =>
      rw [List.forall_mem_cons] at hcs hds
      rw [segments_cons, segments_cons] at h
      have htail := (List.cons.inj h).2
      have hfirst := congrArg (List.takeWhile (· != '/')) htail
      rw [takeWhile_segment (slash_notMem_component c) (hstart cs),
        takeWhile_segment (slash_notMem_component d) (hstart ds)] at hfirst
      obtain rfl := escapeComponent_inj hcs.1 hds.1 hfirst
      rw [ih hcs.2 hds.2 (List.append_cancel_left htail)]

lemma fileText_of_ofPath {p : FilePath} {u : Uri} (h : ofPath p = .ok u) :
    p.isAbsolute = true ∧ u.text = fileText p := by
  unfold ofPath at h
  split at h
  · cases h
  · next habsolute =>
    refine ⟨by simpa using habsolute, ?_⟩
    unfold parse? at h
    split at h
    · next hparse =>
      split at hparse <;> cases hparse
      cases h
      rfl
    · cases h

theorem components_of_ofPath {p q : FilePath} {u : Uri} (hp : ofPath p = .ok u)
    (hq : ofPath q = .ok u) : p.components = q.components := by
  obtain ⟨hpa, hpt⟩ := fileText_of_ofPath hp
  obtain ⟨hqa, hqt⟩ := fileText_of_ofPath hq
  obtain ⟨cs, hcs, hcb⟩ := FilePath.components_absolute hpa
  obtain ⟨ds, hds, hdb⟩ := FilePath.components_absolute hqa
  have htext : filePathChars p = filePathChars q :=
    String.ofList_injective ((String.append_right_inj _).mp (hpt.symm.trans hqt))
  -- The root alone is written with a slash, and so is no other path.
  have hroot {c : FilePath.Component} {cs : List FilePath.Component} (hc : c.Below) :
      ['/'] ≠ segments (c :: cs) := by
    intro h
    have hnil := List.append_eq_nil_iff.mp (List.cons.inj h).2.symm
    have htext : c.text.toList = [] := escape_inj hnil.1
    cases hc with
    | parent => cases htext
    | normal piece hne => exact hne (by simpa [FilePath.Component.text] using htext)
  rw [filePathChars, filePathChars, hcs, hds, List.drop_one, List.drop_one, List.tail_cons,
    List.tail_cons] at htext
  rw [hcs, hds]
  cases cs with
  | nil =>
    cases ds with
    | nil => rfl
    | cons d ds => exact absurd htext (hroot (hdb d List.mem_cons_self))
  | cons c cs =>
    cases ds with
    | nil => exact absurd htext.symm (hroot (hcb c List.mem_cons_self))
    | cons d ds => rw [segments_inj hcb hdb htext]

lemma untitled_ne_file (n : Nat) (p : FilePath) : untitled n ≠ fileText p := by
  have hu : (untitled n).toList.head? = some 'u' := by
    have hprefix : "untitled:Untitled-".toList.head? = some 'u' := by decide
    unfold untitled
    rw [String.toList_append, List.head?_append, hprefix, Option.some_or]
  have hf : (fileText p).toList.head? = some 'f' := by
    have hprefix : "file://".toList.head? = some 'f' := by decide
    unfold fileText
    rw [String.toList_append, List.head?_append, hprefix, Option.some_or]
  intro h
  rw [h, hf] at hu
  exact absurd hu (by decide)

end Uri

lemma Document.path_of_uri {d : Document} {p : FilePath} {u : Uri} (hd : d.uri = .ok u)
    (hp : Uri.ofPath p = .ok u) : ∃ q, d.path = some q ∧ q.components = p.components := by
  cases hq : d.path with
  | some q =>
    rw [uri, hq] at hd
    exact ⟨q, rfl, Uri.components_of_ofPath hd hp⟩
  | none =>
    rw [uri, hq] at hd
    have htext := (Uri.fileText_of_ofPath hp).2
    simp only [Uri.parse?] at hd
    split at hd
    · next hparse =>
      split at hparse <;> cases hparse
      cases hd
      exact absurd htext (Uri.untitled_ne_file _ _)
    · cases hd

end LanguageHost
