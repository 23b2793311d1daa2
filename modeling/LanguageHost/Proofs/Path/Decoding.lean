import Mathlib.Data.List.Basic
import Mathlib.Data.List.TakeDrop
import Mathlib.Data.List.TakeWhile
import LanguageHost.Proofs.Path.Uri
import LanguageHost.Session.Versions

namespace LanguageHost

namespace FilePath

variable {p : FilePath} {segment rest piece : List Char} {ps : List (List Char)} {c : Component}

lemma pieces_append (hs : '/' ∉ segment) (h : pieces rest = piece :: ps) :
    pieces (segment ++ rest) = (segment ++ piece) :: ps := by
  induction segment with
  | nil => exact h
  | cons c segment ih =>
    rw [List.mem_cons, not_or] at hs
    rw [List.cons_append, pieces.eq_def]
    split
    · next heq => cases heq
    · next heq => exact absurd (List.cons.inj heq).1.symm hs.1
    · next heq =>
      obtain ⟨rfl, rfl⟩ := List.cons.inj heq
      rw [ih hs.2]
      rfl

def rooted (names : List (List Char)) : List Char := names.flatMap ('/' :: ·)

lemma pieces_rooted {names : List (List Char)} (h : ∀ name ∈ names, '/' ∉ name) :
    pieces (rooted names) = [] :: names := by
  induction names with
  | nil => rfl
  | cons name names ih =>
    rw [List.forall_mem_cons] at h
    show [] :: pieces (name ++ rooted names) = _
    rw [pieces_append h.1 (ih h.2), List.append_nil]

lemma text_of_component? (h : component? piece = some c) : c.text.toList = piece := by
  rw [component?] at h
  split at h
  · cases h
  split at h
  · next hp =>
    cases h
    exact hp.symm
  · cases h
    exact String.toList_ofList

def below (p : FilePath) : List Component := p.components.tail

def names (p : FilePath) : List (List Char) := p.below.map (·.text.toList)

lemma component?_of_mem (h : p.isAbsolute = true) (hc : c ∈ p.below) :
    component? c.text.toList = some c ∧ '/' ∉ c.text.toList := by
  have hmem : c ∈ (pieces p.text.toList).filterMap component? := by
    simpa [below, components, h] using hc
  obtain ⟨piece, hpiece, hcomponent⟩ := List.mem_filterMap.mp hmem
  rw [text_of_component? hcomponent]
  exact ⟨hcomponent, slash_notMem_pieces _ piece hpiece⟩

lemma slash_notMem_names (h : p.isAbsolute = true) : ∀ name ∈ p.names, '/' ∉ name := by
  intro name hname
  obtain ⟨c, hc, rfl⟩ := List.mem_map.mp hname
  exact (component?_of_mem h hc).2

lemma nil_notMem_names (h : p.isAbsolute = true) : [] ∉ p.names := by
  intro hmem
  obtain ⟨c, hc, hnil⟩ := List.mem_map.mp hmem
  have hcomponent := (component?_of_mem h hc).1
  rw [hnil] at hcomponent
  cases hcomponent

lemma names_components (h : p.isAbsolute = true) :
    p.names.filterMap component? = p.below := by
  rw [names, List.filterMap_map]
  exact (List.filterMap_congr fun c hc => (component?_of_mem h hc).1).trans List.filterMap_some

lemma components_root (h : p.isAbsolute = true) : p.components = .root :: p.below := by
  simp [below, components, h]

lemma components_rooted (h : p.isAbsolute = true) (hne : p.names ≠ []) :
    (FilePath.mk (String.ofList (rooted p.names))).components = p.components := by
  have habsolute : (FilePath.mk (String.ofList (rooted p.names))).isAbsolute = true := by
    obtain ⟨name, names, hnames⟩ := List.exists_cons_of_ne_nil hne
    simp [isAbsolute, hnames, rooted]
  rw [components_root h, ← names_components h]
  simp only [components, habsolute, if_true, String.toList_ofList,
    pieces_rooted (slash_notMem_names h)]
  rfl

end FilePath

namespace Uri

variable {p q : FilePath} {u v : Uri} {cs : List FilePath.Component}

def decodePath? (cs : List Char) : Option FilePath :=
  (Utf8.decode? (unescape cs)).map fun text => ⟨String.ofList text⟩

structure Spells (path : List Char) (p : FilePath) : Prop where
  rooted : path.head? = some '/'
  question : '?' ∉ path
  hash : '#' ∉ path
  whole : ∃ q, decodePath? path = some q ∧ q.components = p.components
  names : ((FilePath.pieces path).filter (· ≠ [])).map (fun name => Utf8.decode? (unescape name)) =
    p.names.map some

lemma unescape_slash (rest : List Char) :
    unescape ('/' :: rest) = Utf8.encodeChar '/' ++ unescape rest := by
  rw [unescape]
  simp

lemma unescape_append (cs rest : List Char) :
    unescape (cs.flatMap escapeChar ++ rest) = Utf8.encode cs ++ unescape rest := by
  induction cs with
  | nil => rfl
  | cons c cs ih =>
    rw [List.flatMap_cons, List.append_assoc, unescape_escapeChar, ih, Utf8.encode_cons,
      List.append_assoc]

lemma unescape_segments (cs : List FilePath.Component) :
    unescape (segments cs) = Utf8.encode (FilePath.rooted (cs.map (·.text.toList))) := by
  induction cs with
  | nil => rfl
  | cons c cs ih =>
    rw [segments_cons, unescape_slash, escapeComponent, unescape_append, ih, ← Utf8.encode_append,
      ← Utf8.encode_cons]
    rfl

lemma segments_eq (cs : List FilePath.Component) :
    segments cs = FilePath.rooted (cs.map escapeComponent) := by
  rw [segments, FilePath.rooted, List.flatMap_map]

lemma notMem_segments {d : Char} (hd : mustEscape d = true) (hpercent : d ≠ '%') (hslash : d ≠ '/')
    (hdigit : ∀ m < 16, (Nat.digitChar m).toUpper ≠ d) : d ∉ segments cs := by
  intro hmem
  obtain ⟨c, -, hc⟩ := List.mem_flatMap.mp hmem
  rcases List.mem_cons.mp hc with rfl | hc
  · exact hslash rfl
  · exact notMem_escape hd hpercent hdigit _ hc

lemma filePathChars_eq (p : FilePath) :
    filePathChars p = if p.below = [] then ['/'] else segments p.below := by
  rw [filePathChars, List.drop_one, ← FilePath.below]
  split
  · next h => rw [if_pos h]
  · next h => rw [if_neg h, segments]

lemma decodePath?_segments (h : p.isAbsolute = true) (hne : p.below ≠ []) :
    ∃ q, decodePath? (segments p.below) = some q ∧ q.components = p.components := by
  refine ⟨⟨String.ofList (FilePath.rooted p.names)⟩, ?_, ?_⟩
  · rw [decodePath?, unescape_segments, Utf8.decode?_encode]
    rfl
  · exact FilePath.components_rooted h (by simpa [FilePath.names] using hne)

lemma spells_filePathChars (h : p.isAbsolute = true) : Spells (filePathChars p) p := by
  rw [filePathChars_eq]
  split
  · next hroot =>
    refine ⟨rfl, by decide, by decide, ⟨⟨"/"⟩, by decide, ?_⟩, ?_⟩
    · rw [FilePath.components_root h, hroot]
      decide
    · rw [FilePath.names, hroot]
      decide
  · next hne =>
    refine ⟨?_, notMem_segments (by decide) (by decide) (by decide) (by decide),
      notMem_segments (by decide) (by decide) (by decide) (by decide),
      decodePath?_segments h hne, ?_⟩
    · obtain ⟨c, cs, hcs⟩ := List.exists_cons_of_ne_nil hne
      rw [hcs, segments_cons]
      rfl
    · have hslash : ∀ name ∈ p.below.map escapeComponent, '/' ∉ name := by
        simpa using fun c _ => slash_notMem_component c
      have hdecode (c : FilePath.Component) :
          Utf8.decode? (unescape (escapeComponent c)) = some c.text.toList := by
        rw [escapeComponent, unescape_escape, Utf8.decode?_encode]
      have hnonempty : ∀ name ∈ p.below.map escapeComponent, name ≠ [] := by
        rintro name hname rfl
        obtain ⟨c, hc, hnil⟩ := List.mem_map.mp hname
        have hback := hdecode c
        rw [hnil] at hback
        refine FilePath.nil_notMem_names h (List.mem_map.mpr ⟨c, hc, ?_⟩)
        exact (Option.some.inj hback).symm
      rw [segments_eq, FilePath.pieces_rooted hslash, List.filter_cons_of_neg (by simp),
        List.filter_eq_self.mpr (by simpa using hnonempty), FilePath.names, List.map_map,
        List.map_map]
      exact List.map_congr_left fun c _ => hdecode c

lemma span_all {p : Char → Bool} {cs : List Char} (h : ∀ c ∈ cs, p c = true) :
    cs.span p = (cs, []) := by
  rw [List.span_eq_takeWhile_dropWhile, List.takeWhile_eq_self_iff.mpr h,
    List.dropWhile_eq_nil_iff.mpr h]

lemma span_at {p : Char → Bool} {cs rest : List Char} {c : Char} (h : ∀ c ∈ cs, p c = true)
    (hc : p c = false) : (cs ++ c :: rest).span p = (cs, c :: rest) := by
  rw [List.span_eq_takeWhile_dropWhile, List.takeWhile_append_of_pos h,
    List.dropWhile_append_of_pos h, List.takeWhile_cons_of_neg (by simp [hc]),
    List.dropWhile_cons_of_neg (by simp [hc]), List.append_nil]

lemma escaped_plain {allowed : Char → Bool} {cs : List Char}
    (h : ∀ c ∈ cs, allowed c = true ∧ c ≠ '%') : escaped allowed cs = true := by
  induction cs with
  | nil => rfl
  | cons c cs ih =>
    rw [List.forall_mem_cons] at h
    rw [escaped]
    · simp [h.1.1, h.1.2, ih h.2]
    · rintro a b rest rfl
      exact absurd rfl h.1.2

lemma ne_of_test {p : Char → Bool} {c d : Char} (hc : p c = true) (hd : p d = false) : c ≠ d := by
  rintro rfl
  rw [hc] at hd
  cases hd

lemma validReference_opaque {scheme rest : List Char} (hne : scheme ≠ [])
    (hscheme : ∀ c ∈ scheme, c.isAlpha = true) (hrest : ∀ c ∈ rest, isUnreserved c = true) :
    validReference (scheme ++ ':' :: rest) = true := by
  have hall (d : Char) (halpha : d.isAlpha = false) (hcolon : d ≠ ':')
      (hplain : isUnreserved d = false) : ∀ c ∈ scheme ++ ':' :: rest, (c != d) = true := by
    simp only [List.mem_append, List.mem_cons, bne_iff_ne]
    rintro c (hc | rfl | hc)
    · exact ne_of_test (hscheme c hc) halpha
    · exact Ne.symm hcolon
    · exact ne_of_test (hrest c hc) hplain
  have hfront : ∀ c ∈ scheme, (c != ':' && c != '/') = true := fun c hc => by
    rw [Bool.and_eq_true, bne_iff_ne, bne_iff_ne]
    exact ⟨ne_of_test (hscheme c hc) (by decide), ne_of_test (hscheme c hc) (by decide)⟩
  have hhead : scheme.head?.any Char.isAlpha = true := by
    obtain ⟨c, cs, rfl⟩ := List.exists_cons_of_ne_nil hne
    exact hscheme c List.mem_cons_self
  have hchars : scheme.all isSchemeChar = true := by
    simp only [List.all_eq_true]
    intro c hc
    simp [isSchemeChar, Char.isAlphanum, hscheme c hc]
  have hpath : validPath rest = true := escaped_plain fun c hc => by
    refine ⟨?_, ne_of_test (hrest c hc) (by decide)⟩
    simp [isPathChar, hrest c hc]
  have hhierarchy : validHierarchy rest = true := by
    rw [validHierarchy.eq_def]
    split
    · next more => exact absurd rfl (ne_of_test (hrest '/' (by simp)) (d := '/') (by decide))
    · exact hpath
  simp only [validReference, span_all (hall '#' (by decide) (by decide) (by decide)),
    span_all (hall '?' (by decide) (by decide) (by decide)), span_at hfront (c := ':') (by decide)]
  simp [hhead, hchars, hhierarchy, validQuery, escaped]

lemma toList_untitled (n : Nat) :
    (untitled n).toList = "untitled".toList ++ ':' :: ("Untitled-".toList ++ Nat.toDigits 10 n) := by
  have hdigits : (toString n).toList = Nat.toDigits 10 n := by
    rw [Nat.toString_eq_ofList_toDigits, String.toList_ofList]
  unfold untitled
  rw [String.toList_append, hdigits]
  rfl

lemma parse?_untitled (n : Nat) : parse? (untitled n) = some ⟨untitled n⟩ := by
  have hvalid : validReference (untitled n).toList = true := by
    rw [toList_untitled]
    refine validReference_opaque (by decide) (List.all_eq_true.mp (by decide)) ?_
    rw [List.forall_mem_append]
    refine ⟨List.all_eq_true.mp (by decide), fun c hc => ?_⟩
    have hdigit : c.isDigit = true := Nat.isDigit_of_mem_toDigits (by decide) (by decide) hc
    simp [isUnreserved, Char.isAlphanum, hdigit]
  rw [parse?, if_pos hvalid]

lemma untitled_inj {m n : Nat} (h : untitled m = untitled n) : m = n := by
  have hdigits : Nat.toDigits 10 m = Nat.toDigits 10 n := by
    have htext := congrArg String.toList h
    simpa only [toList_untitled, List.append_right_inj, List.cons_inj_right] using htext
  rw [← Nat.ofDigitChars_ten_toDigits (n := m), hdigits, Nat.ofDigitChars_ten_toDigits]

lemma fileText_congr (h : p.components = q.components) : fileText p = fileText q := by
  rw [fileText, fileText, filePathChars, filePathChars, h]

lemma eq_iff_components (hp : ofPath p = .ok u) (hq : ofPath q = .ok v) :
    u = v ↔ p.components = q.components := by
  constructor
  · rintro rfl
    exact components_of_ofPath hp hq
  · intro h
    have htext : u.text = v.text := by
      rw [(fileText_of_ofPath hp).2, (fileText_of_ofPath hq).2, fileText_congr h]
    exact congrArg Uri.mk htext

end Uri

lemma Versions.shared_iff {p q : FilePath} :
    p.components = q.components ↔
      ∀ vs : Versions, (vs.next (some p)).1.last q = (vs.next (some p)).2 := by
  constructor
  · intro h vs
    exact last_set_self h _
  · intro h
    by_contra hne
    -- The first version of the one path is no version of the other.
    have hfirst := h {}
    rw [next, last_set_other hne] at hfirst
    have hone : 0 = 1 := hfirst
    cases hone

lemma Document.uri_unsaved {d : Document} (h : d.path = none) :
    d.uri = .ok ⟨Uri.untitled d.id.number⟩ := by
  rw [uri, h]
  simp only [Uri.parse?_untitled]

variable {p q : FilePath} {u v : Uri}

/-- Two files have one URI exactly if their paths have the same components, by which their versions are
counted too. The path of a URI is read back as that of the file, and no document that was never saved has
the URI of a file or of another such document. -/
theorem Uri.files_told_apart (hp : ofPath p = .ok u) (hq : ofPath q = .ok v) :
    (u = v ↔ p.components = q.components) ∧
    (p.components = q.components ↔
      ∀ vs : Versions, (vs.next (some p)).1.last q = (vs.next (some p)).2) ∧
    (∃ path, u.text = "file://" ++ String.ofList path ∧ Spells path p) ∧
    (∀ d : Document, d.path = none → ∃ w, d.uri = .ok w ∧ w ≠ u) ∧
    ∀ d e : Document, d.path = none → e.path = none → d.id ≠ e.id → d.uri ≠ e.uri := by
  obtain ⟨habsolute, htext⟩ := fileText_of_ofPath hp
  refine ⟨eq_iff_components hp hq, Versions.shared_iff, ?_, ?_, ?_⟩
  · exact ⟨filePathChars p, htext, spells_filePathChars habsolute⟩
  · intro d hd
    refine ⟨_, Document.uri_unsaved hd, ?_⟩
    rintro rfl
    exact untitled_ne_file _ _ htext
  · intro d e hd he hne h
    rw [Document.uri_unsaved hd, Document.uri_unsaved he] at h
    exact hne (congrArg DocumentId.mk (untitled_inj (congrArg Uri.text (Except.ok.inj h))))

theorem Uri.percent_file_told_apart :
    ofPath ⟨"/w//a b%20/./../c"⟩ = .ok ⟨"file:///w/a%20b%2520/../c"⟩ ∧
    ofPath ⟨"/w/a b%20/../c/"⟩ = .ok ⟨"file:///w/a%20b%2520/../c"⟩ ∧
    (FilePath.mk "/w//a b%20/./../c").components = (FilePath.mk "/w/a b%20/../c/").components ∧
    Document.uri ⟨⟨4⟩, none, none, "", true⟩ ≠ .ok ⟨"file:///w/a%20b%2520/../c"⟩ := by
  have hp : ofPath ⟨"/w//a b%20/./../c"⟩ = .ok ⟨"file:///w/a%20b%2520/../c"⟩ := by decide +kernel
  have hq : ofPath ⟨"/w/a b%20/../c/"⟩ = .ok ⟨"file:///w/a%20b%2520/../c"⟩ := by decide +kernel
  obtain ⟨hsame, -, -, hunsaved, -⟩ := files_told_apart hp hq
  refine ⟨hp, hq, hsame.mp rfl, ?_⟩
  obtain ⟨w, hw, hne⟩ := hunsaved ⟨⟨4⟩, none, none, "", true⟩ rfl
  rw [hw]
  exact fun h => hne (Except.ok.inj h)

end LanguageHost
