import Mathlib.Data.List.Forall2
import LanguageHost.Feature.Location
import LanguageHost.Proofs.Json.Ordered

namespace LanguageHost

variable {j : Json}

lemma Json.exists_obj_of_get? {key : String} {value : Json} (h : j.get? key = some value) :
    ∃ ms, j = .obj ms := by
  cases j with
  | obj ms => exact ⟨ms, rfl⟩
  | _ => cases h

namespace Position

variable {p : Position}

def Fits (p : Position) : Prop := p.line ≤ 0xffffffff ∧ p.character ≤ 0xffffffff

structure ShownBy (p : Position) (j : Json) : Prop where
  line : j.get? "line" = some (.int p.line)
  character : j.get? "character" = some (.int p.character)
  fits : p.Fits

lemma number?_int {n : Nat} (h : n ≤ 0xffffffff) : number? (.int n) = some n := by
  have hrange : (0 : Int) ≤ n ∧ (n : Int) ≤ 0xffffffff := by omega
  rw [number?, Json.intIn?, if_pos hrange]
  rfl

lemma ShownBy.read (h : p.ShownBy j) : ofJson? j = some p := by
  obtain ⟨ms, rfl⟩ := Json.exists_obj_of_get? h.line
  have hline : Members.find? "line" ms = _ := h.line
  have hcharacter : Members.find? "character" ms = _ := h.character
  simp [ofJson?, hline, hcharacter, number?_int h.fits.1, number?_int h.fits.2]

lemma Fits.shown (h : p.Fits) : p.ShownBy p.toJson where
  line := by simp [toJson, Json.get?_object]
  character := by simp [toJson, Json.get?_object]
  fits := h

end Position

namespace Range

variable {r : Range}

def Fits (r : Range) : Prop := r.start.Fits ∧ r.stop.Fits

structure ShownBy (r : Range) (j : Json) : Prop where
  start : ∃ v, j.get? "start" = some v ∧ r.start.ShownBy v
  stop : ∃ v, j.get? "end" = some v ∧ r.stop.ShownBy v

lemma ShownBy.read (h : r.ShownBy j) : ofJson? j = some r := by
  obtain ⟨⟨start, hstart, hs⟩, ⟨stop, hstop, he⟩⟩ := h
  obtain ⟨ms, rfl⟩ := Json.exists_obj_of_get? hstart
  rw [Json.get?] at hstart hstop
  simp [ofJson?, hstart, hstop, hs.read, he.read]

lemma Fits.shown (h : r.Fits) : r.ShownBy r.toJson where
  start := ⟨_, by simp [toJson, Json.get?_object], h.1.shown⟩
  stop := ⟨_, by simp [toJson, Json.get?_object], h.2.shown⟩

end Range

namespace Uri

variable {u : Uri}

def Fits (u : Uri) : Prop := validReference u.text.toList = true

instance : Decidable u.Fits := inferInstanceAs (Decidable (_ = true))

lemma Fits.read (h : u.Fits) : ofJson? (.str u.text) = some u := by
  rw [Fits] at h
  rw [ofJson?, parse?, if_pos h]

end Uri

namespace Location

variable {l : Location}

def Fits (l : Location) : Prop := l.uri.Fits ∧ l.range.Fits

structure ShownBy (l : Location) (j : Json) : Prop where
  uri : j.get? "uri" = some (.str l.uri.text)
  valid : l.uri.Fits
  range : ∃ v, j.get? "range" = some v ∧ l.range.ShownBy v

lemma ShownBy.read (h : l.ShownBy j) : ofJson? j = some l := by
  obtain ⟨huri, hvalid, ⟨range, hrange, hr⟩⟩ := h
  obtain ⟨ms, rfl⟩ := Json.exists_obj_of_get? huri
  rw [Json.get?] at huri hrange
  simp [ofJson?, huri, hrange, hvalid.read, hr.read]

lemma Fits.shown (h : l.Fits) : l.ShownBy l.toJson where
  uri := by simp [toJson, Json.get?_object]
  valid := h.1
  range := ⟨_, by simp [toJson, Json.get?_object], h.2.shown⟩

end Location

namespace LocationLink

variable {k : LocationLink}

def Fits (k : LocationLink) : Prop :=
  (∀ r ∈ k.originSelectionRange, r.Fits) ∧ k.targetUri.Fits ∧ k.targetRange.Fits ∧
    k.targetSelectionRange.Fits

structure ShownBy (k : LocationLink) (j : Json) : Prop where
  origin : match k.originSelectionRange with
    | none => j.get? "originSelectionRange" = none ∨ j.get? "originSelectionRange" = some .null
    | some r => ∃ v, j.get? "originSelectionRange" = some v ∧ r.ShownBy v
  uri : j.get? "targetUri" = some (.str k.targetUri.text)
  valid : k.targetUri.Fits
  range : ∃ v, j.get? "targetRange" = some v ∧ k.targetRange.ShownBy v
  selection : ∃ v, j.get? "targetSelectionRange" = some v ∧ k.targetSelectionRange.ShownBy v

lemma origin?_range {r : Range} (h : r.ShownBy j) : origin? (some j) = some (some r) := by
  cases j with
  | null => obtain ⟨⟨_, hv, _⟩, _⟩ := h; cases hv
  | _ => rw [origin?, h.read]; rfl; simp

lemma ShownBy.read_origin (h : k.ShownBy j) :
    origin? (j.get? "originSelectionRange") = some k.originSelectionRange := by
  have horigin := h.origin
  split at horigin
  · next hnone => rcases horigin with ho | ho <;> rw [ho, hnone] <;> rfl
  · next r hsome =>
    obtain ⟨v, ho, hv⟩ := horigin
    rw [ho, hsome, origin?_range hv]

lemma ShownBy.read (h : k.ShownBy j) : ofJson? j = some k := by
  have horigin := h.read_origin
  obtain ⟨-, huri, hvalid, ⟨range, hrange, hr⟩, ⟨selection, hselection, hs⟩⟩ := h
  obtain ⟨ms, rfl⟩ := Json.exists_obj_of_get? huri
  rw [Json.get?] at horigin huri hrange hselection
  simp [ofJson?, horigin, huri, hrange, hselection, hvalid.read, hr.read, hs.read]

lemma Fits.shown (h : k.Fits) : k.ShownBy k.toJson where
  origin := by
    split
    · next hnone => simp [toJson, Json.get?_object, hnone]
    · next r hsome =>
      exact ⟨r.toJson, by simp [toJson, Json.get?_object, hsome], (h.1 r hsome).shown⟩
  uri := by cases ho : k.originSelectionRange <;> simp [toJson, Json.get?_object, ho]
  valid := h.2.1
  range := ⟨_, by cases ho : k.originSelectionRange <;> simp [toJson, Json.get?_object, ho],
    h.2.2.1.shown⟩
  selection := ⟨_, by cases ho : k.originSelectionRange <;> simp [toJson, Json.get?_object, ho],
    h.2.2.2.shown⟩

lemma ofJson?_of_missing {ms : List (String × Json)} (hj : j = .obj ms)
    (h : Members.find? "targetUri" ms = none) : ofJson? j = none := by
  subst hj
  simp [ofJson?, h]

end LocationLink

inductive Place where
  | plain (l : Location)
  | link (k : LocationLink)

namespace Place

variable {p : Place}

def location : Place → Location
  | plain l => l
  | link k => ⟨k.targetUri, k.targetSelectionRange⟩

def toJson : Place → Json
  | plain l => l.toJson
  | link k => k.toJson

def Fits : Place → Prop
  | plain l => l.Fits
  | link k => k.Fits

def ShownBy : Place → Json → Prop
  | plain l, j => l.ShownBy j ∧ LocationLink.ofJson? j = none
  | link k, j => k.ShownBy j

lemma ShownBy.read (h : p.ShownBy j) : Location.ofItem? j = some p.location := by
  cases p with
  | plain l =>
    rw [Location.ofItem?, h.2, h.1.read]
    rfl
  | link k =>
    rw [Location.ofItem?, LocationLink.ShownBy.read h]
    rfl

lemma Fits.shown (h : p.Fits) : p.ShownBy p.toJson := by
  cases p with
  | plain l =>
    refine ⟨Location.Fits.shown h, LocationLink.ofJson?_of_missing rfl ?_⟩
    show l.toJson.get? "targetUri" = none
    simp [Location.toJson, Json.get?_object]
  | link k => exact LocationLink.Fits.shown h

end Place

namespace Locations

variable {places : List Place} {items : List Json} {n : Nat}

/-- How many places an answer has can be told from its form. -/
structure Formed (ls : Locations) (n : Nat) : Prop where
  empty : ls = .empty ↔ n = 0
  single : (∃ l, ls = .single l) ↔ n = 1
  multiple : (∃ a b rest, ls = .multiple a b rest) ↔ 2 ≤ n

lemma formed (ls : Locations) : ls.Formed ls.toList.length := by
  cases ls with
  | empty => constructor <;> simp [toList]
  | single l => constructor <;> simp [toList]
  | multiple a b rest => constructor <;> simp [toList]

lemma mapM_ofItem? (h : List.Forall₂ Place.ShownBy places items) :
    items.mapM Location.ofItem? = some (places.map Place.location) := by
  induction h with
  | nil => rfl
  | cons hplace _ ih => simp [hplace.read, ih]

lemma ofJson?_arr (h : List.Forall₂ Place.ShownBy places items) :
    ofJson? (.arr items) = some (ofList (places.map Place.location)) := by
  rw [ofJson?, mapM_ofItem? h]

lemma ofJson?_single (ms : List (String × Json)) :
    ofJson? (.arr [.obj ms]) = ofJson? (.obj ms) := by
  have hrecord : Location.ofItem? (.arr [.obj ms]) = none := rfl
  have hitems : [Json.obj ms].mapM Location.ofItem? =
      (Location.ofItem? (.obj ms)).map fun l => [l] := by
    cases h : Location.ofItem? (.obj ms) <;> simp [h]
  simp only [ofJson?, hitems, hrecord]
  cases Location.ofItem? (.obj ms) <;> rfl

end Locations

namespace GotoOutcome

/-- What the editor does is decided by the number of the places and by what was asked for. -/
structure Formed (o : GotoOutcome) (kind : GotoKind) (n : Nat) : Prop where
  nothing : o = .nothing ↔ n = 0
  navigate : (∃ l, o = .navigate l) ↔ n = 1
  listInline : (∃ ls, o = .listInline ls) ↔ 2 ≤ n ∧ (kind = .implementation ∨ kind = .references)
  choose : (∃ ls, o = .choose ls) ↔ 2 ≤ n ∧ ¬(kind = .implementation ∨ kind = .references)

lemma listsInline_iff {kind : GotoKind} :
    kind.listsInline = true ↔ kind = .implementation ∨ kind = .references := by
  cases kind <;> decide

lemma formed (kind : GotoKind) (ls : Locations) :
    (GotoOutcome.of kind ls).Formed kind ls.toList.length := by
  cases ls with
  | empty => constructor <;> simp [of, Locations.toList]
  | single l => constructor <;> simp [of, Locations.toList]
  | multiple a b rest =>
    by_cases hkind : kind = .implementation ∨ kind = .references
    · constructor <;> simp [of, Locations.toList, listsInline_iff, hkind]
    · constructor <;> simp [of, Locations.toList, listsInline_iff, hkind]

end GotoOutcome

/-- Locations and links in any mixture, as they are written or with other members, are all found in their
order, and what the editor does with them leaves none out. One table stands for the array that holds it,
and nothing for the empty array. -/
theorem Locations.places_located {places : List Place} {items : List Json}
    (h : List.Forall₂ Place.ShownBy places items) :
    (∃ ls, ofJson? (.arr items) = some ls ∧ ls.toList = places.map Place.location ∧
      ls.Formed places.length ∧
      ∀ kind, (GotoOutcome.of kind ls).locations = places.map Place.location ∧
        (GotoOutcome.of kind ls).Formed kind places.length) ∧
    (∀ p : Place, p.Fits → p.ShownBy p.toJson) ∧
    (∀ ms, ofJson? (.obj ms) = ofJson? (.arr [.obj ms])) ∧ ofJson? .null = ofJson? (.arr []) := by
  have hlist := toList_ofList (places.map Place.location)
  have hlength : (ofList (places.map Place.location)).toList.length = places.length := by
    rw [hlist, List.length_map]
  refine ⟨⟨_, ofJson?_arr h, hlist, hlength ▸ formed _, fun kind => ⟨?_, ?_⟩⟩,
    fun p hp => hp.shown, ?_, rfl⟩
  · rw [GotoOutcome.locations_of, hlist]
  · exact hlength ▸ GotoOutcome.formed kind _
  · exact fun ms => (ofJson?_single ms).symm

namespace Sample

def stretch (line : Nat) : Range := ⟨⟨line, 0⟩, ⟨line, 4⟩⟩

def spot : Location := ⟨⟨"file:///src/lib.rs"⟩, stretch 3⟩

def lane : LocationLink := ⟨none, ⟨"file:///src/main.rs"⟩, stretch 1, stretch 2⟩

def labelledSpot : Json :=
  .object [("uri", .str "file:///src/lib.rs"), ("range", (stretch 3).toJson),
    ("targetUri", .str "file:///src/main.rs")]

def bareLane : Json :=
  .object [("originSelectionRange", .null), ("targetUri", .str "file:///src/main.rs"),
    ("targetRange", (stretch 1).toJson), ("targetSelectionRange", (stretch 2).toJson)]

lemma stretch_fits {line : Nat} (h : line ≤ 0xffffffff) : (stretch line).Fits :=
  ⟨⟨h, by simp [stretch]⟩, h, by simp [stretch]⟩

lemma spot_fits : spot.Fits := ⟨by decide +kernel, stretch_fits (by decide)⟩

lemma labelledSpot_shown : (Place.plain spot).ShownBy labelledSpot where
  left :=
    { uri := by simp [labelledSpot, Json.get?_object, spot]
      valid := spot_fits.1
      range := ⟨_, by simp [labelledSpot, Json.get?_object], (stretch_fits (by decide)).shown⟩ }
  right := by decide +kernel

lemma bareLane_shown : (Place.link lane).ShownBy bareLane where
  origin := .inr (by simp [bareLane, Json.get?_object])
  uri := by simp [bareLane, Json.get?_object, lane]
  valid := by decide +kernel
  range := ⟨_, by simp [bareLane, Json.get?_object], (stretch_fits (by decide)).shown⟩
  selection := ⟨_, by simp [bareLane, Json.get?_object], (stretch_fits (by decide)).shown⟩

end Sample

theorem Locations.mixture_located :
    List.Forall₂ Place.ShownBy
      [.plain Sample.spot, .link Sample.lane, .plain Sample.spot]
      [Sample.labelledSpot, Sample.bareLane, Sample.spot.toJson] ∧
    ∃ ls, ofJson? (.arr [Sample.labelledSpot, Sample.bareLane, Sample.spot.toJson]) = some ls ∧
      ls.toList = [Sample.spot, ⟨⟨"file:///src/main.rs"⟩, Sample.stretch 2⟩, Sample.spot] ∧
      ∃ listed, GotoOutcome.of .references ls = .listInline listed := by
  have hshown : List.Forall₂ Place.ShownBy
      [.plain Sample.spot, .link Sample.lane, .plain Sample.spot]
      [Sample.labelledSpot, Sample.bareLane, Sample.spot.toJson] :=
    .cons Sample.labelledSpot_shown (.cons Sample.bareLane_shown
      (.cons (Place.Fits.shown (p := .plain Sample.spot) Sample.spot_fits) .nil))
  obtain ⟨⟨ls, hread, hlist, -, hkinds⟩, -⟩ := places_located hshown
  refine ⟨hshown, ls, hread, hlist, ?_⟩
  exact (hkinds .references).2.listInline.mpr ⟨by decide, .inr rfl⟩

end LanguageHost
