import LanguageHost.Proofs.Json.Ordered
import LanguageHost.Proofs.Yields
import LanguageHost.Settings.Decode

namespace LanguageHost

namespace Decode

variable {σ α : Type} {I : σ → Prop} {P : α → Prop} {read : Json → Result α}
  {fields : List (Field σ)} {ms : List (String × Json)} {s : σ} {key name : String} {j : Json}
  {put : α → σ → σ}

lemma field_yields (hread : Yields P (read j)) (hput : ∀ a, P a → I (put a s)) :
    Yields I ((field name read put).set j s) :=
  hread.map hput

lemma setMembers_yields (hfields : ∀ f ∈ fields, ∀ e ∈ ms, ∀ s, I s → Yields I (f.set e.2 s))
    (hs : I s) : Yields I (setMembers fields ms s) := by
  induction ms generalizing s with
  | nil => exact .ok hs
  | cons e rest ih =>
    have hrest : ∀ s, I s → Yields I (setMembers fields rest s) :=
      fun s hs => ih (fun f hf e he => hfields f hf e (List.mem_cons_of_mem _ he)) hs
    rw [setMembers]
    split
    · rename_i f hf
      refine Yields.bind (Yields.mapError ?_) fun s hs => hrest s hs
      exact hfields f (List.mem_of_find?_eq_some hf) e List.mem_cons_self s hs
    · exact hrest s hs

lemma setItems_yields (hfields : ∀ f ∈ fields, ∀ j s, I s → Yields I (f.set j s)) (hs : I s)
    (items : List Json) (index : Nat) : Yields I (setItems index fields items s) := by
  induction fields generalizing items index s with
  | nil => exact .ok hs
  | cons f fields ih =>
    obtain ⟨hf, hfields⟩ := List.forall_mem_cons.mp hfields
    cases items with
    | nil => exact .ok hs
    | cons j items =>
      exact (Yields.mapError (hf j s hs)).bind fun s hs => ih hfields hs items (index + 1)

lemma table_yields {surplus : Surplus} {typeName : String}
    (hfields : ∀ f ∈ fields, ∀ j s, I s → Yields I (f.set j s)) (hs : I s) (j : Json) :
    Yields I (table surplus typeName fields s j) := by
  cases j with
  | obj ms => exact setMembers_yields (fun f hf e _ => hfields f hf e.2) hs
  | arr items =>
    rw [table]
    split_ifs
    · exact .error
    · exact setItems_yields hfields hs items 0
  | _ => exact .error

lemma readMembers_yields (hread : ∀ e ∈ ms, Yields P (read e.2)) :
    Yields (fun l => l.map Prod.fst = ms.map Prod.fst ∧ ∀ e ∈ l, P e.2) (readMembers read ms) := by
  induction ms with
  | nil => exact .ok ⟨rfl, by simp⟩
  | cons e rest ih =>
    have hrest := ih fun e he => hread e (List.mem_cons_of_mem _ he)
    refine Yields.bind (Yields.mapError (hread e List.mem_cons_self)) fun a ha => ?_
    refine hrest.bind fun l hl => .ok ⟨by simp [hl.1], ?_⟩
    exact List.forall_mem_cons.mpr ⟨ha, hl.2⟩

section Owned

variable {β : Type} {readSetting : Json → Result β} {setting : σ → β} {k : String} {f : Field σ}

def Respects (k : String) (readSetting : Json → Result β) (setting : σ → β) (f : Field σ) : Prop :=
  ∀ j s, Yields (fun s' => (f.name = k → readSetting j = .ok (setting s')) ∧
    (f.name ≠ k → setting s' = setting s)) (f.set j s)

structure Owned (fields : List (Field σ)) (k : String) (readSetting : Json → Result β)
    (setting : σ → β) : Prop where
  respects : ∀ f ∈ fields, Respects k readSetting setting f
  present : ∃ f ∈ fields, f.name = k

lemma field_sets {put : β → σ → σ} (hput : ∀ a s, setting (put a s) = a) :
    Respects k readSetting setting (field k readSetting put) := by
  intro j s
  refine Yields.map (P := fun a => readSetting j = .ok a) (fun a ha => ha) fun a ha => ?_
  exact ⟨fun _ => (hput a s).symm ▸ ha, fun hn => absurd rfl hn⟩

lemma field_leaves (hn : name ≠ k) (hput : ∀ a s, setting (put a s) = setting s) :
    Respects k readSetting setting (field name read put) := by
  intro j s
  exact Yields.any.map fun a _ => ⟨fun h => absurd h hn, fun _ => hput a s⟩

def stated (k : String) (readSetting : Json → Result β) (start : β) (ms : List (String × Json)) :
    Result β :=
  match Members.find? k ms with
  | some j => readSetting j
  | none => .ok start

lemma stated_other {key : String} {j : Json} {start : β} (hk : key ≠ k) :
    stated k readSetting start ((key, j) :: ms) = stated k readSetting start ms := by
  rw [stated, Members.find?, if_neg hk, stated]

theorem setMembers_owned (h : Owned fields k readSetting setting) (hms : Members.Sorted ms) :
    Yields (fun s' => stated k readSetting (setting s) ms = .ok (setting s'))
      (setMembers fields ms s) := by
  induction ms generalizing s with
  | nil => exact .ok rfl
  | cons e rest ih =>
    obtain ⟨key, j⟩ := e
    rw [setMembers]
    cases hf : fields.find? fun f => f.name = key with
    | some f =>
      have hname : f.name = key := by simpa using List.find?_some hf
      have hset := h.respects f (List.mem_of_find?_eq_some hf) j s
      refine (Yields.mapError hset).bind fun s' hs' => ?_
      by_cases hk : key = k
      -- The rest of the members says nothing more of the setting.
      · have hnone : Members.find? k rest = none := hk ▸ hms.find?_rest
        have hrest := ih (s := s') hms.of_cons
        rw [stated, hnone] at hrest
        rw [stated, Members.find?, if_pos hk]
        exact fun s'' hs'' => (hs'.1 (hname.trans hk)).trans (hrest s'' hs'')
      · rw [stated_other hk, ← hs'.2 fun hn => hk (hname.symm.trans hn)]
        exact ih hms.of_cons
    | none =>
      have hk : key ≠ k := by
        rintro rfl
        obtain ⟨f, hmem, hname⟩ := h.present
        simpa [hname] using List.find?_eq_none.mp hf f hmem
      rw [stated_other hk]
      exact ih hms.of_cons

end Owned

end Decode

end LanguageHost
