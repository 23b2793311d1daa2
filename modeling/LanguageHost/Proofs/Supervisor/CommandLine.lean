import Mathlib.Data.List.TakeWhile
import Mathlib.Tactic.Lemma
import LanguageHost.Settings.Types
import LanguageHost.Session.Launch

namespace LanguageHost

namespace Text

def HasInk (cs : List Char) : Prop := ∃ c ∈ cs, isBlank c = false

variable {cs : List Char}

lemma wordsFrom_ne_nil {current : List Char} (h : current ≠ [] ∨ HasInk cs) :
    wordsFrom current cs ≠ [] := by
  induction cs generalizing current with
  | nil =>
    have hc : current ≠ [] := h.resolve_right (by simp [HasInk])
    simp [wordsFrom, hc]
  | cons c rest ih =>
    simp only [wordsFrom]
    cases hb : isBlank c with
    | false =>
      simp only [Bool.false_eq_true, if_false]
      exact ih (.inl (List.cons_ne_nil c current))
    | true =>
      simp only [if_true]
      split
      · next hc =>
        refine ih (.inr ?_)
        have hink : HasInk (c :: rest) := h.resolve_left (by simpa using hc)
        simpa [HasInk, hb] using hink
      · exact List.cons_ne_nil _ _

lemma HasInk.dropWhile (h : HasInk cs) : HasInk (cs.dropWhile isBlank) := by
  induction cs with
  | nil => exact h
  | cons c rest ih =>
    cases hb : isBlank c with
    | false => simpa [List.dropWhile_cons, hb] using h
    | true =>
      have hr : HasInk rest := by simpa [HasInk, hb] using h
      simpa [List.dropWhile_cons, hb] using ih hr

lemma hasInk_reverse : HasInk cs.reverse ↔ HasInk cs := by simp [HasInk]

lemma HasInk.trim (h : HasInk cs) : HasInk (trim cs) :=
  hasInk_reverse.mpr (HasInk.dropWhile (hasInk_reverse.mpr h.dropWhile))

lemma hasInk_trim (h : trim cs ≠ []) : HasInk (trim cs) := by
  have hd : (trimLeft cs).reverse.dropWhile isBlank ≠ [] := by simpa [trim, trimRight] using h
  refine hasInk_reverse.mpr ⟨_, List.head_mem hd, ?_⟩
  simpa using List.head_dropWhile_not isBlank hd

end Text

namespace CommandLine

open Text

lemma hasInk_expand (home : Option String) {cs : List Char} (h : HasInk cs) :
    HasInk (expand home cs) := by
  simp only [expand]
  split
  · exact ⟨'/', by simp, rfl⟩
  · exact h

theorem parse?_commandLine {s : ServerSettings} {text : String} (h : s.commandLine? = some text)
    (home : Option String) : ∃ command, parse? home text = some command := by
  obtain ⟨ht, hne⟩ := Option.filter_eq_some_iff.mp h
  obtain ⟨input, -, rfl⟩ := Option.map_eq_some_iff.mp ht
  have hink : HasInk (trimString input).toList := by
    rw [trimString, String.toList_ofList]
    refine hasInk_trim fun hn => ?_
    simp [trimString, hn] at hne
  have hwords : words (expand home (trim (trimString input).toList)) ≠ [] :=
    wordsFrom_ne_nil (.inr (hasInk_expand home hink.trim))
  simp only [parse?]
  split
  · next hw => exact absurd hw hwords
  · exact ⟨_, rfl⟩

end CommandLine

end LanguageHost
