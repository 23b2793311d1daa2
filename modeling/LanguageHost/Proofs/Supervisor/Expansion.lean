import LanguageHost.Proofs.Supervisor.CommandLine
import LanguageHost.Proofs.Text.Words

/-! What a command line is read as. The home directory takes the place of its shorthand before the line
is taken apart, so that a home with blanks comes apart as well. -/

namespace LanguageHost.CommandLine

open Text

variable {home : Option String} {input : String} {program first : List Char}
  {args more : List (List Char)} {cs tail rest : List Char}

lemma expand_plain (h : home = none ∨ ¬['~', '/'] <+: cs) : expand home cs = cs := by
  rw [expand.eq_def]
  split
  · next rest home =>
    rcases h with h | h
    · cases h
    · exact absurd ⟨rest, rfl⟩ h
  · rfl

lemma expand_shorthand : expand (some dir) ('~' :: '/' :: rest) = dir.toList ++ '/' :: rest := rfl

lemma parse?_of_spaced (h : Spaced (expand home (trim input.toList)) (program :: args)) :
    parse? home input = some ⟨String.ofList program, args.map String.ofList⟩ := by
  rw [parse?, h.words_eq]

lemma parse?_eq_none_iff :
    parse? home input = none ↔ ∀ c ∈ input.toList, isBlank c = true := by
  constructor
  · intro h
    by_contra hink
    have hink : HasInk input.toList := by simpa [HasInk] using hink
    have hwords : words (expand home (trim input.toList)) ≠ [] :=
      wordsFrom_ne_nil (.inr (hasInk_expand home hink.trim))
    rw [parse?] at h
    split at h
    · next hnil => exact hwords hnil
    · cases h
  · intro h
    rw [parse?, trim_eq_nil_iff.mpr h]
    rfl

lemma shorthand_spaced (dir : String) (ht : trim input.toList = '~' :: '/' :: rest)
    (h : Spaced input.toList (first :: args)) :
    ∃ tail, first = '~' :: '/' :: tail ∧ (∀ c ∈ tail, isBlank c = false) ∧
      ∀ words, Spaced (dir.toList ++ '/' :: tail) words →
        Spaced (expand (some dir) (trim input.toList)) (words ++ args) := by
  rw [← Spaced.trim_iff, ht] at h
  obtain ⟨after, gap, args, hwords, hrest, hword, hgap, hargs⟩ := h.first (by decide)
  obtain ⟨rfl, rfl⟩ := List.cons.inj hwords
  cases after with
  | nil =>
    -- A slash is not blank, so the word goes on with it.
    obtain rfl : '/' :: rest = gap := hrest
    exact absurd (hgap '/' rfl) (by decide)
  | cons c tail =>
    rw [List.cons_append] at hrest
    obtain ⟨rfl, rfl⟩ := List.cons.inj hrest
    refine ⟨tail, rfl, fun c hc => hword.inked c (by simp [hc]), fun words hwords => ?_⟩
    rw [ht, expand_shorthand, ← List.cons_append, ← List.append_assoc]
    exact hwords.append hargs hgap

/-- Only a blank line names no program. The program is the first word and the arguments are the other
ones; where the line begins with the shorthand, the first word is read with the home directory in its
place, and that is one word exactly if the home directory has no blanks. -/
theorem shorthand_expanded (home : Option String) (input : String) :
    (parse? home input = none ↔ ∀ c ∈ input.toList, isBlank c = true) ∧
    ∀ first args, Spaced input.toList (first :: args) →
      (home = none ∨ ¬['~', '/'] <+: trim input.toList →
        parse? home input = some ⟨String.ofList first, args.map String.ofList⟩) ∧
      ∀ dir rest, home = some dir → trim input.toList = '~' :: '/' :: rest →
        ∃ tail, first = '~' :: '/' :: tail ∧
          (∃ program more, Spaced (dir.toList ++ '/' :: tail) (program :: more) ∧
            parse? home input = some ⟨String.ofList program, (more ++ args).map String.ofList⟩) ∧
          (parse? home input = some ⟨dir ++ "/" ++ String.ofList tail, args.map String.ofList⟩ ↔
            ∀ c ∈ dir.toList, isBlank c = false) := by
  refine ⟨parse?_eq_none_iff, fun first args h => ⟨fun hplain => ?_, ?_⟩⟩
  · refine parse?_of_spaced ?_
    rwa [expand_plain hplain, Spaced.trim_iff]
  rintro dir rest rfl ht
  obtain ⟨tail, rfl, htail, hexpand⟩ := shorthand_spaced dir ht h
  obtain ⟨program, more, hwords⟩ : ∃ program more,
      Spaced (dir.toList ++ '/' :: tail) (program :: more) := by
    have hspaced := words_spaced (dir.toList ++ '/' :: tail)
    cases hw : words (dir.toList ++ '/' :: tail) with
    | nil => exact absurd hw (wordsFrom_ne_nil (.inr ⟨'/', by simp, by decide⟩))
    | cons program more => exact ⟨program, more, hw ▸ hspaced⟩
  have hparse := parse?_of_spaced (hexpand _ hwords)
  refine ⟨tail, rfl, ⟨program, more, hwords, hparse⟩, ?_⟩
  constructor
  · intro hlaw c hc
    -- A program is a word, and the law makes the home directory a part of it.
    obtain rfl : program = dir.toList ++ '/' :: tail := by
      have hprogram := congrArg (Option.map CommandLine.program) (hparse.symm.trans hlaw)
      simpa [← String.toList_inj] using hprogram
    exact (hwords.isWord _ List.mem_cons_self).inked c (List.mem_append_left _ hc)
  · intro hdir
    have hword : IsWord (dir.toList ++ '/' :: tail) := by
      refine ⟨by simp, ?_⟩
      rw [List.forall_mem_append, List.forall_mem_cons]
      exact ⟨hdir, by decide, htail⟩
    have hone : Spaced (dir.toList ++ '/' :: tail ++ []) [dir.toList ++ '/' :: tail] :=
      .word hword (by simp) .nil
    rw [List.append_nil] at hone
    rw [parse?_of_spaced (hexpand _ hone)]
    simp [← String.toList_inj]

theorem plain_home_expanded :
    Spaced "~/bin/server --log ~/log".toList
      ["~/bin/server".toList, "--log".toList, "~/log".toList] ∧
    parse? (some "/home/dev") "~/bin/server --log ~/log" =
      some ⟨"/home/dev/bin/server", ["--log", "~/log"]⟩ := by
  have hwords : Spaced "~/bin/server --log ~/log".toList
      ["~/bin/server".toList, "--log".toList, "~/log".toList] := words_eq_iff.mp (by decide)
  obtain ⟨-, hread⟩ := shorthand_expanded (some "/home/dev") "~/bin/server --log ~/log"
  obtain ⟨tail, htail, -, hlaw⟩ := (hread _ _ hwords).2 "/home/dev" _ rfl rfl
  obtain rfl : "bin/server".toList = tail := by simpa using htail
  have hhome : ∀ c ∈ "/home/dev".toList, isBlank c = false := by
    simpa using List.any_eq_false.mp (show "/home/dev".toList.any isBlank = false by decide)
  refine ⟨hwords, ?_⟩
  rw [hlaw.mpr hhome]
  decide +kernel

/-- A home directory of two words: the line has two words, but the program is cut in its middle and its
rest becomes an argument. -/
theorem spaced_home_split :
    Spaced "~/bin/server --stdio".toList ["~/bin/server".toList, "--stdio".toList] ∧
    parse? (some "/home/John Smith") "~/bin/server --stdio" =
      some ⟨"/home/John", ["Smith/bin/server", "--stdio"]⟩ ∧
    parse? (some "/home/John Smith") "~/bin/server --stdio" ≠
      some ⟨"/home/John Smith/bin/server", ["--stdio"]⟩ := by
  refine ⟨words_eq_iff.mp (by decide), by decide +kernel, by decide +kernel⟩

end LanguageHost.CommandLine
