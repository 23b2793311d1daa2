import LanguageHost.Path.Basic

/-!
The versions of documents, counted for every path over all servers. Paths with the same components
share a counter.
-/

namespace LanguageHost

structure Versions where
  counters : List (List FilePath.Component × Nat) := []

namespace Versions

/-- The largest version; the counters stay there. -/
def greatest : Nat := 0x7fffffff

def last (v : Versions) (p : FilePath) : Nat :=
  ((v.counters.find? (·.1 = p.components)).map Prod.snd).getD 0

def set (v : Versions) (p : FilePath) (n : Nat) : Versions :=
  ⟨(p.components, n) :: v.counters.filter (·.1 ≠ p.components)⟩

def next (v : Versions) : Option FilePath → Versions × Nat
  | none => (v, 0)
  | some p =>
    let n := min (v.last p + 1) greatest
    (v.set p n, n)

section

variable {v : Versions} {p q : FilePath}

theorem last_set_self (hq : q.components = p.components) (n : Nat) : (v.set q n).last p = n := by
  simp [last, set, hq]

theorem last_set_other (hq : q.components ≠ p.components) (n : Nat) :
    (v.set q n).last p = v.last p := by
  have hfind : (v.counters.filter (·.1 ≠ q.components)).find? (·.1 = p.components) =
      v.counters.find? (·.1 = p.components) := by
    rw [List.find?_filter]
    refine congrArg (v.counters.find? ·) (funext fun c => ?_)
    by_cases hc : c.1 = p.components
    · simpa [hc] using Ne.symm hq
    · simp [hc]
  rw [last, last, set, List.find?_cons_of_neg (by simpa using hq), hfind]

end

end Versions

end LanguageHost
