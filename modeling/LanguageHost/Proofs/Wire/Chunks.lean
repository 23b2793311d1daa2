import Mathlib.Data.List.TakeWhile
import Mathlib.Tactic.Lemma
import LanguageHost.Wire.Source

namespace LanguageHost.Frame

/-- What a stream delivers to a reader that tries again when a read is interrupted. -/
def uninterrupted (stream : List Signal) : List Signal := stream.filter (· ≠ .fault .interrupted)

lemma uninterrupted_chunk (bs : Bytes) (arrivals : List Arrival) :
    uninterrupted (signals (.chunk bs :: arrivals)) =
      bs.map .byte ++ uninterrupted (signals arrivals) := by
  have h : (bs.map Signal.byte).filter (· ≠ .fault .interrupted) = bs.map .byte := by
    simp [List.filter_eq_self]
  simp only [uninterrupted, signals, List.flatMap_cons, Arrival.signals, List.filter_append, h]

lemma uninterrupted_interrupted (arrivals : List Arrival) :
    uninterrupted (signals (.fault .interrupted :: arrivals)) = uninterrupted (signals arrivals) := by
  simp [uninterrupted, signals, Arrival.signals]

lemma uninterrupted_fault {f : Fault} (hf : f ≠ .interrupted) (arrivals : List Arrival) :
    uninterrupted (signals (.fault f :: arrivals)) = .fault f :: uninterrupted (signals arrivals) := by
  simp [uninterrupted, signals, Arrival.signals, hf]

section Reading

variable {announced : Option Nat} {missing : Nat} {soFar bs : Bytes} {stream : List Signal}

lemma feed_fault {f : Fault} (hf : f ≠ .interrupted) (p : Phase) :
    feed p (.fault f) = .done (.error (.ofFault f)) := by
  cases f with
  | interrupted => exact absurd rfl hf
  | _ => cases p <;> rfl

lemma readFrom_fault {f : Fault} (hf : f ≠ .interrupted) (p : Phase) :
    readFrom p (.fault f :: stream) = (.error (.ofFault f), stream) := by
  simp only [readFrom, feed_fault hf]

lemma readFrom_uninterrupted (p : Phase) (stream : List Signal) :
    readFrom p (uninterrupted stream) =
      ((readFrom p stream).1, uninterrupted (readFrom p stream).2) := by
  induction stream generalizing p with
  | nil => rfl
  | cons s rest ih =>
    by_cases hs : s = .fault .interrupted
    · subst hs
      have hp : feed p (.fault .interrupted) = .more p := by cases p <;> rfl
      simpa [uninterrupted, readFrom, hp] using ih p
    · have hkeep : uninterrupted (s :: rest) = s :: uninterrupted rest := by
        simp [uninterrupted, hs]
      rw [hkeep, readFrom, readFrom]
      cases feed p s with
      | more p => exact ih p
      | done r => rfl

lemma readFrom_part (h : newline ∉ bs) :
    readFrom (.line announced soFar) (bs.map .byte ++ stream) =
      readFrom (.line announced (bs.reverse ++ soFar)) stream := by
  induction bs generalizing soFar with
  | nil => rfl
  | cons b bs ih =>
    rw [List.mem_cons, not_or] at h
    simp only [List.map_cons, List.cons_append, readFrom, feed, if_neg (Ne.symm h.1), ih h.2,
      List.reverse_cons, List.append_assoc, List.nil_append]

lemma readFrom_line (h : newline ∉ bs) :
    readFrom (.line announced soFar) (bs.map .byte ++ .byte newline :: stream) =
      match endLine announced (soFar.reverse ++ bs ++ [newline]) with
      | .more p => readFrom p stream
      | .done r => (r, stream) := by
  rw [readFrom_part h]
  cases hend : endLine announced (soFar.reverse ++ bs ++ [newline]) <;>
    simp only [readFrom, feed, if_true, List.reverse_cons, List.reverse_append,
      List.reverse_reverse, hend]

lemma readFrom_piece (h : bs.length < missing) :
    readFrom (.body missing soFar) (bs.map .byte ++ stream) =
      readFrom (.body (missing - bs.length) (bs.reverse ++ soFar)) stream := by
  induction bs generalizing missing soFar with
  | nil => rfl
  | cons b bs ih =>
    rw [List.length_cons] at h
    have hm : ¬ missing ≤ 1 := by omega
    simp only [List.map_cons, List.cons_append, readFrom, feed, if_neg hm]
    rw [ih (by omega)]
    simp only [List.length_cons, List.reverse_cons, List.append_assoc, List.singleton_append,
      Nat.sub_sub, Nat.add_comm 1]

lemma readFrom_body (h : bs.length = missing) (hpos : 0 < missing) :
    readFrom (.body missing soFar) (bs.map .byte ++ stream) = (.ok (soFar.reverse ++ bs), stream) := by
  obtain ⟨front, last, rfl⟩ : ∃ front last, bs = front ++ [last] :=
    ⟨_, _, (List.dropLast_concat_getLast (List.ne_nil_of_length_pos (h ▸ hpos))).symm⟩
  rw [List.length_append, List.length_singleton] at h
  rw [List.map_append, List.append_assoc, readFrom_piece (by omega)]
  have hm : missing - front.length ≤ 1 := by omega
  simp only [List.map_singleton, List.singleton_append, readFrom, feed, if_pos hm]
  simp

lemma endLine_more {line : Bytes} {p : Phase} (h : endLine announced line = .more p) :
    (∃ announced, p = .line announced []) ∨ ∃ n, 0 < n ∧ p = .body n [] := by
  unfold endLine at h
  split at h
  · cases h
  · split at h
    · right
      unfold beginBody at h
      grind
    · left
      grind

lemma finish_of_endLine {line : Bytes} {p : Phase} (h : endLine announced line = .more p) :
    finish p = .error .unexpectedEnd := by
  rcases endLine_more h with ⟨_, rfl⟩ | ⟨_, _, rfl⟩ <;> rfl

end Reading

namespace Source

lemma splitLine?_eq_some {buffer line rest : Bytes} (h : splitLine? buffer = some (line, rest)) :
    ∃ bs, newline ∉ bs ∧ line = bs ++ [newline] ∧ buffer = bs ++ newline :: rest := by
  unfold splitLine? at h
  split at h
  · cases h
  · next b after heq =>
    have hb : b = newline := by
      have := List.head?_dropWhile_not (· != newline) buffer
      simpa [heq] using this
    cases h
    subst hb
    refine ⟨buffer.takeWhile (· != newline), fun hmem => ?_, rfl, ?_⟩
    · simpa using List.mem_takeWhile_imp hmem
    · rw [← heq, List.takeWhile_append_dropWhile]

lemma splitLine?_eq_none {buffer : Bytes} (h : splitLine? buffer = none) : newline ∉ buffer := by
  unfold splitLine? at h
  split at h
  · next heq =>
    intro hmem
    simpa using List.dropWhile_eq_nil_iff.1 heq newline hmem
  · cases h

def content (s : Source) : List Signal :=
  s.buffer.map .byte ++ uninterrupted (signals s.arrivals)

lemma content_chunk (buffer bs : Bytes) (arrivals : List Arrival) :
    content ⟨buffer, .chunk bs :: arrivals⟩ = buffer.map .byte ++ content ⟨bs, arrivals⟩ := by
  rw [content, uninterrupted_chunk, content]

lemma content_interrupted (buffer : Bytes) (arrivals : List Arrival) :
    content ⟨buffer, .fault .interrupted :: arrivals⟩ =
      buffer.map .byte ++ content ⟨[], arrivals⟩ := by
  rw [content, uninterrupted_interrupted, content]
  rfl

lemma content_fault {f : Fault} (hf : f ≠ .interrupted) (buffer : Bytes) (arrivals : List Arrival) :
    content ⟨buffer, .fault f :: arrivals⟩ =
      buffer.map .byte ++ .fault f :: content ⟨[], arrivals⟩ := by
  rw [content, uninterrupted_fault hf, content]
  rfl

def resume (announced : Option Nat) :
    Except Fault Bytes × Source → Except TransportError Bytes × List Signal
  | (.error f, s) => (.error (.ofFault f), s.content)
  | (.ok [], s) => (.error .unexpectedEnd, s.content)
  | (.ok (b :: line), s) =>
    match endLine announced (b :: line) with
    | .done r => (r, s.content)
    | .more p => Frame.readFrom p s.content

lemma resume_line (announced : Option Nat) {line : Bytes} (hl : line ≠ []) (s : Source) :
    resume announced (.ok line, s) =
      match endLine announced line with
      | .done r => (r, s.content)
      | .more p => Frame.readFrom p s.content := by
  cases line with
  | nil => exact absurd rfl hl
  | cons b line => rfl

lemma readFrom_end (announced : Option Nat) (soFar : Bytes) :
    Frame.readFrom (.line announced soFar) [] = resume announced (.ok soFar.reverse, {}) := by
  cases soFar with
  | nil => rfl
  | cons b bs =>
    rw [resume_line announced (by simp)]
    cases he : endLine announced (b :: bs).reverse with
    | done r => simp only [Frame.readFrom, finish, he]; rfl
    | more p =>
      have hp := finish_of_endLine he
      simp only [Frame.readFrom, finish, he]
      change _ = Frame.readFrom p []
      rw [Frame.readFrom, hp]

lemma splitLine?_content (announced : Option Nat) (soFar : Bytes) {buffer line rest : Bytes}
    (arrivals : List Arrival) (h : splitLine? buffer = some (line, rest)) :
    Frame.readFrom (.line announced soFar) (content ⟨buffer, arrivals⟩) =
      resume announced (.ok (soFar.reverse ++ line), ⟨rest, arrivals⟩) := by
  obtain ⟨bs, hbs, rfl, rfl⟩ := splitLine?_eq_some h
  simp only [content, List.map_append, List.map_cons, List.append_assoc, List.cons_append]
  rw [readFrom_line hbs, resume_line announced (by simp), List.append_assoc]
  cases endLine announced (soFar.reverse ++ (bs ++ [newline])) <;> rfl

lemma lineFrom_content (announced : Option Nat) (soFar buffer : Bytes) (arrivals : List Arrival) :
    Frame.readFrom (.line announced soFar) (content ⟨buffer, arrivals⟩) =
      resume announced (lineFrom soFar buffer arrivals) := by
  induction arrivals generalizing soFar buffer with
  | nil =>
    unfold lineFrom
    cases hs : splitLine? buffer with
    | some p => exact splitLine?_content announced soFar _ hs
    | none =>
      have hn := splitLine?_eq_none hs
      have hc : content ⟨buffer, []⟩ = buffer.map .byte ++ [] := rfl
      rw [hc, readFrom_part hn, readFrom_end]
      simp
  | cons a arrivals ih =>
    unfold lineFrom
    cases hs : splitLine? buffer with
    | some p => exact splitLine?_content announced soFar _ hs
    | none =>
      have hn := splitLine?_eq_none hs
      cases a with
      | chunk bs => rw [content_chunk, readFrom_part hn, ih]
      | fault f =>
        by_cases hf : f = .interrupted
        · subst hf
          rw [content_interrupted, readFrom_part hn, ih]
        · rw [content_fault hf, readFrom_part hn, readFrom_fault hf]
          cases f <;> first | rfl | exact absurd rfl hf

def conclude (length : Nat) :
    Except Fault Bytes × Source → Except TransportError Bytes × List Signal
  | (.error f, s) => (.error (.ofFault f), s.content)
  | (.ok body, s) =>
    (if body.length < length then .error .unexpectedEnd else .ok body, s.content)

lemma takeFrom_enough {missing : Nat} (hpos : 0 < missing) {soFar buffer : Bytes}
    {arrivals : List Arrival} (hle : missing ≤ buffer.length) :
    Frame.readFrom (.body missing soFar) (content ⟨buffer, arrivals⟩) =
      conclude (soFar.length + missing)
        (.ok (soFar.reverse ++ buffer.take missing), ⟨buffer.drop missing, arrivals⟩) := by
  have hlength : (buffer.take missing).length = missing := by
    rw [List.length_take]
    omega
  have hc : content ⟨buffer, arrivals⟩ =
      (buffer.take missing).map .byte ++ content ⟨buffer.drop missing, arrivals⟩ := by
    rw [content, content, ← List.append_assoc, ← List.map_append, List.take_append_drop]
  have hall : ¬ (soFar.reverse ++ buffer.take missing).length < soFar.length + missing := by
    rw [List.length_append, List.length_reverse, hlength]
    omega
  rw [hc, readFrom_body hlength hpos, conclude, if_neg hall]

lemma takeFrom_content {missing : Nat} (hpos : 0 < missing) (soFar buffer : Bytes)
    (arrivals : List Arrival) :
    Frame.readFrom (.body missing soFar) (content ⟨buffer, arrivals⟩) =
      conclude (soFar.length + missing) (takeFrom missing soFar buffer arrivals) := by
  induction arrivals generalizing missing soFar buffer with
  | nil =>
    unfold takeFrom
    split
    · next hle => exact takeFrom_enough hpos hle
    · next hle =>
      have hc : content ⟨buffer, []⟩ = buffer.map .byte ++ [] := rfl
      have hlt : (soFar.reverse ++ buffer).length < soFar.length + missing := by
        rw [List.length_append, List.length_reverse]
        omega
      rw [hc, readFrom_piece (by omega), conclude, if_pos hlt]
      rfl
  | cons a arrivals ih =>
    unfold takeFrom
    split
    · next hle => exact takeFrom_enough hpos hle
    · next hle =>
      have hlt : buffer.length < missing := by omega
      have hlength : (buffer.reverse ++ soFar).length + (missing - buffer.length) =
          soFar.length + missing := by
        rw [List.length_append, List.length_reverse]
        omega
      cases a with
      | chunk bs => rw [content_chunk, readFrom_piece hlt, ih (by omega), hlength]
      | fault f =>
        by_cases hf : f = .interrupted
        · subst hf
          rw [content_interrupted, readFrom_piece hlt, ih (by omega), hlength]
        · rw [content_fault hf, readFrom_piece hlt, readFrom_fault hf]
          cases f <;> first | rfl | exact absurd rfl hf

lemma readBody_content {length : Nat} (hpos : 0 < length) (s : Source) :
    Frame.readFrom (.body length []) s.content =
      ((s.readBody length).1, (s.readBody length).2.content) := by
  have h := takeFrom_content hpos [] s.buffer s.arrivals
  rw [List.length_nil, Nat.zero_add] at h
  refine h.trans ?_
  unfold readBody
  rcases takeFrom length [] s.buffer s.arrivals with ⟨f | body, s'⟩
  · rfl
  · simp only [conclude]
    split <;> rfl

lemma readFrom_content (announced : Option Nat) (s : Source) :
    Frame.readFrom (.line announced []) s.content =
      ((readFrom announced s).1, (readFrom announced s).2.content) := by
  have hstart (announced : Option Nat) (s : Source) :
      Frame.readFrom (.line announced []) s.content = resume announced s.readLine :=
    lineFrom_content announced [] s.buffer s.arrivals
  fun_induction readFrom announced s with
  | case1 announced s f s' hline => rw [hstart, hline, resume]
  | case2 announced s s' hline => rw [hstart, hline, resume]
  | case3 announced s b line s' hline r hend => rw [hstart, hline, resume, hend]
  | case4 announced s b line s' hline announced' soFar hend ih =>
    obtain ⟨a, ha⟩ | ⟨n, -, hn⟩ := endLine_more hend
    · cases ha
      rw [hstart, hline, resume, hend]
      exact ih
    · cases hn
  | case5 announced s b line s' hline missing soFar hend =>
    obtain ⟨a, ha⟩ | ⟨n, hpos, hn⟩ := endLine_more hend
    · cases ha
    · cases hn
      rw [hstart, hline, resume, hend]
      exact readBody_content hpos s'

lemma readMany_content (count : Nat) (s : Source) :
    s.readMany count = Frame.readMany count s.content := by
  induction count generalizing s with
  | zero => rfl
  | succ count ih =>
    have h := readFrom_content none s
    rw [readMany, Frame.readMany, Frame.read, Phase.start, h, readFrame]
    rcases readFrom none s with ⟨r, s'⟩
    cases r with
    | ok body => simp only [ih]
    | error e => cases e <;> simp only [ih]

end Source

theorem readMany_signals (count : Nat) (arrivals : List Arrival) :
    Source.readMany count { arrivals } = readMany count (signals arrivals) := by
  rw [Source.readMany_content]
  change readMany count (uninterrupted (signals arrivals)) = _
  generalize signals arrivals = stream
  induction count generalizing stream with
  | zero => rfl
  | succ count ih =>
    rw [readMany, readMany, read, read, readFrom_uninterrupted]
    rcases readFrom .start stream with ⟨r, rest⟩
    cases r with
    | ok body => simp only [ih]
    | error e => cases e <;> simp only [ih]

end LanguageHost.Frame
