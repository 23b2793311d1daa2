import LanguageHost.Wire.Frame

/-!
The buffered input that frames are read from. Header lines are read up to their newline and bodies
by count, both out of one buffer that the reads of the stream fill.
-/

namespace LanguageHost

def TransportError.ofFault : Fault → TransportError
  | .unexpectedEnd => .unexpectedEnd
  | f => .fault f

namespace Frame

structure Source where
  buffer : Bytes := []
  arrivals : List Arrival := []

def Arrival.size : Arrival → Nat
  | chunk bs => bs.length
  | fault _ => 0

namespace Source

def coming : List Arrival → Nat
  | [] => 0
  | a :: rest => a.size + coming rest

def size (s : Source) : Nat := s.buffer.length + coming s.arrivals

def splitLine? (buffer : Bytes) : Option (Bytes × Bytes) :=
  match buffer.dropWhile (· != newline) with
  | [] => none
  | b :: rest => some (buffer.takeWhile (· != newline) ++ [b], rest)

def lineFrom (soFar buffer : Bytes) (arrivals : List Arrival) : Except Fault Bytes × Source :=
  match splitLine? buffer with
  | some (line, rest) => (.ok (soFar.reverse ++ line), ⟨rest, arrivals⟩)
  | none =>
    match arrivals with
    | [] => (.ok (soFar.reverse ++ buffer), {})
    | .chunk bs :: arrivals => lineFrom (buffer.reverse ++ soFar) bs arrivals
    | .fault .interrupted :: arrivals => lineFrom (buffer.reverse ++ soFar) [] arrivals
    | .fault f :: arrivals => (.error f, { arrivals })

def readLine (s : Source) : Except Fault Bytes × Source := lineFrom [] s.buffer s.arrivals

def takeFrom (missing : Nat) (soFar buffer : Bytes) (arrivals : List Arrival) :
    Except Fault Bytes × Source :=
  if missing ≤ buffer.length then
    (.ok (soFar.reverse ++ buffer.take missing), ⟨buffer.drop missing, arrivals⟩)
  else
    match arrivals with
    | [] => (.ok (soFar.reverse ++ buffer), {})
    | .chunk bs :: arrivals =>
      takeFrom (missing - buffer.length) (buffer.reverse ++ soFar) bs arrivals
    | .fault .interrupted :: arrivals =>
      takeFrom (missing - buffer.length) (buffer.reverse ++ soFar) [] arrivals
    | .fault f :: arrivals => (.error f, { arrivals })

def readBody (length : Nat) (s : Source) : Except TransportError Bytes × Source :=
  match takeFrom length [] s.buffer s.arrivals with
  | (.error f, s) => (.error (.ofFault f), s)
  | (.ok body, s) =>
    if body.length < length then (.error .unexpectedEnd, s) else (.ok body, s)

theorem splitLine?_append {buffer line rest : Bytes} (h : splitLine? buffer = some (line, rest)) :
    line ++ rest = buffer := by
  unfold splitLine? at h
  split at h
  · cases h
  · next heq =>
    cases h
    rw [List.append_assoc, List.singleton_append, ← heq, List.takeWhile_append_dropWhile]

theorem lineFrom_size {soFar buffer line : Bytes} {arrivals : List Arrival} {s : Source}
    (h : lineFrom soFar buffer arrivals = (.ok line, s)) :
    line.length + s.size = soFar.length + size ⟨buffer, arrivals⟩ := by
  induction arrivals generalizing soFar buffer with
  | nil =>
    unfold lineFrom at h
    split at h
    · next hs =>
      have := splitLine?_append hs
      cases h
      grind [size, coming]
    · cases h
      grind [size, coming]
  | cons a arrivals ih =>
    unfold lineFrom at h
    split at h
    · next hs =>
      have := splitLine?_append hs
      cases h
      grind [size, coming]
    · split at h
      · contradiction
      · next heq =>
        cases heq
        have := ih h
        grind [size, coming, Arrival.size]
      · next heq =>
        cases heq
        have := ih h
        grind [size, coming, Arrival.size]
      · cases h

theorem readLine_size {s s' : Source} {b : UInt8} {line : Bytes}
    (h : s.readLine = (.ok (b :: line), s')) : s'.size < s.size := by
  have taken : line.length + 1 + s'.size = 0 + s.size := lineFrom_size h
  omega

def readFrom (announced : Option Nat) (s : Source) : Except TransportError Bytes × Source :=
  match _ : s.readLine with
  | (.error f, s') => (.error (.ofFault f), s')
  | (.ok [], s') => (.error .unexpectedEnd, s')
  | (.ok (b :: line), s') =>
    match endLine announced (b :: line) with
    | .done r => (r, s')
    | .more (.line announced _) => readFrom announced s'
    | .more (.body missing _) => readBody missing s'
termination_by s.size
decreasing_by exact readLine_size ‹_›

def readFrame (s : Source) : Except TransportError Bytes × Source := readFrom none s

def readMany : Nat → Source → List (Except TransportError Bytes)
  | 0, _ => []
  | count + 1, s =>
    match s.readFrame with
    | (.error .unexpectedEnd, _) => [.error .unexpectedEnd]
    | (r, s) => r :: readMany count s

end Source

end Frame

end LanguageHost
