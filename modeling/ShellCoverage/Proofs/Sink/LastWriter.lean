-- SUMMARY: A sink holds at each position what was written there last, whoever wrote it.
import ShellCoverage.Proofs.Trace.Arrival
import ShellCoverage.Sink

/-!
# The last writer

The writers of a sink share one position and may move it back and forth. What the sink holds in the
end does not depend on where the position is left: it reaches as far as something was written, each
position has the byte that was written there last, and one that was never written has a NUL. Reading
the sink gives what its bytes give, however they are delivered.
-/

namespace ShellCoverage

namespace Sink

/-! ## Writes -/

/-- Bytes that are written, and where the first of them goes. -/
structure Write where
  position : Nat
  bytes : Bytes
  deriving DecidableEq, Repr

namespace Write

def stop (write : Write) : Nat :=
  write.position + write.bytes.length

/-- The byte that the write puts at a position, if it covers the position. -/
def byte? (write : Write) (i : Nat) : Option UInt8 :=
  if write.position ≤ i then write.bytes[i - write.position]? else none

@[simp]
theorem byte?_nil (position i : Nat) : (mk position []).byte? i = none := by
  simp [byte?]

theorem byte?_of_lt {write : Write} {i : Nat} (h : i < write.position) : write.byte? i = none :=
  if_neg (Nat.not_le_of_lt h)

theorem byte?_cons (position : Nat) (b : UInt8) (bytes : Bytes) (i : Nat) :
    (mk position (b :: bytes)).byte? i =
      if i = position then some b else (mk (position + 1) bytes).byte? i := by
  unfold byte?
  by_cases heq : i = position
  · simp [heq]
  · by_cases hle : position + 1 ≤ i
    · have hbehind : i - position = i - (position + 1) + 1 := by omega
      simp [heq, hle, hbehind, Nat.le_of_succ_le hle]
    · have hlt : ¬position ≤ i := by omega
      simp [heq, hle, hlt]

/-- How far writes reach: the greatest end of one that writes something, or 0 if none does. -/
def reach (writes : List Write) : Nat :=
  ((writes.filter (·.bytes ≠ [])).map stop).foldl max 0

/-- The byte of the last write that covers a position. -/
def last? (writes : List Write) (i : Nat) : Option UInt8 :=
  writes.reverse.findSome? (·.byte? i)

/-- A further write can extend what is reached, and never cuts it; writing nothing leaves it. -/
theorem reach_append_singleton (writes : List Write) (write : Write) :
    reach (writes ++ [write]) =
      if write.bytes = [] then reach writes else max (reach writes) write.stop := by
  by_cases hnil : write.bytes = [] <;> simp [reach, hnil]

/-- A further write is the last one wherever it covers. -/
theorem last?_append_singleton (writes : List Write) (write : Write) (i : Nat) :
    last? (writes ++ [write]) i = (write.byte? i).or (last? writes i) := by
  cases hbyte : write.byte? i <;> simp [last?, hbyte]

end Write

namespace Operation

def written : Operation → Bytes
  | .write bytes | .writeThroughDuplicate bytes => bytes
  | .seekThroughDuplicate _ | .flush | .makeInheritable | .environment => []

def next (position : Nat) : Operation → Nat
  | .write bytes | .writeThroughDuplicate bytes => position + bytes.length
  | .seekThroughDuplicate target => target
  | .flush | .makeInheritable | .environment => position

/-- What each operation writes, and where. Most operations write nothing. -/
def writes (position : Nat) : List Operation → List Write
  | [] => []
  | operation :: operations =>
    ⟨position, operation.written⟩ :: writes (operation.next position) operations

end Operation

/-! ## What is put into a file -/

section Put

variable (content : Array UInt8) (position : Nat)

theorem size_put (b : UInt8) : (put content position b).size = max content.size (position + 1) := by
  unfold put
  split
  · simp only [Array.size_set]
    omega
  · simp only [Array.size_push, Array.size_append, Array.size_replicate]
    omega

/-- A byte that is not put anywhere reads as it did, as NUL behind the end. -/
theorem getD_put (b : UInt8) (i : Nat) :
    (put content position b)[i]?.getD Bytes.nul =
      if i = position then b else content[i]?.getD Bytes.nul := by
  unfold put
  split
  · next h =>
    by_cases heq : i = position
    · simp [heq, h]
    · simp [heq, Array.getElem?_set_ne, Ne.symm heq]
  · next h =>
    by_cases hi : i < content.size
    · have hne : i ≠ position := by omega
      simp [Array.getElem?_append, hi, hne]
    · -- behind the old end there is the gap and then the byte
      have heq : i - content.size = position - content.size ↔ i = position := by omega
      simp only [← Array.append_push, Array.getElem?_append, if_neg hi, Array.getElem?_push, heq,
        Array.size_replicate, Array.getElem?_replicate]
      split
      · rfl
      · split <;> simp [hi]

theorem size_overwrite (bytes : Bytes) : (overwrite content position bytes).size =
    if bytes = [] then content.size else max content.size (position + bytes.length) := by
  induction bytes generalizing content position with
  | nil => rfl
  | cons b bytes ih =>
    simp only [overwrite, ih, size_put, List.length_cons]
    by_cases hnil : bytes = [] <;> simp [hnil]
    omega

/-- Overwriting changes the bytes that it covers and no others. -/
theorem getD_overwrite (bytes : Bytes) (i : Nat) :
    (overwrite content position bytes)[i]?.getD Bytes.nul =
      ((Write.mk position bytes).byte? i).getD (content[i]?.getD Bytes.nul) := by
  induction bytes generalizing content position with
  | nil => simp [overwrite]
  | cons b bytes ih =>
    simp only [overwrite, ih, getD_put, Write.byte?_cons]
    split
    · next heq =>
      have hlt : i < position + 1 := by omega
      simp [@Write.byte?_of_lt ⟨position + 1, bytes⟩ i hlt]
    · rfl

/-- What is written at the end is appended. -/
theorem overwrite_size (bytes : Bytes) :
    overwrite content content.size bytes = content ++ bytes.toArray := by
  induction bytes generalizing content with
  | nil => simp [overwrite]
  | cons b bytes ih =>
    have hput : put content content.size b = content.push b := by simp [put]
    have hsize : content.size + 1 = (content.push b).size := by simp
    rw [overwrite, hput, hsize, ih]
    simp

end Put

/-! ## Runs -/

/-- A sink holds the bytes that were written last, and reaches as far as they do. -/
structure Shows (sink : Sink) (writes : List Write) : Prop where
  size_eq : sink.content.size = Write.reach writes
  getD_eq : ∀ i, sink.content[i]?.getD Bytes.nul = (Write.last? writes i).getD Bytes.nul

section Run

variable {sink : Sink} {writes : List Write}

theorem content_apply (sink : Sink) (operation : Operation) :
    (sink.apply operation).content =
      overwrite sink.content sink.position operation.written := by
  cases operation <;> rfl

theorem position_apply (sink : Sink) (operation : Operation) :
    (sink.apply operation).position = operation.next sink.position := by
  cases operation <;> rfl

theorem shows_create (descriptor : Nat) : (create descriptor).1.Shows [] where
  size_eq := rfl
  getD_eq _ := rfl

/-- Whichever operation comes next, the last writer has its bytes. -/
theorem Shows.apply (h : sink.Shows writes) (operation : Operation) :
    (sink.apply operation).Shows (writes ++ [⟨sink.position, operation.written⟩]) where
  size_eq := by
    rw [content_apply, size_overwrite, Write.reach_append_singleton, h.size_eq]
    rfl
  getD_eq i := by
    rw [content_apply, getD_overwrite, Write.last?_append_singleton, h.getD_eq]
    cases (Write.mk sink.position operation.written).byte? i <;> rfl

/-- After operations a sink shows what was written before them and by them. -/
theorem Shows.foldl_apply (h : sink.Shows writes) (operations : List Operation) :
    (operations.foldl Sink.apply sink).Shows
      (writes ++ Operation.writes sink.position operations) := by
  induction operations generalizing sink writes with
  | nil => simpa [Operation.writes] using h
  | cons operation operations ih =>
    have hrun := ih (h.apply operation)
    rwa [position_apply, List.append_assoc] at hrun

/-- Without seeks every write goes to the end. -/
theorem content_foldl_apply {operations : List Operation}
    (hsink : sink.position = sink.content.size)
    (h : ∀ position, .seekThroughDuplicate position ∉ operations) :
    (operations.foldl Sink.apply sink).content =
      sink.content ++ (operations.flatMap Operation.written).toArray := by
  induction operations generalizing sink with
  | nil => simp
  | cons operation operations ih =>
    have hcontent : (sink.apply operation).content =
        sink.content ++ operation.written.toArray := by
      rw [content_apply, hsink, overwrite_size]
    have hposition : (sink.apply operation).position = (sink.apply operation).content.size := by
      rw [position_apply, hcontent, hsink]
      cases operation with
      | seekThroughDuplicate position => exact absurd List.mem_cons_self (h position)
      | write | writeThroughDuplicate | flush | makeInheritable | environment =>
        simp [Operation.next, Operation.written]
    rw [List.foldl_cons, ih hposition fun position hmem => h position (List.mem_cons_of_mem _ hmem),
      hcontent]
    simp

end Run

end Sink

/-! ## Reading back -/

theorem RewoundSink.content_ofFile (content : Bytes) (position : Nat) :
    (ofFile content position).content = content.drop position := by
  simp [ofFile, RewoundSink.content]

/-- Aggregates a rewound sink against a source tree that may change. -/
def LiveWorkspace.aggregateSink (workspace : LiveWorkspace) (sink : RewoundSink) : Outcome :=
  let outcome := workspace.aggregate sink.deliveries
  { outcome with events := outcome.events ++ [.closedSink] }

/-- Against a source tree that does not change, this is what is done to a sink. -/
theorem Workspace.aggregateSink_live (w : Workspace) (sink : RewoundSink) :
    w.live.aggregateSink sink = w.aggregateSink sink := by
  unfold LiveWorkspace.aggregateSink aggregateSink
  rw [aggregate_live]

/-- What comes out is decided by the bytes that arrive. -/
theorem LiveWorkspace.aggregate_of_arrived_eq (w : LiveWorkspace)
    {arrivals arrivals' : List Delivery}
    (h : Delivery.failure? arrivals = none) (h' : Delivery.failure? arrivals' = none)
    (heq : Delivery.arrived arrivals = Delivery.arrived arrivals') :
    w.aggregate arrivals = w.aggregate arrivals' := by
  simp only [aggregate_eq, Reading.ofDeliveries_eq, h, h', heq]

/-- The sink of a file gives what the bytes from its position on give, however they arrive. -/
theorem LiveWorkspace.aggregateSink_ofFile (w : LiveWorkspace) (content : Bytes) (position : Nat)
    {arrivals : List Delivery} (h : ∀ cause, .failed cause ∉ arrivals)
    (harrived : Delivery.arrived arrivals = content.drop position) :
    w.aggregateSink (.ofFile content position) =
      { w.aggregate arrivals with
        events := (w.aggregate arrivals).events ++ [.closedSink] } := by
  have hfile : Delivery.arrived (RewoundSink.ofFile content position).deliveries =
      Delivery.arrived arrivals := by
    simp [RewoundSink.ofFile, Delivery.arrived, harrived]
  unfold aggregateSink
  rw [w.aggregate_of_arrived_eq rfl (Delivery.failure?_eq_none h) hfile]

/-- A rewound sink reaches as far as something was written, and holds at each position what was
written there last or a NUL, wherever the position was left. Without seeks it holds all that was
written, in order. It is aggregated as its bytes are, however they arrive, and so is what a file
holds from any position on. -/
theorem Sink.content_rewind_last_writer (descriptor : Nat) (operations : List Operation) :
    let rewound := (operations.foldl apply (create descriptor).1).rewind
    let writes := Operation.writes 0 operations
    rewound.content.length = Write.reach writes ∧
    (∀ (i : Nat) (h : i < rewound.content.length),
      rewound.content[i] = (Write.last? writes i).getD Bytes.nul) ∧
    ((∀ position, .seekThroughDuplicate position ∉ operations) →
      rewound.content = operations.flatMap Operation.written) ∧
    ∀ (w : LiveWorkspace) (arrivals : List Delivery), (∀ cause, .failed cause ∉ arrivals) →
      let outcome := w.aggregate arrivals
      let closed := { outcome with events := outcome.events ++ [.closedSink] }
      (Delivery.arrived arrivals = rewound.content → w.aggregateSink rewound = closed) ∧
      ∀ content position, Delivery.arrived arrivals = content.drop position →
        w.aggregateSink (.ofFile content position) = closed := by
  intro rewound writes
  have hshows : Shows _ ([] ++ writes) := (shows_create descriptor).foldl_apply operations
  have hcontent : rewound.content =
      (operations.foldl apply (create descriptor).1).content.toList :=
    RewoundSink.content_ofFile _ 0
  refine ⟨?_, ?_, ?_, ?_⟩
  · rw [hcontent, Array.length_toList, hshows.size_eq, List.nil_append]
  · intro i h
    have hbyte := hshows.getD_eq i
    rw [← Array.getElem?_toList, ← hcontent, List.getElem?_eq_getElem h] at hbyte
    exact hbyte
  · intro hseek
    rw [hcontent, content_foldl_apply rfl hseek]
    simp [create]
  · intro w arrivals hfailed outcome closed
    constructor
    · intro harrived
      exact w.aggregateSink_ofFile _ 0 hfailed (harrived.trans hcontent)
    · intro content position
      exact w.aggregateSink_ofFile content position hfailed

/-- Two writers, a gap, a write over old bytes, and a position left behind the end; and two writers
without a seek. -/
theorem Sink.content_rewind_last_writer_gap :
    let operations : List Operation := [.write (Bytes.ofString "ab"), .seekThroughDuplicate 4,
      .writeThroughDuplicate (Bytes.ofString "xy"), .seekThroughDuplicate 1,
      .write (Bytes.ofString "Z"), .write [], .seekThroughDuplicate 9]
    let rewound := (operations.foldl apply (create 3).1).rewind
    let arrivals : List Delivery :=
      [.chunk (Bytes.ofString "aZ"), .interrupted, .chunk ([0, 0] ++ Bytes.ofString "xy")]
    let w : LiveWorkspace := ⟨fun _ => ⟨⟨[Bytes.slash]⟩, fun _ => .other, fun _ => .ok 0⟩, none⟩
    let plain : List Operation :=
      [.write (Bytes.ofString "ab"), .flush, .writeThroughDuplicate (Bytes.ofString "c")]
    rewound.content.length = 6 ∧ (∀ cause, .failed cause ∉ arrivals) ∧
    Delivery.arrived arrivals = rewound.content ∧
    (w.aggregateSink rewound).result = (w.aggregate arrivals).result ∧
    (w.aggregateSink (.ofFile (97 :: Delivery.arrived arrivals) 1)).result =
      (w.aggregate arrivals).result ∧
    (∀ position, .seekThroughDuplicate position ∉ plain) ∧
    (plain.foldl apply (create 3).1).rewind.content = Bytes.ofString "abc" := by
  intro operations rewound arrivals w plain
  have hfailed : ∀ cause, .failed cause ∉ arrivals := by simp [arrivals]
  have harrived : Delivery.arrived arrivals = rewound.content := by decide
  have hseek : ∀ position, .seekThroughDuplicate position ∉ plain := by simp [plain]
  obtain ⟨hlength, -, -, haggregate⟩ := content_rewind_last_writer 3 operations
  obtain ⟨hsink, hfile⟩ := haggregate w arrivals hfailed
  refine ⟨hlength, hfailed, harrived, ?_, ?_, hseek,
    (content_rewind_last_writer 3 plain).2.2.1 hseek⟩
  · rw [hsink harrived]
  · rw [hfile (97 :: Delivery.arrived arrivals) 1 rfl]

end ShellCoverage
