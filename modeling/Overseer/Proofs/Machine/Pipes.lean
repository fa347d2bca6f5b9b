import Overseer.Host.Turns

/-!
# What Goes Through a Pipe

Processes write into pipes and read from them, and a worker gets the output of its process out of a
pipe.  A pipe loses nothing, makes nothing up and keeps the order: what was taken out of it and what
is still in it is what was in it before and what was put into it since, whatever else is read and
written meanwhile.

- `Machine.Transfer.conserves_perform`: one transfer conserves the bytes of every pipe
- `Machine.conserves_performAll`: so do any transfers
- `Machine.length_performAll_lt`: a pipe holds less than its capacity and one write
- `Machine.read_ended_iff`, `Machine.write_broken_iff`: when a reader and a writer learn of an end
- `Host.pump_spec`: what a worker gets is what stood in the pipe of its run
-/

namespace Overseer

namespace Machine

variable {β : Type} {m : Machine β} {pipe other : Nat}

/-! ## Section 1: The bytes in a pipe

A pipe is an entry in a list, by its number.  A change of one entry is seen in that entry only. -/

/-- The numbers of the pipes that were made. -/
def pipeNames (m : Machine β) : List Nat := m.pipes.map Prod.fst

@[simp] theorem pipeNames_setPipe (bytes : List UInt8) :
    (m.setPipe pipe bytes).pipeNames = m.pipeNames := by
  rw [pipeNames, setPipe, List.map_map]
  refine List.map_congr_left fun entry _ => ?_
  by_cases hentry : entry.1 = pipe <;> simp [hentry]

theorem pipeBytes_setPipe_of_ne (h : other ≠ pipe) (bytes : List UInt8) :
    (m.setPipe pipe bytes).pipeBytes other = m.pipeBytes other := by
  simp only [pipeBytes, setPipe]
  induction m.pipes with
  | nil => rfl
  | cons entry pipes ih =>
    rw [List.map_cons, List.find?_cons, List.find?_cons]
    by_cases hentry : entry.1 = pipe
    · -- the entry that is changed is not the one that is looked for
      have hother : (pipe == other) = false := beq_false_of_ne (Ne.symm h)
      simpa [hentry, hother] using ih
    · cases hother : entry.1 == other with
      | true => simp [hentry, hother]
      | false => simpa [hentry, hother] using ih

theorem pipeBytes_setPipe_self (h : pipe ∈ m.pipeNames) (bytes : List UInt8) :
    (m.setPipe pipe bytes).pipeBytes pipe = bytes := by
  rw [pipeNames] at h
  simp only [pipeBytes, setPipe]
  -- entry by entry, up to the first one with the name of the pipe
  generalize m.pipes = pipes at h
  induction pipes with
  | nil => exact absurd h List.not_mem_nil
  | cons entry pipes ih =>
    rw [List.map_cons, List.find?_cons]
    by_cases hentry : entry.1 = pipe
    · simp [hentry]
    · have hname : (entry.1 == pipe) = false := beq_false_of_ne hentry
      have hlater : pipe ∈ pipes.map Prod.fst := (List.mem_cons.mp h).resolve_left (Ne.symm hentry)
      rw [hname, if_neg Bool.false_ne_true, hname]
      exact ih hlater

/-! ## Section 2: Transfers

A transfer is an attempt: it may find nothing to read, no room, or nobody on the other side, and
then nothing goes over.  What did go over is read off the answer that the process gets. -/

/-- A process reads from something that is open, or writes into it.  Other things that a machine
does leave the bytes in its pipes alone. -/
inductive Transfer where
  | read (h : Handle) (limit : Nat)
  | write (h : Handle) (bytes : List UInt8)

namespace Transfer

/-- The machine behind a transfer. -/
def perform (m : Machine β) : Transfer → Machine β
  | .read h limit => (m.read h limit).2
  | .write h bytes => (m.write h bytes).2

/-- The bytes that a reader takes out of a pipe. -/
def taken (m : Machine β) (pipe : Nat) : Transfer → List UInt8
  | .read h limit =>
    match (m.read h limit).1 with
    | .bytes bytes => if h = .pipeExit pipe then bytes else []
    | _ => []
  | .write .. => []

/-- The bytes that a writer puts into a pipe. -/
def put (m : Machine β) (pipe : Nat) : Transfer → List UInt8
  | .read .. => []
  | .write h bytes =>
    match (m.write h bytes).1 with
    | .done => if h = .pipeEntry pipe then bytes else []
    | _ => []

end Transfer

/-! Reading and writing through something that is no pipe leaves the pipes alone. -/

theorem pipes_read {h : Handle} (hpipe : ∀ pipe, h ≠ .pipeExit pipe) (limit : Nat) :
    (m.read h limit).2.pipes = m.pipes := by
  -- only the exit of a pipe is read from a pipe
  cases h with
  | pipeExit other => exact absurd rfl (hpipe other)
  | file id =>
    simp only [read]
    split
    · rfl
    · split
      · rfl
      · split <;> rfl
  | _ => rfl

theorem pipes_write {h : Handle} (hpipe : ∀ pipe, h ≠ .pipeEntry pipe) (bytes : List UInt8) :
    (m.write h bytes).2.pipes = m.pipes := by
  -- only the entry of a pipe is written to a pipe
  cases h with
  | pipeEntry other => exact absurd rfl (hpipe other)
  | file id =>
    simp only [write]
    split
    · rfl
    · split <;> rfl
  | _ => rfl

/-- What a reader at a pipe finds: the bytes at the front, or nothing. -/
theorem read_pipeExit (pipe limit : Nat) :
    (m.pipeBytes pipe = [] ∧ m.read (.pipeExit pipe) limit =
        (if m.isOpen (.pipeEntry pipe) then .blocked else .ended, m)) ∨
      m.pipeBytes pipe ≠ [] ∧ m.read (.pipeExit pipe) limit =
        (.bytes ((m.pipeBytes pipe).take limit),
          m.setPipe pipe ((m.pipeBytes pipe).drop limit)) := by
  cases hbytes : m.pipeBytes pipe with
  | nil => exact .inl ⟨rfl, by simp only [read, hbytes]⟩
  | cons b bytes => exact .inr ⟨List.cons_ne_nil b bytes, by simp only [read, hbytes]⟩

/-- What a writer at a pipe finds: that nobody can read, that the pipe is full, or room. -/
theorem write_pipeEntry (pipe : Nat) (bytes : List UInt8) :
    (m.isOpen (.pipeExit pipe) = false ∧ m.write (.pipeEntry pipe) bytes = (.broken, m)) ∨
      (pipeCapacity ≤ (m.pipeBytes pipe).length ∧
        m.write (.pipeEntry pipe) bytes = (.blocked, m)) ∨
      (m.pipeBytes pipe).length < pipeCapacity ∧
        m.write (.pipeEntry pipe) bytes = (.done, m.setPipe pipe (m.pipeBytes pipe ++ bytes)) := by
  -- whether a reader is left is looked at before how full the pipe is
  cases hopen : m.isOpen (.pipeExit pipe) with
  | false => exact .inl ⟨rfl, by simp [write, hopen]⟩
  | true =>
    by_cases hfull : pipeCapacity ≤ (m.pipeBytes pipe).length
    · exact .inr (.inl ⟨hfull, by simp [write, hopen, hfull]⟩)
    · exact .inr (.inr ⟨Nat.lt_of_not_le hfull, by simp [write, hopen, hfull]⟩)

namespace Transfer

/-- No transfer makes a pipe or takes one away. -/
@[simp] theorem pipeNames_perform (t : Transfer) : (t.perform m).pipeNames = m.pipeNames := by
  -- away from its end of a pipe a transfer touches none, and at one it only changes the contents
  cases t with
  | read h limit =>
    by_cases hpipe : ∃ other, h = .pipeExit other
    · obtain ⟨other, rfl⟩ := hpipe
      rcases m.read_pipeExit other limit with ⟨-, hread⟩ | ⟨-, hread⟩
      · rw [perform, hread]
      · rw [perform, hread, pipeNames_setPipe]
    · rw [perform, pipeNames, pipes_read fun other hother => hpipe ⟨other, hother⟩]
      rfl
  | write h bytes =>
    by_cases hpipe : ∃ other, h = .pipeEntry other
    · obtain ⟨other, rfl⟩ := hpipe
      rcases m.write_pipeEntry other bytes with ⟨-, hwrite⟩ | ⟨-, hwrite⟩ | ⟨-, hwrite⟩
      · rw [perform, hwrite]
      · rw [perform, hwrite]
      · rw [perform, hwrite, pipeNames_setPipe]
    · rw [perform, pipeNames, pipes_write fun other hother => hpipe ⟨other, hother⟩]
      rfl

theorem conserves_read (h : pipe ∈ m.pipeNames) (handle : Handle) (limit : Nat) :
    taken m pipe (.read handle limit) ++ (perform m (.read handle limit)).pipeBytes pipe =
      m.pipeBytes pipe := by
  by_cases hpipe : ∃ other, handle = .pipeExit other
  · obtain ⟨other, rfl⟩ := hpipe
    rcases m.read_pipeExit other limit with ⟨-, hread⟩ | ⟨-, hread⟩
    · -- nothing is taken, whether a writer is left or not
      simp only [taken, perform, hread]
      cases m.isOpen (.pipeEntry other) <;> rfl
    · simp only [taken, perform, hread]
      by_cases hother : other = pipe
      · subst hother
        rw [if_pos rfl, pipeBytes_setPipe_self h, List.take_append_drop]
      · rw [if_neg fun heq => hother (Handle.pipeExit.inj heq), List.nil_append,
          pipeBytes_setPipe_of_ne (Ne.symm hother)]
  · have hnone : taken m pipe (.read handle limit) = [] := by
      simp only [taken]
      split
      · exact if_neg fun heq => hpipe ⟨pipe, heq⟩
      · rfl
    rw [hnone, List.nil_append, perform, pipeBytes,
      pipes_read fun other hother => hpipe ⟨other, hother⟩]
    rfl

theorem conserves_write (h : pipe ∈ m.pipeNames) (handle : Handle) (bytes : List UInt8) :
    (perform m (.write handle bytes)).pipeBytes pipe =
      m.pipeBytes pipe ++ put m pipe (.write handle bytes) := by
  by_cases hpipe : ∃ other, handle = .pipeEntry other
  · obtain ⟨other, rfl⟩ := hpipe
    rcases m.write_pipeEntry other bytes with ⟨-, hwrite⟩ | ⟨-, hwrite⟩ | ⟨-, hwrite⟩
    · simp only [put, perform, hwrite, List.append_nil]
    · simp only [put, perform, hwrite, List.append_nil]
    · simp only [put, perform, hwrite]
      by_cases hother : other = pipe
      · subst hother
        rw [if_pos rfl, pipeBytes_setPipe_self h]
      · rw [if_neg fun heq => hother (Handle.pipeEntry.inj heq), List.append_nil,
          pipeBytes_setPipe_of_ne (Ne.symm hother)]
  · have hnone : put m pipe (.write handle bytes) = [] := by
      simp only [put]
      split
      · exact if_neg fun heq => hpipe ⟨pipe, heq⟩
      · rfl
    rw [hnone, List.append_nil, perform, pipeBytes,
      pipes_write fun other hother => hpipe ⟨other, hother⟩]
    rfl

/-- **A transfer conserves the bytes of every pipe**: what is taken out stood at the front, and what
is put in comes behind. -/
theorem conserves_perform (h : pipe ∈ m.pipeNames) (t : Transfer) :
    t.taken m pipe ++ (t.perform m).pipeBytes pipe = m.pipeBytes pipe ++ t.put m pipe := by
  cases t with
  | read handle limit => rw [conserves_read h, put, List.append_nil]
  | write handle bytes => rw [conserves_write h, taken, List.nil_append]

end Transfer

/-! ## Section 3: Any transfers

The books of one transfer are put one behind the other.  The transfers may be those of any
processes, in any order, and on any other pipes and files as well. -/

/-- The machine behind transfers. -/
def performAll (m : Machine β) (ts : List Transfer) : Machine β :=
  ts.foldl (fun m t => t.perform m) m

/-- The bytes that transfers take out of a pipe, in order. -/
def takenFrom (pipe : Nat) : Machine β → List Transfer → List UInt8
  | _, [] => []
  | m, t :: ts => t.taken m pipe ++ takenFrom pipe (t.perform m) ts

/-- The bytes that transfers put into a pipe, in order. -/
def putInto (pipe : Nat) : Machine β → List Transfer → List UInt8
  | _, [] => []
  | m, t :: ts => t.put m pipe ++ putInto pipe (t.perform m) ts

/-- **A pipe is a queue**: whatever is read and written, the bytes that were taken out of it and
those that are still in it are those that were in it and those that were put into it since, in
order. -/
theorem conserves_performAll (h : pipe ∈ m.pipeNames) (ts : List Transfer) :
    takenFrom pipe m ts ++ (m.performAll ts).pipeBytes pipe =
      m.pipeBytes pipe ++ putInto pipe m ts := by
  induction ts generalizing m with
  | nil => exact (List.append_nil _).symm
  | cons t ts ih =>
    -- the first transfer, and then the others from the machine that it leaves behind
    have hlater := ih (m := t.perform m) (by rw [Transfer.pipeNames_perform]; exact h)
    calc takenFrom pipe m (t :: ts) ++ (m.performAll (t :: ts)).pipeBytes pipe
        = t.taken m pipe ++ (takenFrom pipe (t.perform m) ts ++
            ((t.perform m).performAll ts).pipeBytes pipe) := List.append_assoc ..
      _ = t.taken m pipe ++ (t.perform m).pipeBytes pipe ++ putInto pipe (t.perform m) ts := by
          rw [hlater, List.append_assoc]
      _ = m.pipeBytes pipe ++ putInto pipe m (t :: ts) := by
          rw [Transfer.conserves_perform h, List.append_assoc]
          rfl

/-! ## Section 4: How full a pipe gets

A write goes in as a whole or waits, and it goes in as long as there is any room.  So the last one
may go past the capacity, by what one write may have. -/

/-- A transfer that writes no more than a number of bytes at once. -/
def Transfer.Fits (limit : Nat) : Transfer → Prop
  | .read .. => True
  | .write _ bytes => bytes.length ≤ limit

/-- Only a pipe that has room takes bytes. -/
theorem Transfer.put_cases {limit : Nat} {t : Transfer} (hfits : t.Fits limit) :
    t.put m pipe = [] ∨
      (m.pipeBytes pipe).length < pipeCapacity ∧ (t.put m pipe).length ≤ limit := by
  cases t with
  | read handle limit => exact .inl rfl
  | write handle bytes =>
    by_cases hpipe : handle = .pipeEntry pipe
    · subst hpipe
      rcases m.write_pipeEntry pipe bytes with ⟨-, hwrite⟩ | ⟨-, hwrite⟩ | ⟨hroom, hwrite⟩
      · exact .inl (by simp only [put, hwrite])
      · exact .inl (by simp only [put, hwrite])
      · have hput : put m pipe (.write (.pipeEntry pipe) bytes) = bytes := by
          simp only [put, hwrite, if_true]
        exact .inr ⟨hroom, by rw [hput]; exact hfits⟩
    · refine .inl ?_
      -- a write to anything else puts nothing into this pipe
      simp only [put, if_neg hpipe]
      split <;> rfl

/-- **A pipe holds less than its capacity and one write**, whatever is read and written: a writer
that finds it full has to wait. -/
theorem length_performAll_lt {limit : Nat} (h : pipe ∈ m.pipeNames)
    (hlength : (m.pipeBytes pipe).length < pipeCapacity + limit) {ts : List Transfer}
    (hfits : ∀ t ∈ ts, t.Fits limit) :
    ((m.performAll ts).pipeBytes pipe).length < pipeCapacity + limit := by
  induction ts generalizing m with
  | nil => exact hlength
  | cons t ts ih =>
    -- what the books of one transfer say about lengths
    have hbooks := congrArg List.length (Transfer.conserves_perform h t)
    simp only [List.length_append] at hbooks
    refine ih (m := t.perform m) (by rw [Transfer.pipeNames_perform]; exact h) ?_
      fun later hlater => hfits later (List.mem_cons_of_mem t hlater)
    have hfit := hfits t List.mem_cons_self
    obtain hnone | ⟨hroom, hput⟩ : t.put m pipe = [] ∨
        (m.pipeBytes pipe).length < pipeCapacity ∧ (t.put m pipe).length ≤ limit :=
      Transfer.put_cases hfit
    · rw [hnone, List.length_nil] at hbooks
      omega
    · omega

/-! ## Section 5: The end of a pipe

An end is told to nobody who could still be served: a reader learns of it behind the last byte, and
a writer only when there is no reader. -/

/-- **A reader learns of the end only when nothing is left** and nobody can write any more. -/
theorem read_ended_iff (pipe limit : Nat) :
    (m.read (.pipeExit pipe) limit).1 = .ended ↔
      m.pipeBytes pipe = [] ∧ m.isOpen (.pipeEntry pipe) = false := by
  -- bytes that are left are handed out first, so only an empty pipe can be at its end
  rcases m.read_pipeExit pipe limit with ⟨hempty, hread⟩ | ⟨hbytes, hread⟩
  · rw [hread]
    cases m.isOpen (.pipeEntry pipe) <;> simp [hempty]
  · rw [hread]
    refine ⟨fun hended => ?_, fun hempty => absurd hempty.1 hbytes⟩
    cases hended

/-- **A writer learns that a pipe is broken** exactly when nobody can read any more. -/
theorem write_broken_iff (pipe : Nat) (bytes : List UInt8) :
    (m.write (.pipeEntry pipe) bytes).1 = .broken ↔ m.isOpen (.pipeExit pipe) = false := by
  cases hopen : m.isOpen (.pipeExit pipe) with
  | false => simp [write, hopen]
  | true =>
    simp only [write, hopen, Bool.not_true, Bool.false_eq_true, if_false]
    split <;> simp

end Machine

/-! ## Section 6: From a pipe to a worker

A worker does not read from the pipe itself: a chunk is pumped from the pipe into the queue of its
reader.  Nothing is held back on the way, and the end goes the same way as the bytes. -/

namespace Host

variable {h h' : Host} {number pipe : Nat} {r : Run}

/-- **What a worker gets out of the pipe of its run.**  Some bytes come from the front of the pipe
and the others stay; or the worker is told of the end, and then nothing is left in the pipe and
nobody can write into it any more.  Nothing is taken while the queue of the worker is full. -/
theorem pump_spec (hout : r.output = some pipe) (hpump : h.pump number r = some h') :
    r.worker.reader.queue.length < Run.queueLimit ∧
      ((h.machine.pipeBytes pipe ≠ [] ∧
        h' = ({ h with
            machine :=
              h.machine.setPipe pipe ((h.machine.pipeBytes pipe).drop Reader.chunkBytes) } :
            Host).modifyRun number fun r =>
          { r with
            worker := r.worker.arrive
              (.bytes ((h.machine.pipeBytes pipe).take Reader.chunkBytes)) }) ∨
      (h.machine.pipeBytes pipe = [] ∧ h.machine.isOpen (.pipeEntry pipe) = false ∧
        h' = ({ h with machine := h.machine.letGo (.pipeExit pipe) } : Host).modifyRun number
          fun r => { r with worker := r.worker.arrive .ended, output := none })) := by
  by_cases hfull : Run.queueLimit ≤ r.worker.reader.queue.length
  · simp [pump, hout, hfull] at hpump
  · refine ⟨Nat.lt_of_not_le hfull, ?_⟩
    simp only [pump, hout, if_neg hfull] at hpump
    rcases h.machine.read_pipeExit pipe Reader.chunkBytes with ⟨hempty, hread⟩ | ⟨hbytes, hread⟩
    · cases hopen : h.machine.isOpen (.pipeEntry pipe) with
      | true =>
        -- a writer is left, so there is nothing to tell the worker yet
        rw [hread, hopen, if_pos rfl] at hpump
        exact nomatch hpump
      | false =>
        rw [hread, hopen, if_neg Bool.false_ne_true] at hpump
        exact .inr ⟨hempty, rfl, (Option.some.inj hpump).symm⟩
    · rw [hread] at hpump
      exact .inl ⟨hbytes, (Option.some.inj hpump).symm⟩

end Host

end Overseer
