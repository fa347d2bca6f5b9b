import Overseer.Proofs.Relay.Supply

/-!
# The History of a Relay

Callers use the relay in any order, over any number of runs.  A history notes what they did: the
inputs that were attached and what each received, the waits that were opened, and the supplies.
Inputs and waits are numbered in the order in which they came.

- `History.Sound`: what holds of the supplies of a history
- `History.tracks_step`: one call keeps the invariant
- `History.sound_after`: every history is sound
-/

namespace Overseer.Relay

/-! ## Section 1: Histories

A relay outlives the runs that use it, and callers may hold on to it at any time: an answer may come
when a wait has its answer already, when it has expired, or when the run is over.  A history allows
all of that. -/

/-- A call of the relay.  A supply comes with how the attached input answers its calls. -/
inductive Call where
  | attach
  | detach
  | openWait (text : String) (now timeout : Nat)
  | supply (answer : Answer) (replies : PipeReplies)
  | takeExpired (now : Nat)
  | takeNotices

/-- A wait that was opened, and the input that was attached then. -/
structure Opening where
  wait : PromptWait
  input : Option Nat

/-- A supply: the relay that it found, what came of it, the number of the last wait that was
opened until then, and the input that was attached. -/
structure Attempt where
  answer : Answer
  found : Relay
  made : Supplied
  wait : Nat
  input : Option Nat

/-- Whether the supply found a wait to write for. -/
def Attempt.writes (s : Attempt) : Bool := s.found.outstanding

/-- What callers did with a relay.  The openings and the supplies are noted with the input that was
attached then, by its number. -/
structure History where
  relay : Relay
  /-- What each input received, in the order in which they were attached. -/
  received : List (List UInt8)
  openings : List Opening
  supplies : List Attempt

namespace History

/-- Nothing was done yet. -/
def start : History := ⟨empty, [], [], []⟩

/-- The number of the input that is attached, which is the last one. -/
def input? (h : History) : Option Nat :=
  if h.relay.attached then some (h.received.length - 1) else none

/-- What the inputs have received when bytes arrive at the attached one. -/
def receive (h : History) (bytes : List UInt8) : List (List UInt8) :=
  match h.input? with
  | some k => h.received.modify k (· ++ bytes)
  | none => h.received

/-- A supply at the end of a history. -/
def attempt (h : History) (answer : Answer) (replies : PipeReplies) : Attempt :=
  ⟨answer, h.relay, h.relay.supply answer replies, h.openings.length - 1, h.input?⟩

/-- The history after a call. -/
def step (h : History) : Call → History
  | .attach => { h with relay := h.relay.attach, received := h.received ++ [[]] }
  | .detach => { h with relay := h.relay.detach }
  | .openWait text now timeout =>
    match h.relay.openWait? text now timeout with
    | some (true, relay) =>
      { h with
        relay
        openings := h.openings ++ [⟨⟨text, now, now + timeout, none⟩, h.input?⟩] }
    | some (false, relay) => { h with relay }
    | none => h
  | .supply answer replies =>
    let supply := h.attempt answer replies
    { h with
      relay := supply.made.relay
      received := h.receive supply.made.arrived
      supplies := h.supplies ++ [supply] }
  | .takeExpired now => { h with relay := (h.relay.takeExpired now).2 }
  | .takeNotices => { h with relay := h.relay.takeNotices.2 }

/-- The history of calls. -/
def after (calls : List Call) : History := calls.foldl step start

/-- What the supplies wrote to an input, in order. -/
def written (supplies : List Attempt) (k : Nat) : List UInt8 :=
  (supplies.filter fun s => s.writes && s.input == some k).flatMap (·.made.arrived)

/-- What holds of the supplies of a history.  It is said of each wait and of each input, by their
numbers. -/
structure Sound (h : History) : Prop where
  /-- No two supplies write for the same wait. -/
  once : (h.supplies.filter (·.writes)).Pairwise fun s t => s.wait ≠ t.wait
  /-- A supply writes for a wait that was opened, and opened while the input was attached that it
  writes to. -/
  opened : ∀ s ∈ h.supplies, s.writes = true → ∃ opening, h.openings[s.wait]? = some opening ∧
    s.found.wait = some opening.wait ∧ opening.input = s.input
  /-- A supply that finds no wait is refused and changes nothing. -/
  noPrompt : ∀ s ∈ h.supplies, s.found.wait = none →
    s.made.result = .error .noPrompt ∧ s.made.relay = s.found
  /-- A supply that finds a wait with its answer is refused and changes nothing. -/
  alreadyAnswered : ∀ s ∈ h.supplies, ∀ w, s.found.wait = some w → w.isResolved = true →
    s.made.result = .error .alreadyAnswered ∧ s.made.relay = s.found
  /-- An input receives what was written to it and nothing else. -/
  received : ∀ k bytes, h.received[k]? = some bytes → bytes = written h.supplies k
  /-- Nothing is written while no input is attached. -/
  detached : ∀ s ∈ h.supplies, s.input = none → s.made.arrived = []
  /-- What is written is the start of the answer's line, and all of it if the supply succeeds. -/
  arrived : ∀ s ∈ h.supplies, s.writes = true → s.made.arrived <+: lineBytes s.answer ∧
    ∀ acknowledged, s.made.result = .ok acknowledged → s.made.arrived = lineBytes s.answer

/-! ## Section 2: The invariant

A supply writes for the wait that stands in the relay.  So what has to be kept is which wait that
is: the last one opened, and only as long as it has no answer. -/

/-- A sound history whose relay fits it: an input that is attached is the last one, and a wait
without an answer is the last one opened, under the input that is attached, and nobody wrote for
it yet. -/
structure Tracks (h : History) : Prop where
  sound : h.Sound
  attached : h.relay.attached = true → h.received ≠ []
  inputs : ∀ s ∈ h.supplies, ∀ k, s.input = some k → k < h.received.length
  current : ∀ w, h.relay.wait = some w → w.isResolved = false →
    h.openings.getLast? = some ⟨w, h.input?⟩ ∧
      ∀ s ∈ h.supplies, s.writes = true → s.wait ≠ h.openings.length - 1

/-- Before the first call nothing was supplied, opened or written. -/
theorem tracks_start : start.Tracks := by
  -- no answer was supplied, so every clause about supplies holds of none
  have hnone : ∀ s, s ∉ start.supplies := fun s => List.not_mem_nil
  have hsound : start.Sound :=
    { once := .nil
      opened := fun s hs => absurd hs (hnone s)
      noPrompt := fun s hs => absurd hs (hnone s)
      alreadyAnswered := fun s hs => absurd hs (hnone s)
      received := fun k bytes hk => absurd hk (by simp [start])
      detached := fun s hs => absurd hs (hnone s)
      arrived := fun s hs => absurd hs (hnone s) }
  exact
    { sound := hsound
      attached := fun hattached => absurd hattached Bool.false_ne_true
      inputs := fun s hs => absurd hs (hnone s)
      current := fun w hw => absurd hw nofun }

/-- A change of the relay alone keeps the invariant if it attaches nothing and opens nothing. -/
theorem Tracks.withRelay {h : History} (htracks : h.Tracks) {relay : Relay}
    (hattached : relay.attached = true → h.relay.attached = true)
    (hwait : ∀ w, relay.wait = some w → w.isResolved = false →
      h.relay.wait = some w ∧ relay.attached = h.relay.attached) :
    { h with relay }.Tracks where
  -- the log of supplies and openings stays, and soundness speaks of nothing else
  sound :=
    ⟨htracks.sound.once, htracks.sound.opened, htracks.sound.noPrompt,
      htracks.sound.alreadyAnswered, htracks.sound.received, htracks.sound.detached,
        htracks.sound.arrived⟩
  attached hrelay := htracks.attached (hattached hrelay)
  inputs := htracks.inputs
  current w hw hresolved := by
    -- a wait that is still open was there before, with the same input behind it
    obtain ⟨hbefore, hsame⟩ := hwait w hw hresolved
    have hinput : input? { h with relay } = h.input? := by simp only [input?, hsame]
    rw [hinput]
    exact htracks.current w hbefore hresolved

/-- A supply that writes has a number of a wait that was opened. -/
theorem Sound.wait_lt {h : History} (hsound : h.Sound) {s : Attempt} (hs : s ∈ h.supplies)
    (hwrites : s.writes = true) : s.wait < h.openings.length := by
  obtain ⟨opening, hopening, -⟩ := hsound.opened s hs hwrites
  exact (List.getElem?_eq_some_iff.mp hopening).1

theorem written_eq_nil {supplies : List Attempt} {k : Nat}
    (h : ∀ s ∈ supplies, s.input ≠ some k) : written supplies k = [] := by
  have hnone : supplies.filter (fun s => s.writes && s.input == some k) = [] := by
    refine List.filter_eq_nil_iff.mpr fun s hs => ?_
    simp [h s hs]
  rw [written, hnone, List.flatMap_nil]

theorem written_concat (supplies : List Attempt) (s : Attempt) (k : Nat) :
    written (supplies ++ [s]) k =
      written supplies k ++ if s.writes && s.input == some k then s.made.arrived else [] := by
  rw [written, List.filter_append, List.flatMap_append, written]
  congr 1
  cases hs : s.writes && s.input == some k <;> simp [hs]

/-! ## Section 3: One call

An attachment begins a new input, and the waits of the old one are gone with it.  The other calls
either take something off or put a wait in the place of a settled one; the supply is the call with
an argument. -/

section Step

variable {h : History}

/-- A new input is one more place to write to, and nothing has been written there yet. -/
theorem tracks_attach (htracks : h.Tracks) : (h.step .attach).Tracks where
  sound := by
    refine ⟨htracks.sound.once, htracks.sound.opened, htracks.sound.noPrompt,
      htracks.sound.alreadyAnswered, fun k bytes hk => ?_, htracks.sound.detached,
      htracks.sound.arrived⟩
    -- an input that was there before, or the new one
    rcases Nat.lt_or_ge k h.received.length with hlt | hge
    · exact htracks.sound.received k bytes (by rwa [step, List.getElem?_append_left hlt] at hk)
    · -- the new input, to which nothing was written yet
      have hnew : bytes = [] := by
        have := List.getElem?_eq_some_iff.mp hk
        simp only [step, List.length_append, List.length_singleton] at this
        obtain ⟨hlt, rfl⟩ := this
        simp [List.getElem_append_right hge]
      rw [hnew]
      refine (written_eq_nil fun s hs hinput => ?_).symm
      exact absurd (htracks.inputs s hs k hinput) (Nat.not_lt.mpr hge)
  attached _ := by simp [step]
  inputs s hs k hk := by
    have := htracks.inputs s hs k hk
    simp only [step, List.length_append, List.length_singleton]
    omega
  -- a relay that is attached begins with no wait
  current := nofun

theorem tracks_detach (htracks : h.Tracks) : (h.step .detach).Tracks := by
  refine htracks.withRelay nofun fun w hw hresolved => ?_
  -- a wait that is kept has its answer
  simp only [detach] at hw
  split at hw
  · exact absurd hw nofun
  · next hidle => exact absurd (outstanding_iff.mpr ⟨w, hw, hresolved⟩) hidle

/-- A wait that expires is taken off, and no input is touched. -/
theorem tracks_takeExpired (htracks : h.Tracks) (now : Nat) :
    (h.step (.takeExpired now)).Tracks := by
  cases hwait : h.relay.wait with
  -- no wait, a wait that expires now, or one that stays: only the second is taken off
  | none =>
    have hsame : (h.relay.takeExpired now).2 = h.relay := by simp only [takeExpired, hwait]
    refine htracks.withRelay (by rw [hsame]; exact id) fun w hw _ => ?_
    rw [hsame] at hw ⊢
    exact ⟨hw, rfl⟩
  | some w' =>
    by_cases hexpired : (!w'.isResolved && w'.expiresAt ≤ now) = true
    · have htaken : (h.relay.takeExpired now).2 = { h.relay with wait := none } := by
        simp only [takeExpired, hwait, hexpired, if_true]
      refine htracks.withRelay (by rw [htaken]; exact id) fun w hw _ => ?_
      rw [htaken] at hw
      exact absurd hw nofun
    · have hsame : (h.relay.takeExpired now).2 = h.relay := by
        simp only [takeExpired, hwait, hexpired, Bool.false_eq_true, if_false]
      refine htracks.withRelay (by rw [hsame]; exact id) fun w hw _ => ?_
      rw [hsame] at hw ⊢
      exact ⟨hw, rfl⟩

theorem tracks_takeNotices (htracks : h.Tracks) : (h.step .takeNotices).Tracks :=
  htracks.withRelay id fun _ hw _ => ⟨hw, rfl⟩

/-- Opening a wait changes nothing or puts the wait in the place of one that is settled. -/
theorem step_openWait (text : String) (now timeout : Nat) :
    h.step (.openWait text now timeout) = h ∨
      h.step (.openWait text now timeout) =
        { h with
          relay := { h.relay with wait := some ⟨text, now, now + timeout, none⟩ }
          openings := h.openings ++ [⟨⟨text, now, now + timeout, none⟩, h.input?⟩] } := by
  simp only [step, openWait?]
  cases h.relay.outstanding with
  -- a wait is in the way
  | true => exact .inl rfl
  | false =>
    -- a moment that the clock cannot show
    by_cases hfits : now + timeout < clockLimit
    · rw [if_neg Bool.false_ne_true, if_pos hfits]
      exact .inr rfl
    · rw [if_neg Bool.false_ne_true, if_neg hfits]
      exact .inl rfl

theorem tracks_openWait (htracks : h.Tracks) (text : String) (now timeout : Nat) :
    (h.step (.openWait text now timeout)).Tracks := by
  rcases step_openWait text now timeout with hstep | hstep
  · rwa [hstep]
  · rw [hstep]
    refine ⟨?_, htracks.attached, htracks.inputs, fun w hw _ => ?_⟩
    · refine ⟨htracks.sound.once, fun s hs hwrites => ?_, htracks.sound.noPrompt,
        htracks.sound.alreadyAnswered, htracks.sound.received, htracks.sound.detached,
        htracks.sound.arrived⟩
      obtain ⟨opening, hopening, hfound⟩ := htracks.sound.opened s hs hwrites
      refine ⟨opening, ?_, hfound⟩
      rw [List.getElem?_append_left (htracks.sound.wait_lt hs hwrites)]
      exact hopening
    · cases hw
      refine ⟨List.getLast?_concat, fun s hs hwrites => ?_⟩
      -- the number of the new wait is larger than any number before
      have := htracks.sound.wait_lt hs hwrites
      simp only [List.length_append, List.length_singleton]
      omega

theorem length_receive (bytes : List UInt8) : (h.receive bytes).length = h.received.length := by
  rw [receive]
  split
  · exact List.length_modify ..
  · rfl

/-- What an input receives from a supply, whether or not the supply writes. -/
theorem getElem?_receive_attempt (answer : Answer) (replies : PipeReplies) (k : Nat) :
    (h.receive (h.attempt answer replies).made.arrived)[k]? =
      h.received[k]?.map fun bytes => bytes ++
        if (h.attempt answer replies).writes && (h.attempt answer replies).input == some k
        then (h.attempt answer replies).made.arrived else [] := by
  have hidle : (h.attempt answer replies).writes = false →
      (h.attempt answer replies).made.arrived = [] := fun hidle => (supply_idle hidle).2
  have hinput : (h.attempt answer replies).input = h.input? := rfl
  rw [hinput, receive]
  -- without an input nothing is noted as received
  cases hattached : h.input? with
  | none => simp
  | some i =>
    rw [List.getElem?_modify]
    cases hwrites : (h.attempt answer replies).writes with
    | false => simp [hidle hwrites]
    | true =>
      by_cases hk : i = k
      · simp [hk]
      · simp [hk]

theorem forall_mem_concat {supplies : List Attempt} {new : Attempt} {P : Attempt → Prop}
    (hsupplies : ∀ s ∈ supplies, P s) (hnew : P new) : ∀ s ∈ supplies ++ [new], P s :=
  List.forall_mem_append.mpr ⟨hsupplies, List.forall_mem_singleton.mpr hnew⟩

theorem sound_supply (htracks : h.Tracks) (answer : Answer) (replies : PipeReplies) :
    (h.step (.supply answer replies)).Sound where
  once := by
    simp only [step, List.filter_append]
    refine List.pairwise_append.mpr ⟨htracks.sound.once, ?_, fun s hs s' hs' => ?_⟩
    · exact List.Pairwise.filter _ (List.pairwise_singleton _ _)
    · -- the new supply writes for the current wait, for which nobody wrote yet
      obtain ⟨hs', hwrites⟩ := List.mem_filter.mp hs'
      obtain ⟨hs, hwrote⟩ := List.mem_filter.mp hs
      cases List.mem_singleton.mp hs'
      obtain ⟨w, hwait, hw⟩ := outstanding_iff.mp hwrites
      exact (htracks.current w hwait hw).2 s hs hwrote
  opened := by
    refine forall_mem_concat htracks.sound.opened fun hwrites => ?_
    -- the wait that is found is the last one opened
    obtain ⟨w, hwait, hw⟩ := outstanding_iff.mp hwrites
    refine ⟨⟨w, h.input?⟩, ?_, hwait, rfl⟩
    rw [← (htracks.current w hwait hw).1, List.getLast?_eq_getElem?]
    rfl
  noPrompt := by
    refine forall_mem_concat htracks.sound.noPrompt fun (hwait : h.relay.wait = none) => ?_
    simp only [attempt, supply_noPrompt hwait, and_self]
  alreadyAnswered := by
    refine forall_mem_concat htracks.sound.alreadyAnswered
      fun w (hwait : h.relay.wait = some w) hw => ?_
    simp only [attempt, supply_alreadyAnswered hwait hw, and_self]
  received k bytes hk := by
    -- the bytes go to the input that the new supply notes, behind those of earlier supplies
    simp only [step, getElem?_receive_attempt] at hk
    obtain ⟨before, hbefore, rfl⟩ := Option.map_eq_some_iff.mp hk
    rw [step, written_concat, htracks.sound.received k before hbefore]
  detached := by
    refine forall_mem_concat htracks.sound.detached fun hinput => supply_detached ?_
    simpa [attempt, input?] using hinput
  arrived := by
    refine forall_mem_concat htracks.sound.arrived fun hwrites => ?_
    obtain ⟨w, hwait, hw⟩ : ∃ w, h.relay.wait = some w ∧ w.isResolved = false :=
      outstanding_iff.mp hwrites
    obtain ⟨notice, result, hsupply, hok⟩ :=
      supply_outstanding answer replies hwait hw
    simp only [attempt, hsupply]
    exact ⟨writeAnswer_begins, fun acknowledged h => (hok acknowledged h).2⟩

theorem tracks_supply (htracks : h.Tracks) (answer : Answer) (replies : PipeReplies) :
    (h.step (.supply answer replies)).Tracks where
  sound := sound_supply htracks answer replies
  attached hattached := by
    have hbefore := htracks.attached (supply_attached.symm.trans hattached)
    intro hnil
    have hlength := congrArg List.length hnil
    rw [step, length_receive] at hlength
    exact hbefore (List.eq_nil_of_length_eq_zero hlength)
  inputs := by
    simp only [step, length_receive]
    refine forall_mem_concat htracks.inputs fun k hk => ?_
    simp only [attempt, input?] at hk
    split at hk
    · next hattached =>
      have := List.length_pos_iff.mpr (htracks.attached hattached)
      have := Option.some.inj hk
      omega
    · exact absurd hk nofun
  current w hwait hw := by
    -- a supply leaves no wait without an answer
    have hidle : (h.step (.supply answer replies)).relay.outstanding = false := supply_settles
    rw [outstanding_iff.mpr ⟨w, hwait, hw⟩] at hidle
    exact absurd hidle nofun

/-- **One call** keeps the invariant.  Only a supply that finds a wait writes, and it leaves none
behind that a later one could write for. -/
theorem tracks_step (htracks : h.Tracks) (call : Call) : (h.step call).Tracks := by
  cases call with
  | attach => exact tracks_attach htracks
  | detach => exact tracks_detach htracks
  | openWait text now timeout => exact tracks_openWait htracks text now timeout
  | supply answer replies => exact tracks_supply htracks answer replies
  | takeExpired now => exact tracks_takeExpired htracks now
  | takeNotices => exact tracks_takeNotices htracks

end Step

/-! ## Section 4: Whole histories -/

theorem tracks_foldl {h : History} (htracks : h.Tracks) (calls : List Call) :
    (calls.foldl step h).Tracks := by
  induction calls generalizing h with
  | nil => exact htracks
  | cons call calls ih => exact ih (tracks_step htracks call)

/-- **Every history is sound**: at most one supply writes for a wait, the others change nothing,
and an input receives only answers to waits that were opened while it was attached. -/
theorem sound_after (calls : List Call) : (after calls).Sound :=
  (tracks_foldl tracks_start calls).sound

/-- A late answer to the prompt of one run does not reach the next run. -/
example :
    (after [.attach, .openWait "ok?" 0 1000, .supply .yes ⟨[.accepts 1, .again], none⟩, .detach,
      .attach, .supply .no ⟨[], none⟩]).received = [lineBytes .yes, []] := by
  decide +kernel

end History

end Overseer.Relay
