import Mathlib.Data.List.DropRight
import Overseer.Proofs.Sink.Ledger
import Overseer.Proofs.Sink.Receipt

/-!
# Following a Channel

The console follows a run by reading its channel event by event.  What the terminal makes of the
writing, whether it takes it, fails or cannot be flushed, decides nothing: what is read, the prompts
that are met, the outcome that is returned and what is left in the channel depend on the events
alone.

A terminal answers every write as it likes, in the light of everything that was written to it; the
terminals of `Console` are those that answer alike every time.

- `Channel.queue_afterRun`: what a channel holds when its run has let go of it
- `Screen.follow_eq`: what following reads, shows and returns
- `Screen.followed_alike`: the same for every terminal
-/

namespace Overseer

/-! ## Section 1: Terminals that answer as they like

A writer has states of its own, so a terminal may take some writes and fail others, and may change
its mind about the same text.  Flushing is a write of nothing.  Following shows each event and looks
at the answer never. -/

/-- Something that answers writes, given by its states. -/
class Writer (ω : Type) where
  /-- Answers the calls that write some bytes and the flush behind them. -/
  answer : ω → List UInt8 → PipeReplies × ω

instance : Writer Pipe where
  answer pipe bytes := (pipe.replies bytes.length, pipe)

/-- A terminal: how it answers writes, whether it shows colours, and what it has shown. -/
structure Screen (ω : Type) where
  writer : ω
  color : Bool
  shown : List UInt8

/-- What came of following a channel: the terminal and the channel after it, and the prompts and
the outcome met. -/
structure Following (ω : Type) where
  screen : Screen ω
  prompts : List String
  outcome : Option Outcome
  channel : Channel

/-- A channel has one event less when one was received. -/
theorem Channel.length_receive_lt {ch rest : Channel} {e : Event}
    (h : ch.receive = (.event e, rest)) : rest.queue.length < ch.queue.length := by
  cases hqueue : ch.queue with
  | nil =>
    rw [receive_nil hqueue] at h
    split at h <;> cases h
  | cons e' queue =>
    rw [receive_cons hqueue, Prod.mk.injEq] at h
    rw [← h.2]
    exact Nat.lt_succ_self _

namespace Screen

variable {ω : Type} [Writer ω]

/-- Shows an event. -/
def publish (screen : Screen ω) (e : Event) : Delivery × Screen ω :=
  let bytes := (Console.render screen.color e ++ "\n").toUTF8.toList
  let (replies, writer) := Writer.answer screen.writer bytes
  let written := replies.write bytes
  let screen := { screen with writer, shown := screen.shown ++ written.arrived }
  match written.failure with
  | none => (.delivered, screen)
  | some reason => (.failed reason, screen)

instance : Sink (Screen ω) where
  name _ := "console"
  publish := publish

/-- Shows the events of a channel, one after the other, until the run finishes or the channel has
come to its end.  Following waits for ever where nothing is queued in a channel that is open. -/
def follow (screen : Screen ω) (ch : Channel) : Option (Following ω) :=
  match h : ch.receive with
  | (.pending, _) => none
  | (.closed, rest) => some ⟨screen, [], none, rest⟩
  | (.event e, rest) =>
    have := Channel.length_receive_lt h
    let screen := (screen.publish e).2
    match e with
    | .finished outcome => some ⟨screen, [], some outcome, rest⟩
    | .promptDetected text =>
      (follow screen rest).map fun later => { later with prompts := text :: later.prompts }
    | _ => follow screen rest
termination_by ch.queue.length

end Screen

/-! ## Section 2: What is read

The first outcome divides the events that a channel holds: those up to it are read, those behind it
are left.  Following is a recursion on the queue, so one step of it takes one event off the front of
that division. -/

namespace Event

/-- The prompt that an event tells of. -/
def prompt? : Event → Option String
  | .promptDetected text => some text
  | _ => none

/-- The outcome that an event tells. -/
def outcome? : Event → Option Outcome
  | .finished outcome => some outcome
  | _ => none

theorem outcome?_eq_none_iff {e : Event} : e.outcome? = none ↔ e.isFinished = false := by
  cases e <;> simp [outcome?, isFinished]

theorem outcome?_eq_some_iff {e : Event} {outcome : Outcome} :
    e.outcome? = some outcome ↔ e = .finished outcome := by
  cases e <;> simp [outcome?]

/-- The prompts among events, in their order. -/
def prompts (events : List Event) : List String := events.filterMap prompt?

/-- The first outcome among events. -/
def firstOutcome? (events : List Event) : Option Outcome := events.findSome? outcome?

/-- What is left of events when they were read up to the first outcome. -/
def behindFinished (events : List Event) : List Event := events.drop (untilFinished events).length

theorem prompts_cons (e : Event) (rest : List Event) :
    prompts (e :: rest) = e.prompt?.toList ++ prompts rest := by
  rw [prompts, List.filterMap_cons]
  cases e.prompt? <;> rfl

section Unfinished

variable {e : Event} {rest : List Event}

theorem firstOutcome?_cons (h : e.outcome? = none) :
    firstOutcome? (e :: rest) = firstOutcome? rest := by
  rw [firstOutcome?, List.findSome?_cons, h]
  rfl

theorem untilFinished_cons (h : e.isFinished = false) :
    untilFinished (e :: rest) = e :: untilFinished rest := by
  rw [untilFinished, h, if_neg Bool.false_ne_true]

theorem behindFinished_cons (h : e.isFinished = false) :
    behindFinished (e :: rest) = behindFinished rest := by
  rw [behindFinished, untilFinished_cons h]
  rfl

end Unfinished

theorem firstOutcome?_of_unfinished {events : List Event}
    (h : ∀ e ∈ events, e.isFinished = false) : firstOutcome? events = none := by
  rw [firstOutcome?, List.findSome?_eq_none_iff]
  exact fun e he => outcome?_eq_none_iff.mpr (h e he)

/-- Events hold no outcome, or there is a first one. -/
theorem unfinished_or_split (events : List Event) :
    (∀ e ∈ events, e.isFinished = false) ∨
      ∃ front outcome rest, events = front ++ .finished outcome :: rest ∧
        ∀ e ∈ front, e.isFinished = false := by
  induction events with
  | nil => exact .inl nofun
  | cons e events ih =>
    -- the first event is an outcome, or the first outcome is one of those behind
    cases houtcome : e.outcome? with
    | some outcome =>
      exact .inr ⟨[], outcome, events, by rw [outcome?_eq_some_iff.mp houtcome]; rfl, nofun⟩
    | none =>
      have he := outcome?_eq_none_iff.mp houtcome
      rcases ih with h | ⟨front, outcome, rest, rfl, h⟩
      · exact .inl (List.forall_mem_cons.mpr ⟨he, h⟩)
      · exact .inr ⟨e :: front, outcome, rest, rfl, List.forall_mem_cons.mpr ⟨he, h⟩⟩

end Event

namespace Screen

variable {ω : Type} [Writer ω]

theorem follow_nil {ch : Channel} (hqueue : ch.queue = []) (hclosed : ch.closed = true)
    (screen : Screen ω) : screen.follow ch = some ⟨screen, [], none, ch⟩ := by
  have hreceive := Channel.receive_nil hqueue
  rw [hclosed, if_pos rfl] at hreceive
  rw [follow]
  split
  all_goals next h => cases h.symm.trans hreceive; try rfl

theorem follow_cons {ch : Channel} {e : Event} {rest : List Event}
    (hqueue : ch.queue = e :: rest) (screen : Screen ω) :
    screen.follow ch =
      match e.outcome? with
      | some outcome =>
        some ⟨(screen.publish e).2, [], some outcome, { ch with queue := rest }⟩
      | none =>
        ((screen.publish e).2.follow { ch with queue := rest }).map fun later =>
          { later with prompts := e.prompt?.toList ++ later.prompts } := by
  have hreceive := Channel.receive_cons hqueue
  rw [follow]
  split
  case h_3 h =>
    cases h.symm.trans hreceive
    cases e with
    | finished outcome => rfl
    | promptDetected text => rfl
    -- nothing is put in front of the prompts that are met later
    | _ => exact (congrFun Option.map_id _).symm
  all_goals next h => cases h.symm.trans hreceive

/-- **What following does** when the run has let go of the channel. -/
theorem follow_eq {ch : Channel} (hclosed : ch.closed = true) (screen : Screen ω) :
    screen.follow ch = some {
      screen := Sink.fed screen (Event.untilFinished ch.queue)
      prompts := Event.prompts (Event.untilFinished ch.queue)
      outcome := Event.firstOutcome? ch.queue
      channel := { ch with queue := Event.behindFinished ch.queue } } := by
  obtain ⟨queue, hqueue⟩ : ∃ queue, ch.queue = queue := ⟨_, rfl⟩
  induction queue generalizing ch screen with
  | nil =>
    rw [follow_nil hqueue hclosed, hqueue]
    obtain ⟨name, capacity, queue, closed, abandoned, hpos⟩ := ch
    cases hqueue
    rfl
  | cons e rest ih =>
    -- the terminal is another one after each event, and the hypothesis holds of all terminals
    rw [follow_cons hqueue, hqueue]
    cases houtcome : e.outcome? with
    | some outcome =>
      obtain rfl := Event.outcome?_eq_some_iff.mp houtcome
      rfl
    | none =>
      have he := Event.outcome?_eq_none_iff.mp houtcome
      have hrest : Channel.closed { ch with queue := rest } = true := hclosed
      simp only [ih hrest _ rfl, Option.map_some, Event.untilFinished_cons he,
        Event.behindFinished_cons he, Event.prompts_cons, Event.firstOutcome?_cons houtcome]
      rfl

end Screen

/-! ## Section 3: What a channel holds when its run is over

A run publishes to its channel and lets go of it at the end.  If nobody reads meanwhile, what the
channel holds is the newest of the events, as many as there is room for; for a capacity of zero,
room for one is made. -/

namespace Channel

/-- A new channel after events were queued in it. -/
def filled (name : String) (capacity : Nat) (events : List Event) : Channel :=
  events.foldl (fun ch e => (Channel.publish ch e).2) (Channel.new name capacity)

/-- A new channel after a run has queued events in it and let go of it. -/
def afterRun (name : String) (capacity : Nat) (events : List Event) : Channel :=
  (filled name capacity events).close

/-- **What a channel holds** after events were queued: the newest of them, as many as there is room
for. -/
theorem filled_spec (name : String) (capacity : Nat) (events : List Event) :
    (filled name capacity events).capacity = max capacity 1 ∧
      (filled name capacity events).abandoned = false ∧
        (filled name capacity events).queue = events.rtake (max capacity 1) := by
  induction events using List.reverseRecOn with
  | nil => exact ⟨rfl, rfl, by simp [filled, new]⟩
  | append_singleton events e ih =>
    obtain ⟨hcapacity, hheld, hqueue⟩ := ih
    rw [filled, List.foldl_append, List.foldl_cons, List.foldl_nil, ← filled, publish_held hheld]
    refine ⟨hcapacity, hheld, ?_⟩
    -- the excess is what the queue and the event have too many together
    simp only [excess, hcapacity, hqueue, List.rtake, List.drop_drop, List.length_drop,
      List.length_append, List.length_singleton]
    rw [List.drop_append_of_le_length (by omega)]
    congr 2
    omega

theorem queue_afterRun (name : String) (capacity : Nat) (events : List Event) :
    (afterRun name capacity events).queue = events.rtake (max capacity 1) :=
  (filled_spec name capacity events).2.2

theorem closed_afterRun (name : String) (capacity : Nat) (events : List Event) :
    (afterRun name capacity events).closed = true := rfl

end Channel

/-! ## Section 4: Every terminal alike

The console of the program is one of these terminals, and the results hold of it as of any other
one.  What is compared is all that the rest of the program can see: what is read, what is left, the
prompts, the outcome, and what was written. -/

/-- A terminal that answers alike every time, as one that answers as it likes. -/
def Console.screen (console : Console) : Screen Pipe :=
  ⟨console.pipe, console.color, console.shown⟩

theorem Console.screen_publish (console : Console) (e : Event) :
    (console.publish e).2.screen = (console.screen.publish e).2 := by
  simp only [publish, Screen.publish, screen, Writer.answer, Pipe.write]
  cases (PipeReplies.write _ _).failure <;> rfl

/-- The console shows what is read of the events, and returns what following a channel returns. -/
theorem Console.follow_eq (console : Console) (events : List Event) :
    ∃ shown, console.follow events = ⟨shown, Event.prompts (Event.untilFinished events),
        Event.firstOutcome? events, Event.behindFinished events⟩ ∧
      shown.screen = Sink.fed console.screen (Event.untilFinished events) := by
  induction events generalizing console with
  | nil => exact ⟨console, rfl, rfl⟩
  | cons e rest ih =>
    obtain ⟨shown, hfollow, hshown⟩ := ih (console.publish e).2
    rw [screen_publish] at hshown
    -- only an outcome ends the following
    cases e with
    | finished outcome => exact ⟨_, rfl, screen_publish console _⟩
    | _ =>
      refine ⟨shown, ?_, hshown⟩
      simp only [follow, hfollow]
      rfl

/-- What is read of the events that a channel holds, what is left of them, and what is made of those
that are read. -/
structure FollowedThrough (held read left : List Event) (prompts : List String)
    (outcome : Option Outcome) : Prop where
  account : read ++ left = held
  /-- Nothing is read behind an outcome. -/
  stops : ∀ e ∈ read.dropLast, e.isFinished = false
  /-- Every prompt among the events read is met once, in their order. -/
  met : prompts = Event.prompts read
  /-- An outcome is returned exactly if it is the last event that is read. -/
  returned : ∀ found, outcome = some found ↔ read.getLast? = some (.finished found)
  /-- No outcome is returned exactly if the events hold none, and then none of them is left. -/
  silent : outcome = none ↔ ∀ e ∈ held, e.isFinished = false
  whole : outcome = none → left = []

/-- Events that hold no outcome are read to their end. -/
theorem followed_of_unfinished {held : List Event} (h : ∀ e ∈ held, e.isFinished = false) :
    FollowedThrough held held [] (Event.prompts held) none where
  account := List.append_nil held
  stops e he := h e ((List.dropLast_prefix held).subset he)
  met := rfl
  returned found := by
    refine iff_of_false nofun fun hlast => ?_
    cases h _ (List.mem_of_getLast? hlast)
  silent := iff_of_true rfl h
  whole _ := rfl

/-- Events are read up to their first outcome. -/
theorem followed_of_finished {front : List Event} (h : ∀ e ∈ front, e.isFinished = false)
    (outcome : Outcome) (rest : List Event) :
    FollowedThrough (front ++ .finished outcome :: rest) (front ++ [.finished outcome]) rest
      (Event.prompts (front ++ [.finished outcome])) (some outcome) where
  -- each clause is about the events in front of the outcome, the outcome or what is behind it
  account := List.append_cons front _ rest ▸ rfl
  stops e he := h e (by rwa [List.dropLast_concat] at he)
  met := rfl
  returned found := by
    rw [List.getLast?_concat, Option.some_inj, Option.some_inj, Event.finished.injEq]
  silent := by
    refine iff_of_false nofun fun hall => ?_
    cases hall _ (List.mem_append_right front List.mem_cons_self)
  whole := nofun

/-- What following reads of events and returns. -/
theorem followed_untilFinished (held : List Event) :
    FollowedThrough held (Event.untilFinished held) (Event.behindFinished held)
      (Event.prompts (Event.untilFinished held)) (Event.firstOutcome? held) := by
  -- without an outcome everything is read, and with one what stands behind it is left
  rcases Event.unfinished_or_split held with h | ⟨front, outcome, rest, rfl, h⟩
  · have huntil : Event.untilFinished held = held := by
      simpa [Event.untilFinished] using Event.untilFinished_append h []
    rw [Event.behindFinished, huntil, List.drop_length, Event.firstOutcome?_of_unfinished h]
    exact followed_of_unfinished h
  · have huntil : Event.untilFinished (front ++ .finished outcome :: rest) =
        front ++ [.finished outcome] := Event.untilFinished_append h _
    have hbehind : Event.behindFinished (front ++ .finished outcome :: rest) = rest := by
      rw [Event.behindFinished, huntil, List.append_cons front _ rest, List.drop_left]
    have hfirst : Event.firstOutcome? (front ++ .finished outcome :: rest) = some outcome := by
      rw [Event.firstOutcome?, List.findSome?_append, ← Event.firstOutcome?,
        Event.firstOutcome?_of_unfinished h]
      rfl
    rw [huntil, hbehind, hfirst]
    exact followed_of_finished h outcome rest

/-- **Following is the same on every terminal**: whatever a terminal answers, the events that the
channel has kept are read up to the first outcome, in their order; the terminal is handed just these,
and nothing but what it shows depends on it. -/
theorem Screen.followed_alike (name : String) (capacity : Nat) (events : List Event) :
    ∃ read left prompts outcome,
      FollowedThrough (events.rtake (max capacity 1)) read left prompts outcome ∧
      (∀ (ω : Type) [Writer ω] (screen : Screen ω),
        screen.follow (.afterRun name capacity events) = some ⟨Sink.fed screen read, prompts,
          outcome, { Channel.afterRun name capacity events with queue := left }⟩) ∧
      ∀ console : Console, ∃ shown, shown.screen = Sink.fed console.screen read ∧
        console.follow (Channel.afterRun name capacity events).queue =
          ⟨shown, prompts, outcome, left⟩ := by
  have hqueue := Channel.queue_afterRun name capacity events
  -- what is read is fixed by the events, before any terminal is given
  refine ⟨_, _, _, _, followed_untilFinished _, fun ω _ screen => ?_, fun console => ?_⟩
  · rw [Screen.follow_eq (Channel.closed_afterRun name capacity events), hqueue]
  · obtain ⟨shown, hfollow, hshown⟩ := console.follow_eq (events.rtake (max capacity 1))
    exact ⟨shown, hshown, hqueue ▸ hfollow⟩

end Overseer
