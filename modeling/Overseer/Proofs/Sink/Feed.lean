import Mathlib.Data.List.Induction
import Overseer.Proofs.Sink.LastEvent
import Overseer.Sink.Channel

/-!
# What a Consumer Receives

A feed is a channel together with its consumer, who reads at a pace of its own while events are
queued, and reads on until nothing is left once the channel is closed.  Feeds are sinks, so that a
run may publish to them among any others.

An event is lost only at the end of a full queue.  It is safe until as many events as the channel
holds were queued behind it; if the consumer has not taken it by then, it is gone.

- `Feed.received_eq`: the consumer receives what it took during the run and what was left then
- `Feed.taken_or_queue_fed`: an event that is followed by fewer events than the channel holds is
  taken, or stands in the queue in front of them
- `Feed.mem_received_fed_iff`: when a consumer receives an event
- `Fanout.sink?_after_of_forall`: what all events of a run leave true of a sink

A consumer who is slow loses the oldest events, never the newest.  So whether an event is received
does not depend on what came before it, but only on what comes behind it and on the reads between.
-/

namespace Overseer

/-- What is read of events when nothing is read behind the outcome. -/
def Event.untilFinished : List Event → List Event
  | [] => []
  | e :: rest => if e.isFinished then [e] else e :: untilFinished rest

/-! ## Section 1: Feeds

A pace says how often the consumer reads before the event of a number; nothing is assumed about it,
so that the results hold of a consumer who never reads and of one who reads at once. -/

/-- A channel with its consumer, which takes events at its own pace between two deliveries. -/
structure Feed where
  channel : Channel
  /-- How often the consumer reads before the next event is queued, before the one after it, and so
  on. -/
  pace : Nat → Nat
  /-- What the consumer took, oldest first. -/
  taken : List Event

namespace Feed

/-- A new channel, and a consumer with a pace. -/
def new (name : String) (capacity : Nat) (pace : Nat → Nat) : Feed :=
  ⟨Channel.new name capacity, pace, []⟩

/-- The consumer reads once; if nothing is queued it finds nothing. -/
def read (f : Feed) : Feed :=
  match f.channel.receive with
  | (.event e, channel) => { f with channel, taken := f.taken ++ [e] }
  | (_, channel) => { f with channel }

/-- The consumer reads a number of times. -/
def readTimes : Nat → Feed → Feed
  | 0, f => f
  | n + 1, f => readTimes n f.read

/-- The consumer reads as often as it does before the next event. -/
def catchUp (f : Feed) : Feed := f.readTimes (f.pace 0)

/-- Queues an event, after the reads that come before it. -/
def publish (f : Feed) (e : Event) : Delivery × Feed :=
  let (delivery, channel) := f.catchUp.channel.publish e
  (delivery, ⟨channel, fun n => f.pace (n + 1), f.catchUp.taken⟩)

instance : Sink Feed where
  name f := f.channel.name
  publish := publish

/-- The run lets go of the channel, and the consumer reads what is left. -/
def finish (f : Feed) : Feed :=
  readTimes f.channel.queue.length { f with channel := f.channel.close }

/-- What a consumer receives that reads until the channel is closed. -/
def received (f : Feed) : List Event := f.finish.taken

/-! ## Section 2: Reading -/

theorem read_eq (f : Feed) :
    f.read = { f with
      channel := { f.channel with queue := f.channel.queue.drop 1 }
      taken := f.taken ++ f.channel.queue.take 1 } := by
  obtain ⟨⟨name, capacity, queue, closed, abandoned, hcapacity⟩, pace, taken⟩ := f
  cases queue with
  | nil => cases closed <;> simp [read, Channel.receive]
  | cons e rest => simp [read, Channel.receive]

/-- Reading takes the oldest events, as many as there are. -/
theorem readTimes_eq (n : Nat) (f : Feed) :
    f.readTimes n = { f with
      channel := { f.channel with queue := f.channel.queue.drop n }
      taken := f.taken ++ f.channel.queue.take n } := by
  induction n generalizing f with
  | zero => simp [readTimes]
  | succ n ih =>
    have htake : f.channel.queue.take (n + 1) =
        f.channel.queue.take 1 ++ (f.channel.queue.drop 1).take n := by
      rw [Nat.add_comm, List.take_add]
    simp only [readTimes, ih, read_eq, List.drop_drop, htake, List.append_assoc, Nat.add_comm 1 n]

@[simp]
theorem catchUp_taken (f : Feed) :
    f.catchUp.taken = f.taken ++ f.channel.queue.take (f.pace 0) := by
  rw [catchUp, readTimes_eq]

@[simp]
theorem catchUp_channel (f : Feed) :
    f.catchUp.channel = { f.channel with queue := f.channel.queue.drop (f.pace 0) } := by
  rw [catchUp, readTimes_eq]

/-- **What a consumer receives** is what it took during the run, and what was queued at its end.
Closing the channel keeps what is queued. -/
theorem received_eq (f : Feed) : f.received = f.taken ++ f.channel.queue := by
  simp [received, finish, readTimes_eq, Channel.close]

/-- A consumer that has read what is left finds the channel closed. -/
theorem receive_finish (f : Feed) : f.finish.channel.receive.1 = .closed := by
  simp [finish, readTimes_eq, Channel.close, Channel.receive]

/-! ## Section 3: Queueing

The consumer holds on to the channel as long as it is attended.  Then queueing takes the new event
in any case, and makes room for it by dropping what is too much at the front. -/

/-- The consumer holds on to the channel, and the queue fits. -/
structure Attended (f : Feed) : Prop where
  held : f.channel.abandoned = false
  fits : f.channel.queue.length ≤ f.channel.capacity

theorem attended_new (name : String) (capacity : Nat) (pace : Nat → Nat) :
    (new name capacity pace).Attended := ⟨rfl, Nat.zero_le _⟩

/-- How many of the oldest events go when the next one comes. -/
def excess (f : Feed) : Nat := f.catchUp.channel.excess

theorem publish_snd {f : Feed} (hf : f.Attended) (e : Event) :
    (f.publish e).2 =
      ⟨{ f.channel with queue := (f.channel.queue.drop (f.pace 0)).drop f.excess ++ [e] },
        fun n => f.pace (n + 1), f.taken ++ f.channel.queue.take (f.pace 0)⟩ := by
  simp [publish, Channel.publish, hf.held, excess]

theorem excess_eq (f : Feed) :
    f.excess = f.channel.queue.length - f.pace 0 + 1 - f.channel.capacity := by
  simp [excess, Channel.excess]

theorem attended_publish {f : Feed} (hf : f.Attended) (e : Event) : (f.publish e).2.Attended := by
  have hpos := f.channel.capacity_pos
  have hfits := hf.fits
  have hexcess := f.excess_eq
  rw [publish_snd hf]
  refine ⟨hf.held, ?_⟩
  simp only [List.length_append, List.length_drop, List.length_singleton]
  omega

theorem capacity_publish (f : Feed) (e : Event) :
    (f.publish e).2.channel.capacity = f.channel.capacity := by
  simp only [publish, Channel.publish, catchUp_channel]
  split <;> rfl

/-- What is received was queued. -/
theorem mem_publish {f : Feed} (hf : f.Attended) {e e' : Event}
    (he' : e' ∈ (f.publish e).2.received) : e' ∈ f.received ∨ e' = e := by
  simp only [publish_snd hf, received_eq, List.mem_append, List.mem_singleton] at he' ⊢
  rcases he' with (htaken | htake) | hdrop | rfl
  · exact .inl (.inl htaken)
  · exact .inl (.inr (List.mem_of_mem_take htake))
  · exact .inl (.inr (List.mem_of_mem_drop (List.mem_of_mem_drop hdrop)))
  · exact .inr rfl

/-- What the consumer took before an event stays taken. -/
theorem taken_publish {f : Feed} (hf : f.Attended) (e : Event) :
    (f.publish e).2.taken = f.catchUp.taken := by
  rw [publish_snd hf, catchUp_taken]

/-- What the consumer took stays taken. -/
theorem mem_taken_publish {f : Feed} (hf : f.Attended) {e e' : Event} (he' : e' ∈ f.taken) :
    e' ∈ (f.publish e).2.taken := by
  rw [taken_publish hf, catchUp_taken]
  exact List.mem_append_left _ he'

end Feed

/-! ## Section 4: Many events

What was taken stays taken, and what was lost stays lost; between the two an event moves forward in
the queue by one place with each event behind it. -/

/-- A sink after it was handed events. -/
def Sink.fed {σ : Type} [Sink σ] (sink : σ) (events : List Event) : σ :=
  events.foldl (fun sink e => (Sink.publish sink e).2) sink

namespace Feed

theorem fed_concat (f : Feed) (events : List Event) (e : Event) :
    Sink.fed f (events ++ [e]) = ((Sink.fed f events).publish e).2 := by
  simp only [Sink.fed, List.foldl_append, List.foldl_cons, List.foldl_nil]
  rfl

theorem fed_append (f : Feed) (events more : List Event) :
    Sink.fed f (events ++ more) = Sink.fed (Sink.fed f events) more := by
  simp only [Sink.fed, List.foldl_append]

theorem attended_fed {f : Feed} (hf : f.Attended) (events : List Event) :
    (Sink.fed f events : Feed).Attended := by
  induction events using List.reverseRecOn with
  | nil => exact hf
  | append_singleton events e ih =>
    rw [fed_concat]
    exact attended_publish ih e

theorem capacity_fed (f : Feed) (events : List Event) :
    (Sink.fed f events : Feed).channel.capacity = f.channel.capacity := by
  induction events using List.reverseRecOn with
  | nil => rfl
  | append_singleton events e ih => rw [fed_concat, capacity_publish, ih]

theorem mem_taken_fed {f : Feed} (hf : f.Attended) {e : Event} (he : e ∈ f.taken)
    (events : List Event) : e ∈ (Sink.fed f events : Feed).taken := by
  induction events using List.reverseRecOn with
  | nil => exact he
  | append_singleton events e' ih =>
    rw [fed_concat]
    exact mem_taken_publish (attended_fed hf events) ih

/-- What is lost stays lost. -/
theorem not_mem_received_fed {f : Feed} (hf : f.Attended) {e : Event} (he : e ∉ f.received)
    {events : List Event} (hevents : e ∉ events) : e ∉ (Sink.fed f events : Feed).received := by
  induction events using List.reverseRecOn with
  | nil => exact he
  | append_singleton events e' ih =>
    rw [List.mem_append, not_or, List.mem_singleton] at hevents
    rw [fed_concat]
    intro hmem
    exact (mem_publish (attended_fed hf events) hmem).elim (ih hevents.1) hevents.2

/-- An event that is followed by fewer events than the channel holds is taken, or stands in the
queue in front of them. -/
theorem taken_or_queue_fed {f : Feed} (hf : f.Attended) (e : Event) {later : List Event}
    (hlater : later.length < f.channel.capacity) :
    e ∈ (Sink.fed f (e :: later) : Feed).taken ∨
      ∃ ahead, (Sink.fed f (e :: later) : Feed).channel.queue = ahead ++ e :: later := by
  induction later using List.reverseRecOn with
  -- the event itself is at the end of the queue, whatever was dropped in front of it
  | nil =>
    refine .inr ⟨(f.channel.queue.drop (f.pace 0)).drop f.excess, ?_⟩
    change (f.publish e).2.channel.queue = _
    rw [publish_snd hf]
  | append_singleton later e' ih =>
    rw [List.length_append, List.length_singleton] at hlater
    have hg := attended_fed hf (e :: later)
    rw [← List.cons_append, fed_concat]
    -- taken before, or still in the queue with all that followed it
    rcases ih (by omega) with htaken | ⟨ahead, hqueue⟩
    · exact .inl (mem_taken_publish hg htaken)
    · generalize hgdef : (Sink.fed f (e :: later) : Feed) = g at *
      have hcapacity : g.channel.capacity = f.channel.capacity := by
        rw [← hgdef, capacity_fed]
      have hexcess := g.excess_eq
      rw [publish_snd hg, hqueue]
      rw [hqueue, List.length_append, List.length_cons] at hexcess
      by_cases hpace : g.pace 0 ≤ ahead.length
      · -- the reads and the drops together end in front of the event
        refine .inr ⟨ahead.drop (g.pace 0 + g.excess), ?_⟩
        rw [List.drop_drop, List.drop_append_of_le_length (by omega), List.append_assoc,
          List.cons_append]
      · -- the reads go as far as the event
        refine .inl (List.mem_append_right _ ?_)
        rw [List.take_append, List.mem_append]
        refine .inr ?_
        obtain ⟨n, hn⟩ : ∃ n, g.pace 0 - ahead.length = n + 1 :=
          ⟨g.pace 0 - ahead.length - 1, by omega⟩
        rw [hn]
        exact List.mem_cons_self

/-- An event at the end of a full queue is lost to the next one, unless it is taken before. -/
theorem not_mem_received_publish {f : Feed} (hf : f.Attended) {e e' : Event}
    {behind : List Event} (hqueue : f.channel.queue = e :: behind)
    (hfull : f.channel.capacity = behind.length + 1) (htaken : e ∉ f.catchUp.taken)
    (hbehind : e ∉ behind) (he' : e ≠ e') : e ∉ (f.publish e').2.received := by
  rw [catchUp_taken, hqueue, List.mem_append, not_or] at htaken
  -- the event is at the head of the queue, so a consumer that reads anything takes it
  have hpace : f.pace 0 = 0 := by
    cases hpace : f.pace 0 with
    | zero => rfl
    | succ n => exact absurd (hpace ▸ List.mem_cons_self) htaken.2
  -- without a read the next event has no room, and the head makes way
  have hexcess : f.excess = 1 := by
    rw [excess_eq, hqueue, hpace, hfull, List.length_cons]
    omega
  simp only [publish_snd hf, received_eq, hqueue, hpace, hexcess, List.take_zero, List.append_nil,
    List.drop_zero, List.drop_one, List.tail_cons, List.mem_append, List.mem_singleton, not_or]
  exact ⟨htaken.1, hbehind, he'⟩

/-- **When a consumer receives an event**: exactly if fewer events follow it than the channel
holds, or the consumer takes it before so many follow. -/
theorem mem_received_fed_iff {f : Feed} (hf : f.Attended) {e : Event} {later : List Event}
    (hlater : e ∉ later) :
    e ∈ (Sink.fed f (e :: later) : Feed).received ↔
      later.length < f.channel.capacity ∨
        e ∈ (Sink.fed f (e :: later.take (f.channel.capacity - 1)) : Feed).catchUp.taken := by
  have hpos := f.channel.capacity_pos
  by_cases hfew : later.length < f.channel.capacity
  · refine iff_of_true ?_ (.inl hfew)
    rw [received_eq, List.mem_append]
    rcases taken_or_queue_fed hf e hfew with htaken | ⟨ahead, hqueue⟩
    · exact .inl htaken
    · exact .inr (hqueue ▸ List.mem_append_right _ List.mem_cons_self)
  rw [or_iff_right hfew]
  generalize hn : f.channel.capacity - 1 = n
  -- `w` is the event that finds the queue full
  obtain ⟨w, rest, hsplit⟩ : ∃ w rest, later.drop n = w :: rest :=
    List.exists_cons_of_length_pos (by rw [List.length_drop]; omega)
  have hparts : later = later.take n ++ w :: rest := by rw [← hsplit, List.take_append_drop]
  have hwhole : e :: later = (e :: later.take n) ++ [w] ++ rest := by
    rw [List.append_assoc, List.singleton_append, List.cons_append, ← hparts]
  rw [hparts, List.mem_append, List.mem_cons, not_or, not_or] at hlater
  obtain ⟨hbehind, hw, hrest⟩ := hlater
  have hlength : (later.take n).length = n := List.length_take_of_le (by omega)
  have hcapacity := capacity_fed f (e :: later.take n)
  have hattended := attended_fed hf (e :: later.take n)
  have hplace := taken_or_queue_fed hf e (show (later.take n).length < _ by omega)
  rw [hwhole, fed_append, fed_concat]
  generalize (Sink.fed f (e :: later.take n) : Feed) = g at hcapacity hattended hplace ⊢
  have hnext := attended_publish hattended w
  constructor
  · contrapose!
    intro htaken
    refine not_mem_received_fed hnext ?_ hrest
    rcases hplace with hmem | ⟨ahead, hqueue⟩
    · exact absurd (g.catchUp_taken ▸ List.mem_append_left _ hmem) htaken
    · -- nothing stands in front of the event, since the events behind it fill the queue
      have hfits := hattended.fits
      rw [hqueue, List.length_append, List.length_cons, hlength] at hfits
      obtain rfl : ahead = [] := List.length_eq_zero_iff.mp (by omega)
      exact not_mem_received_publish hattended hqueue (by omega) htaken hbehind hw
  · intro htaken
    rw [received_eq, List.mem_append]
    exact .inl (mem_taken_fed hnext (taken_publish hattended w ▸ htaken) rest)

end Feed

/-! ## Section 5: Feeds among other sinks

A run publishes to all its sinks, and warnings about the others are among what a feed is handed.
These lemmas lead from a run to the feed at a place, so that the results above can be used for it.
-/

/-- A feed, or a sink of another kind. -/
inductive Listener (σ : Type) where
  | feed (f : Feed)
  | other (sink : σ)

namespace Listener

variable {σ : Type} [Sink σ]

/-- Hands an event to a listener. -/
def publish : Listener σ → Event → Delivery × Listener σ
  | .feed f, e => ((f.publish e).1, .feed (f.publish e).2)
  | .other sink, e => ((Sink.publish sink e).1, .other (Sink.publish sink e).2)

instance : Sink (Listener σ) where
  name
    | .feed f => Sink.name f
    | .other sink => Sink.name sink
  publish := publish

theorem fed_feed (f : Feed) (events : List Event) :
    Sink.fed (.feed f : Listener σ) events = .feed (Sink.fed f events) := by
  induction events generalizing f with
  | nil => rfl
  | cons e events ih => exact ih (f.publish e).2

end Listener

namespace Fanout

variable {σ : Type} [Sink σ]

theorem sink_foldl_warn (warnings : List SinkWarning) (slot : Slot σ) :
    (warnings.foldl (fun slot w => slot.warn w.message) slot).sink =
      Sink.fed slot.sink (warnings.map fun w => .warning w.message) := by
  induction warnings generalizing slot with
  | nil => rfl
  | cons w warnings ih => exact ih (slot.warn w.message)

/-- **The sink at a place after an event**: it was handed the event, and then the warnings that
the event raised and that are not about the failure of this sink. -/
theorem sink?_publish (fanout : Fanout σ) (e : Event) (place : Nat) :
    (fanout.publish e).sink? place = (fanout.sink? place).map fun sink =>
      Sink.fed sink (e :: (heardAt place (fanout.raised e)).map fun w => .warning w.message) := by
  simp only [sink?, slots_publish, Option.map_map]
  congr 1
  funext slot
  have hafter : (slot.after e).sink = (Sink.publish slot.sink e).2 := by
    simp only [Slot.after, Slot.publish]
    split <;> rfl
  rw [Function.comp_apply, sink_foldl_warn, hafter]
  rfl

/-- What holds of the sink at a place in the beginning, and stays true when it is handed an event
of the run or a warning, holds of it after the events. -/
theorem sink?_after_of_forall {P : σ → Prop} {sinks : List σ} {events : List Event} {place : Nat}
    (hstart : ∀ sink, sinks[place]? = some sink → P sink)
    (hevent : ∀ e ∈ events, ∀ sink, P sink → P (Sink.publish sink e).2)
    (hwarning : ∀ message sink, P sink → P (Sink.publish sink (.warning message)).2) :
    ∀ sink, (after sinks events).sink? place = some sink → P sink := by
  induction events using List.reverseRecOn with
  | nil => simpa [after, ofSinks, sink?, Slot.ofSink, Function.comp_def] using hstart
  | append_singleton events e ih =>
    intro sink hsink
    rw [after_concat, sink?_publish] at hsink
    obtain ⟨before, hbefore, rfl⟩ := Option.map_eq_some_iff.mp hsink
    have hpublished := hevent e (by simp) before
      (ih (fun e' he' => hevent e' (List.mem_append_left _ he')) before hbefore)
    -- behind the event come nothing but warnings
    generalize heardAt place _ = warnings
    change P (Sink.fed (Sink.publish before e).2 (warnings.map fun w => Event.warning w.message))
    generalize (Sink.publish before e).2 = sink at hpublished
    induction warnings generalizing sink with
    | nil => exact hpublished
    | cons w warnings ihw => exact ihw _ (hwarning w.message sink hpublished)

/-- A feed stays a feed of the same size whose consumer holds on, and is handed nothing but what is
published and warnings. -/
theorem feed_after {sinks : List (Listener σ)} {place : Nat} {name : String} {capacity : Nat}
    {pace : Nat → Nat} (hplace : sinks[place]? = some (.feed (.new name capacity pace)))
    {events : List Event} (hunfinished : ∀ e ∈ events, e.isFinished = false) :
    ∃ f : Feed, (after sinks events).sink? place = some (.feed f) ∧ f.Attended ∧
      f.channel.capacity = max capacity 1 ∧ ∀ e ∈ f.received, e.isFinished = false := by
  let P (sink : Listener σ) : Prop := ∃ f : Feed, sink = .feed f ∧ f.Attended ∧
    f.channel.capacity = max capacity 1 ∧ ∀ e ∈ f.received, e.isFinished = false
  -- what a publication does to this feed keeps the property, whichever event it is
  have hstep : ∀ e, e.isFinished = false → ∀ sink, P sink → P (Sink.publish sink e).2 := by
    rintro e he _ ⟨f, rfl, hf, hcapacity, hreceived⟩
    refine ⟨(f.publish e).2, rfl, Feed.attended_publish hf e, ?_, fun e' he' => ?_⟩
    · rw [f.capacity_publish, hcapacity]
    · rcases Feed.mem_publish hf he' with h | rfl
      · exact hreceived e' h
      · exact he
  have hslots : place < (after sinks events).slots.length := by
    rw [length_slots_after]
    exact (List.getElem?_eq_some_iff.mp hplace).1
  have hsink : (after sinks events).sink? place = some (after sinks events).slots[place].sink := by
    rw [sink?, List.getElem?_eq_getElem hslots, Option.map_some]
  obtain ⟨f, hf, hrest⟩ : P (after sinks events).slots[place].sink := by
    -- the property holds of the sink as it was given, of each event and of each warning
    refine sink?_after_of_forall (fun sink hstart => ?_) (fun e he => hstep e (hunfinished e he))
      (fun message => hstep (.warning message) rfl) _ hsink
    rw [hplace, Option.some.injEq] at hstart
    refine ⟨_, hstart.symm, Feed.attended_new name capacity pace, rfl, ?_⟩
    simp [Feed.received_eq, Feed.new, Channel.new]
  exact ⟨f, hf ▸ hsink, hrest⟩

end Fanout

end Overseer
