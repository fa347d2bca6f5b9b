import Overseer.Proofs.Sink.Feed
import Overseer.Proofs.Sink.Trace
import Overseer.Proofs.Web.Stream

/-!
# Whether the Outcome Arrives

The consumer of a channel learns from `finished` that the run is over: the console returns its
outcome, and the stream of the site ends with its status.  But the warnings that `finished` itself
raises are queued behind it, and they push it out of a channel that is too small for them.

- `Console.outcome_follow`: the console returns the outcome that it reads
- `Web.Site.Streams.of_received`: a stream that gets the outcome comes to its end
- `Fanout.receipt`: when the outcome arrives, for every run and every pace of the consumer
- `Fanout.not_arrives_tightStream`: a run whose outcome never arrives
-/

namespace Overseer

/-! ## Section 1: Consumers that stop at the outcome

Both consumers stop at the first outcome that they read, and a run publishes one only.  What they
are told is then decided by whether they receive it, and not by what else they receive. -/

/-- The only outcome among the events, if there is one. -/
def Outcome.OnlyIn (outcome : Outcome) (events : List Event) : Prop :=
  ∀ e ∈ events, e.isFinished = true → e = .finished outcome

theorem Outcome.OnlyIn.tail {outcome : Outcome} {e : Event} {rest : List Event}
    (h : outcome.OnlyIn (e :: rest)) : outcome.OnlyIn rest :=
  fun e' he' => h e' (List.mem_cons_of_mem e he')

/-- **What following returns**: the outcome, if it is among the events.  Events behind it are not
looked at. -/
theorem Console.outcome_follow (console : Console) {outcome : Outcome} {events : List Event}
    (h : outcome.OnlyIn events) :
    (console.follow events).outcome =
      if .finished outcome ∈ events then some outcome else none := by
  induction events generalizing console with
  | nil => rfl
  | cons e rest ih =>
    -- at an outcome the following stops, and it is the only one there is
    have hrest := fun console => ih console h.tail
    cases e with
    | finished found =>
      cases h _ List.mem_cons_self rfl
      simp [follow]
    | _ => simp [follow, hrest]

theorem Event.mem_untilFinished {outcome : Outcome} {events : List Event}
    (h : outcome.OnlyIn events) :
    .finished outcome ∈ untilFinished events ↔ .finished outcome ∈ events := by
  induction events with
  | nil => rfl
  | cons e rest ih =>
    cases e with
    | finished found =>
      cases h _ List.mem_cons_self rfl
      simp [untilFinished, isFinished]
    | _ => simp [untilFinished, isFinished, ih h.tail]

theorem Event.untilFinished_prefix (events : List Event) : untilFinished events <+: events := by
  induction events with
  | nil => exact List.nil_prefix
  | cons e rest ih =>
    rw [untilFinished]
    split
    · exact List.prefix_append [e] rest
    · exact (List.prefix_cons_inj e).mpr ih

theorem Event.untilFinished_append {events : List Event}
    (h : ∀ e ∈ events, e.isFinished = false) (more : List Event) :
    untilFinished (events ++ more) = events ++ untilFinished more := by
  induction events with
  | nil => rfl
  | cons e rest ih =>
    obtain ⟨he, hrest⟩ := List.forall_mem_cons.mp h
    rw [List.cons_append, untilFinished, he, if_neg Bool.false_ne_true, ih hrest,
      List.cons_append]

/-- **A stream that is fed an outcome comes to its end**: if it is not over when the run is, it
reads on to the outcome. -/
theorem Web.Site.Streams.of_received {run since since' : Nat} {sent : List String} {f : Feed}
    {outcome : Outcome}
    (hread : Streams run (.streaming run [] since) f.taken (.streaming run sent since'))
    {s : Site} {channel : Channel}
    (hchannel : s.host.observer? run 0 = some (.channel channel))
    (hqueue : channel.queue = f.channel.queue) (houtcome : .finished outcome ∈ f.received) :
    ∃ response, Streams run (.streaming run [] since) (Event.untilFinished f.received)
      (.answered response) := by
  have hunfinished := hread.unfinished
  rw [f.received_eq, List.mem_append] at houtcome
  -- what the stream has read so far is no outcome, so the outcome is still queued
  have hqueued : .finished outcome ∈ channel.queue := by
    rw [hqueue]
    refine houtcome.resolve_left fun htaken => ?_
    cases hunfinished _ htaken
  obtain ⟨response, hrest⟩ :=
    Streams.of_queue hchannel (List.any_eq_true.mpr ⟨_, hqueued, rfl⟩) sent since'
  refine ⟨response, ?_⟩
  rw [f.received_eq, Event.untilFinished_append hunfinished, ← hqueue]
  exact hread.trans hrest

/-- A stream ends with the status of the outcome exactly if it tells the outcome. -/
theorem Web.Response.Tells.getLast?_eq_status {response : Response} {sent : List String}
    {events : List Event} {pieces : List (Option Frame)} (h : response.Tells sent events pieces)
    {outcome : Outcome} (honly : outcome.OnlyIn events) :
    pieces.getLast? = some (some (Frame.ofOutcome outcome)) ↔ .finished outcome ∈ events := by
  obtain ⟨-, htold, hlast⟩ := h
  -- the status is told for the outcome only, since other events have other frames
  constructor
  · intro hstatus
    have hmem : Frame.ofOutcome outcome ∈ pieces.reduceOption :=
      List.reduceOption_mem_iff.mpr (List.mem_of_getLast? hstatus)
    rw [htold] at hmem
    obtain ⟨e, he, hframe⟩ := List.mem_map.mp hmem
    exact honly e he (Frame.ofEvent_eq_ofOutcome hframe) ▸ he
  · -- the last event is the outcome, and the stream ends behind it
    exact fun hmem => hlast _ hmem rfl

/-! ## Section 2: When the outcome arrives

The outcome is the last event that is published, but not the last one that is queued: behind it come
the warnings that it raises itself.  It arrives exactly if they leave room for it, or if the
consumer reads it between them; the feed at a place is followed up to the outcome and from there
through these warnings. -/

namespace Fanout

variable {σ : Type} [Sink σ]

/-- The consumer of the feed at a place receives the outcome of a run that publishes events and
then the outcome. -/
def Arrives (sinks : List (Listener σ)) (events : List Event) (outcome : Outcome)
    (place : Nat) : Prop :=
  ∀ f : Feed, (after sinks (events ++ [.finished outcome])).sink? place = some (.feed f) →
    .finished outcome ∈ f.received

/-- The warnings that reach the sink at a place behind the outcome of a run. -/
def warningsBehind (sinks : List (Listener σ)) (events : List Event) (outcome : Outcome)
    (place : Nat) : List Event :=
  (heardAt place ((after sinks events).raised (.finished outcome))).map fun w =>
    .warning w.message

/-- What becomes of the outcome of a run at the feed at a place, which was in a state before the
outcome was published and is left in another. -/
structure Receipt (sinks : List (Listener σ)) (events : List Event) (outcome : Outcome)
    (place capacity : Nat) (before final : Feed) : Prop where
  before_eq : (after sinks events).sink? place = some (.feed before)
  final_eq : (after sinks (events ++ [.finished outcome])).sink? place = some (.feed final)
  /-- When the consumer has read what is left, it finds the channel closed. -/
  closed : final.finish.channel.receive.1 = .closed
  /-- The consumer receives the outcome exactly if fewer warnings come behind it than the channel
  holds, or it takes the outcome before so many come. -/
  arrives_iff : Arrives sinks events outcome place ↔
    (warningsBehind sinks events outcome place).length < max capacity 1 ∨
      .finished outcome ∈ (Sink.fed before (.finished outcome ::
        (warningsBehind sinks events outcome place).take (max capacity 1 - 1)) :
          Feed).catchUp.taken
  /-- That is so whenever the channel holds more events than there are sinks. -/
  arrives_of_lt : sinks.length < max capacity 1 → Arrives sinks events outcome place
  /-- Following the channel returns the outcome exactly if it arrives. -/
  followed : ∀ console : Console, (console.follow final.received).outcome = some outcome ↔
    Arrives sinks events outcome place
  /-- A stream that reads the channel to its end, or to the outcome, ends with the status of the
  outcome exactly if it arrives. -/
  streamed : ∀ run since response, Web.Site.Streams run (.streaming run [] since)
      (Event.untilFinished final.received) (.answered response) →
    ∃ pieces, response.Tells [] (Event.untilFinished final.received) pieces ∧
      (pieces.getLast? = some (some (Web.Frame.ofOutcome outcome)) ↔
        Arrives sinks events outcome place)
  /-- If the outcome arrives, a stream that has read what the consumer took, and is not over, comes
  to its end on what is queued. -/
  ends : Arrives sinks events outcome place → ∀ run since sent since',
    Web.Site.Streams run (.streaming run [] since) final.taken (.streaming run sent since') →
      ∀ (s : Web.Site) (channel : Channel), s.host.observer? run 0 = some (.channel channel) →
        channel.queue = final.channel.queue →
          ∃ response, Web.Site.Streams run (.streaming run [] since)
            (Event.untilFinished final.received) (.answered response)

/-- No more warnings come behind the outcome than there are sinks. -/
theorem length_warningsBehind_le (sinks : List (Listener σ)) (events : List Event)
    (outcome : Outcome) (place : Nat) :
    (warningsBehind sinks events outcome place).length ≤ sinks.length :=
  calc (warningsBehind sinks events outcome place).length
      = (heardAt place ((after sinks events).raised (.finished outcome))).length :=
        List.length_map _
    _ ≤ ((after sinks events).raised (.finished outcome)).length := List.length_filter_le _ _
    _ = (warningsAt sinks (events ++ [.finished outcome]) events.length).length := by
        rw [raised_eq_warningsAt]
    _ ≤ (List.range sinks.length).length := List.length_filterMap_le _ _
    _ = sinks.length := List.length_range

/-- No warning is an outcome. -/
theorem isFinished_warningsBehind {sinks : List (Listener σ)} {events : List Event}
    {outcome : Outcome} {place : Nat} {e : Event}
    (he : e ∈ warningsBehind sinks events outcome place) : e.isFinished = false := by
  obtain ⟨w, -, rfl⟩ := List.mem_map.mp he
  rfl

/-- A feed that held no outcome before holds none but the one that is published. -/
theorem onlyIn_received_fed {before : Feed} (hattended : before.Attended)
    (hreceived : ∀ e ∈ before.received, e.isFinished = false) {outcome : Outcome}
    {warnings : List Event} (hwarnings : ∀ e ∈ warnings, e.isFinished = false) :
    outcome.OnlyIn (Sink.fed before (.finished outcome :: warnings) : Feed).received := by
  intro e he hfinished
  by_contra hother
  refine Feed.not_mem_received_fed hattended (fun h => ?_) (fun h => ?_) he
  · exact absurd hfinished (by simp [hreceived e h])
  · rcases List.mem_cons.mp h with rfl | h
    · exact hother rfl
    · exact absurd hfinished (by simp [hwarnings e h])

/-- **When the outcome of a run arrives**, whatever the other sinks do and at whatever pace the
consumer reads.  Behind the outcome nothing but warnings can be published, so it is lost only to
these. -/
theorem receipt {sinks : List (Listener σ)} {events : List Event} {place : Nat} {name : String}
    {capacity : Nat} {pace : Nat → Nat}
    (hplace : sinks[place]? = some (.feed (.new name capacity pace)))
    (hunfinished : ∀ e ∈ events, e.isFinished = false) (outcome : Outcome) :
    ∃ before final, Receipt sinks events outcome place capacity before final := by
  obtain ⟨before, hbefore, hattended, hcapacity, hreceived⟩ := feed_after hplace hunfinished
  -- publishing the outcome hands the feed the outcome, and then the warnings behind it
  obtain ⟨final, hfinaldef⟩ : ∃ final : Feed, Sink.fed before
      (.finished outcome :: warningsBehind sinks events outcome place) = final := ⟨_, rfl⟩
  have hfinal : (after sinks (events ++ [.finished outcome])).sink? place = some (.feed final) := by
    rw [after_concat, sink?_publish, hbefore, Option.map_some, Listener.fed_feed, ← hfinaldef]
    rfl
  have harrives : Arrives sinks events outcome place ↔ .finished outcome ∈ final.received := by
    rw [Arrives, hfinal]
    exact ⟨fun h => h final rfl, by rintro h _ ⟨⟩; exact h⟩
  -- consumers stop at the first outcome, so there must be no other among what is received
  have honly : outcome.OnlyIn final.received := by
    rw [← hfinaldef]
    exact onlyIn_received_fed hattended hreceived fun e he => isFinished_warningsBehind he
  have hbehind : .finished outcome ∉ warningsBehind sinks events outcome place :=
    fun hmem => absurd (isFinished_warningsBehind hmem) nofun
  have hiff := Feed.mem_received_fed_iff hattended hbehind
  rw [hfinaldef, ← harrives, hcapacity] at hiff
  exact ⟨before, final, {
    before_eq := hbefore
    final_eq := hfinal
    closed := final.receive_finish
    arrives_iff := hiff
    arrives_of_lt := fun hroomy => hiff.mpr
      (.inl (Nat.lt_of_le_of_lt (length_warningsBehind_le sinks events outcome place) hroomy))
    followed := fun console => by
      rw [Console.outcome_follow console honly, harrives]
      split <;> simp [*]
    streamed := fun run since response hstreams => by
      obtain ⟨pieces, htells⟩ := hstreams.tells
      have honly' : outcome.OnlyIn (Event.untilFinished final.received) := fun e he =>
        honly e ((Event.untilFinished_prefix _).subset he)
      refine ⟨pieces, htells, ?_⟩
      rw [htells.getLast?_eq_status honly', Event.mem_untilFinished honly, harrives]
    ends := fun harrived run since sent since' hread s channel hchannel hqueue =>
      hread.of_received hchannel hqueue (harrives.mp harrived) }⟩

/-- The outcome arrives on a channel for two events that is read at the end. -/
theorem exists_receipt_wideStream :
    ∃ before final, Receipt ([.feed (.new "stream" 2 fun _ => 0)] : List (Listener Observer))
      [.started 7 "true"] (.completed 0) 0 2 before final :=
  receipt rfl (by decide) (.completed 0)

/-- A stream that holds one event and is read when the run is over. -/
def tightStream : List (Listener Observer) := [.feed (.new "stream" 1 fun _ => 0)]

/-- **An outcome that never arrives**: the stream holds one event, which is `finished` at last; but
`finished` is also the first event that pushes another one out, and the warning about that pushes
`finished` itself out. -/
theorem not_arrives_tightStream :
    ∃ f : Feed, (after tightStream [.started 7 "true", .finished (.completed 0)]).sink? 0 =
        some (.feed f) ∧
      f.received = [.warning (overflowMessage "stream")] ∧
      ((Console.new .sound false).follow f.received).outcome = none ∧
      ¬Arrives tightStream [.started 7 "true"] (.completed 0) 0 := by
  refine ⟨_, rfl, rfl, rfl, fun harrives => ?_⟩
  exact absurd (harrives _ rfl) (by decide)

end Fanout

end Overseer
