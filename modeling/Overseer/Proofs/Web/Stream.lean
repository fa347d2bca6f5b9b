import Mathlib.Data.List.ReduceOption
import Overseer.Proofs.Sink.Feed
import Overseer.Web.Site

/-!
# The Stream of a Run

A request to run a script is answered by a stream of frames.  The stream reads the events of the
run from a channel while the run queues them, and the site may change in any way between two of
its steps.  Whatever happens in between, the response tells the events that were read, one frame
each, with heartbeats among them; and if the outcome was read, its status is the last frame.

- `Site.proceed_streaming`: what one step of a stream does
- `Site.Streams.tells`: what the response tells when the stream is over
- `Site.Streams.of_queue`: a stream that finds the outcome queued comes to its end
-/

namespace Overseer.Web

/-! ## Section 1: Pieces of a stream

A response is the frames that were sent, with heartbeats among them.  The pieces keep the two apart,
so that what was told can be read off them. -/

namespace Frame

/-- What is sent of a stream: a frame, or nothing but a sign of life. -/
def piece : Option Frame → String
  | some frame => frame.render
  | none => heartbeat

/-- Only the outcome of a run is told as a status. -/
theorem ofEvent_eq_ofOutcome {e : Event} {outcome : Outcome} (h : ofEvent e = ofOutcome outcome) :
    e.isFinished = true := by
  cases e <;> first | rfl | cases h

end Frame

/-- The response tells events, with heartbeats among them and nothing behind an outcome. -/
def Response.Tells (response : Response) (sent : List String) (events : List Event)
    (pieces : List (Option Frame)) : Prop :=
  response = .ofFrames (String.join (sent.reverse ++ pieces.map Frame.piece)) ∧
    pieces.reduceOption = events.map Frame.ofEvent ∧
    ∀ e ∈ events, e.isFinished = true → pieces.getLast? = some (some (Frame.ofEvent e))

/-! ## Section 2: Steps

Between two steps of a stream the site may be any other one, since runs, clients and other streams
go on meanwhile.  All that a step needs of the site is the channel of its run. -/

namespace Site

/-- The event that the stream of a run reads next. -/
def next? (s : Site) (run : Nat) : Option Event :=
  match s.host.observer? run 0 with
  | some (.channel channel) => channel.queue.head?
  | _ => none

/-- How a stream goes on over its steps, and the events that it reads.  Each step finds the site
as everything else has left it. -/
inductive Streams (run : Nat) : Phase → List Event → Phase → Prop where
  | refl (phase : Phase) : Streams run phase [] phase
  | step {s s' : Site} {phase phase' last : Phase} {events : List Event}
      (hproceed : s.proceed phase = some (phase', s')) (hrest : Streams run phase' events last) :
      Streams run phase ((s.next? run).toList ++ events) last

theorem next?_of_channel {s : Site} {run : Nat} {channel : Channel}
    (hchannel : s.host.observer? run 0 = some (.channel channel)) :
    s.next? run = channel.queue.head? := by
  rw [next?, hchannel]

/-- **One step of a stream**: it tells the next event, and is over if that is the outcome; if there
is none, it is over or sends a heartbeat. -/
theorem proceed_streaming {s s' : Site} {run since : Nat} {sent : List String} {phase : Phase}
    (h : s.proceed (.streaming run sent since) = some (phase, s')) :
    (∃ e, s.next? run = some e ∧ e.isFinished = true ∧
        phase = .answered (.ofFrames (String.join ((Frame.ofEvent e).render :: sent).reverse))) ∨
      (∃ e, s.next? run = some e ∧ e.isFinished = false ∧
        phase = .streaming run ((Frame.ofEvent e).render :: sent) s.host.machine.now) ∨
      (s.next? run = none ∧
        (phase = .answered (.ofFrames (String.join sent.reverse)) ∨
          phase = .streaming run (Frame.heartbeat :: sent) s.host.machine.now)) := by
  simp only [proceed] at h
  split at h
  · next channel hchannel =>
    have hnext := next?_of_channel hchannel
    -- a queued event is told; an empty queue tells a run that is over from one that is silent
    cases hqueue : channel.queue with
    | cons e rest =>
      simp only [Channel.receive, hqueue] at h
      rw [hqueue, List.head?_cons] at hnext
      cases hfinished : e.isFinished with
      | true =>
        simp only [hfinished, if_true, Option.some.injEq, Prod.mk.injEq] at h
        exact .inl ⟨e, hnext, hfinished, h.1.symm⟩
      | false =>
        simp only [hfinished, Bool.false_eq_true, if_false, Option.some.injEq, Prod.mk.injEq] at h
        exact .inr (.inl ⟨e, hnext, hfinished, h.1.symm⟩)
    | nil =>
      rw [hqueue, List.head?_nil] at hnext
      refine .inr (.inr ⟨hnext, ?_⟩)
      have hreceived : (channel.receive).1 = if channel.closed then .closed else .pending := by
        rw [Channel.receive, hqueue]
      split at h
      · next e channel' hevent =>
        rw [hevent] at hreceived
        split at hreceived <;> cases hreceived
      · split at h
        · exact .inl (congrArg Prod.fst (Option.some.inj h)).symm
        · split at h
          · exact .inr (congrArg Prod.fst (Option.some.inj h)).symm
          · cases h
  · next hother =>
    refine .inr (.inr ⟨?_, .inl (congrArg Prod.fst (Option.some.inj h)).symm⟩)
    simp only [next?]

/-- A stream goes on from where it stands. -/
theorem Streams.trans {run : Nat} {first mid last : Phase} {events more : List Event}
    (h : Streams run first events mid) (hmore : Streams run mid more last) :
    Streams run first (events ++ more) last := by
  induction h with
  | refl phase => exact hmore
  | step hproceed _ ih =>
    rw [List.append_assoc]
    exact .step hproceed (ih hmore)

/-- A response that is whole stays as it is. -/
theorem Streams.of_answered {run : Nat} {response : Response} {events : List Event}
    {last : Phase} (h : Streams run (.answered response) events last) :
    events = [] ∧ last = .answered response := by
  cases h with
  | refl => exact ⟨rfl, rfl⟩
  | step hproceed => cases hproceed

/-! ## Section 3: Streams

By induction on the steps: each of them tells the next event or nothing, and the first outcome is
the last event that is read. -/

/-- **What a stream tells**: when it is over, its response tells all events that it read.  The
induction is on the steps of the stream, and heartbeats may stand in between. -/
theorem Streams.tells {run since : Nat} {sent : List String} {events : List Event}
    {response : Response}
    (h : Streams run (.streaming run sent since) events (.answered response)) :
    ∃ pieces, response.Tells sent events pieces := by
  generalize hfirst : Phase.streaming run sent since = first at h
  generalize hlast : Phase.answered response = last at h
  induction h generalizing sent since with
  | refl phase => cases hfirst.trans hlast.symm
  | @step s s' phase phase' last events hproceed hrest ih =>
    subst hfirst hlast
    rcases proceed_streaming hproceed with
      ⟨e, hnext, hfinished, rfl⟩ | ⟨e, hnext, hfinished, rfl⟩ | ⟨hnext, rfl | rfl⟩
    · -- the outcome ends the stream
      obtain ⟨rfl, hresponse⟩ := hrest.of_answered
      cases hresponse
      refine ⟨[some (Frame.ofEvent e)], ?_, ?_, ?_⟩
      · simp [Frame.piece]
      · simp [hnext]
      · simp [hnext]
    · -- the frame of the event stands in front of those of the later steps
      obtain ⟨pieces, hresponse, htold, hfinal⟩ := ih rfl rfl
      refine ⟨some (Frame.ofEvent e) :: pieces, ?_, ?_, ?_⟩
      · simp [hresponse, Frame.piece]
      · simp [hnext, htold]
      · intro e' he' hfinished'
        rw [hnext, Option.toList_some, List.singleton_append, List.mem_cons] at he'
        rcases he' with rfl | he'
        · exact absurd hfinished' (by simp [hfinished])
        · rw [List.getLast?_cons, hfinal e' he' hfinished', Option.getD_some]
    · -- nothing is left of a run that is over
      obtain ⟨rfl, hresponse⟩ := hrest.of_answered
      cases hresponse
      exact ⟨[], by simp, by simp [hnext], by simp [hnext]⟩
    · -- a heartbeat is sent and tells nothing
      obtain ⟨pieces, hresponse, htold, hfinal⟩ := ih rfl rfl
      refine ⟨none :: pieces, ?_, ?_, ?_⟩
      · simp [hresponse, Frame.piece]
      · simp [hnext, htold]
      · intro e' he' hfinished'
        rw [hnext, Option.toList_none, List.nil_append] at he'
        rw [List.getLast?_cons, hfinal e' he' hfinished', Option.getD_some]

/-- A stream that is not over has read no outcome. -/
theorem Streams.unfinished {run since since' : Nat} {sent sent' : List String}
    {events : List Event}
    (h : Streams run (.streaming run sent since) events (.streaming run sent' since')) :
    ∀ e ∈ events, e.isFinished = false := by
  -- induction needs the two phases to be arbitrary, and only a stream goes on streaming
  generalize hfirst : Phase.streaming run sent since = first at h
  generalize hlast : Phase.streaming run sent' since' = last at h
  induction h generalizing sent since with
  | refl phase => exact fun e he => absurd he List.not_mem_nil
  | @step s s' phase phase' last events hproceed hrest ih =>
    subst hfirst hlast
    rcases proceed_streaming hproceed with
      ⟨e, hnext, hfinished, rfl⟩ | ⟨e, hnext, hfinished, rfl⟩ | ⟨hnext, rfl | rfl⟩
    · -- an answer is not a stream any more
      cases hrest.of_answered.2
    · rw [hnext]
      exact List.forall_mem_cons.mpr ⟨hfinished, ih rfl rfl⟩
    · cases hrest.of_answered.2
    · rw [hnext]
      exact ih rfl rfl

/-! ## Section 4: What is queued when the run is over

When the run is over, nobody queues events any more.  What is queued then is read one by one, and
the outcome ends the stream. -/

theorem observer?_modifyObserver (h : Host) (run place : Nat) (f : Observer → Observer) :
    (h.modifyObserver run place f).observer? run place = (h.observer? run place).map f := by
  simp only [Host.modifyObserver, Host.modifyRun, Host.observer?, Fanout.modify, Fanout.sink?,
    List.getElem?_modify_eq]
  cases h.runs[run]? with
  | none => rfl
  | some r => simp [Function.comp_def]

/-- The site after the stream of a run has taken the first event of its channel. -/
def afterRead (s : Site) (run : Nat) (channel : Channel) : Site :=
  { s with host := s.host.modifyObserver run 0 fun _ => .channel channel.receive.2 }

theorem proceed_of_cons {s : Site} {run since : Nat} {sent : List String} {channel : Channel}
    (hchannel : s.host.observer? run 0 = some (.channel channel)) {e : Event} {rest : List Event}
    (hqueue : channel.queue = e :: rest) :
    s.proceed (.streaming run sent since) = some
      (if e.isFinished then
          .answered (.ofFrames (String.join ((Frame.ofEvent e).render :: sent).reverse))
        else .streaming run ((Frame.ofEvent e).render :: sent) s.host.machine.now,
        s.afterRead run channel) := by
  have hreceive : channel.receive = (.event e, { channel with queue := rest }) := by
    rw [Channel.receive, hqueue]
  cases he : e.isFinished <;> simp [proceed, hchannel, hreceive, he, afterRead]

/-- **A stream comes to its end**: when the outcome is queued, the stream tells what is queued up
to it and is over. -/
theorem Streams.of_queue {s : Site} {run : Nat} {channel : Channel}
    (hchannel : s.host.observer? run 0 = some (.channel channel))
    (hfinished : channel.queue.any Event.isFinished = true) (sent : List String) (since : Nat) :
    ∃ response, Streams run (.streaming run sent since) (Event.untilFinished channel.queue)
      (.answered response) := by
  -- by induction on what is queued; every step finds the site that the one before has left
  obtain ⟨queue, hqueue⟩ : ∃ queue, channel.queue = queue := ⟨_, rfl⟩
  induction queue generalizing s channel sent since with
  | nil => simp [hqueue] at hfinished
  | cons e rest ih =>
    have hnext : s.next? run = some e := by rw [next?_of_channel hchannel, hqueue, List.head?_cons]
    have hproceed : s.proceed (.streaming run sent since) = _ := proceed_of_cons hchannel hqueue
    rw [hqueue, Event.untilFinished]
    cases he : e.isFinished with
    | true =>
      rw [he, if_pos rfl] at hproceed
      have hstep : Streams run _ _ _ := .step hproceed (.refl _)
      rw [hnext, Option.toList_some, List.append_nil] at hstep
      exact ⟨_, hstep⟩
    | false =>
      rw [he, if_neg Bool.false_ne_true] at hproceed
      have hrest : channel.receive.2.queue = rest := by rw [Channel.receive, hqueue]
      have hchannel' : (s.afterRead run channel).host.observer? run 0 =
          some (.channel channel.receive.2) := by
        rw [afterRead, observer?_modifyObserver, hchannel, Option.map_some]
      rw [hqueue, List.any_cons, he, Bool.false_or, ← hrest] at hfinished
      obtain ⟨response, hstreams⟩ := ih hchannel' hfinished _ _ hrest
      have hstep := Streams.step hproceed hstreams
      rw [hnext, hrest, Option.toList_some, List.singleton_append] at hstep
      exact ⟨response, hstep⟩

end Site

end Overseer.Web
