import Mathlib.Data.List.Induction
import Mathlib.Data.List.Nodup
import Overseer.Proofs.Sink.LastEvent

/-!
# The Trace of a Run

What a sink is handed can be told from what the sinks replied to the published events alone: every
event, and behind it one warning for each sink that failed, or fell behind, for the first time on
that event.  What becomes of the warnings leaves no trace.

- `Slot.publish_fst`: what a slot raises, from its reply and from what was reported before
- `Fanout.reported_after`: what was reported about a slot is the history of its replies
- `Fanout.raised_eq_warningsAt`: what an event raises, from the replies
- `Fanout.traced`: the whole run
-/

namespace Overseer

variable {σ : Type} [Sink σ]

/-- Whether the event is a warning, of the run or about a sink. -/
def Event.isWarning : Event → Bool
  | .warning _ => true
  | _ => false

/-! ## Section 1: Replies

A sink may go by another word from one event to the next, and the word stands in the warnings about
it; so a reply has both, the delivery and the word.  A slot raises a warning for the first reply of
each kind only.  It hands warnings to its sink too, but looks at none of the replies to them:
otherwise two sinks that fail would warn about each other without end. -/

/-- Both deliveries fail, or both push older events out. -/
def Delivery.repeats : Delivery → Delivery → Bool
  | .dropped _, .dropped _ => true
  | .failed _, .failed _ => true
  | _, _ => false

/-- What a sink made of an event of the run, with the word for the sink. -/
structure Reply where
  name : String
  delivery : Delivery

/-- The warning that the reply of the sink at a place calls for. -/
def Reply.warning? (reply : Reply) (place : Nat) : Option SinkWarning :=
  match reply.delivery with
  | .delivered => none
  | .dropped _ => some ⟨none, overflowMessage reply.name⟩
  | .failed reason => some ⟨some place, failureMessage reply.name reason⟩

/-- Replies that call for warnings of the same kind repeat each other. -/
theorem Reply.repeats_of_except_eq {r r' : Reply} {place : Nat} {w w' : SinkWarning}
    (hw : r.warning? place = some w) (hw' : r'.warning? place = some w')
    (hexcept : w.except = w'.except) : r.delivery.repeats r'.delivery = true := by
  simp only [Reply.warning?] at hw hw'
  cases hr : r.delivery <;> cases hr' : r'.delivery <;>
    simp only [hr, hr', reduceCtorEq, Option.some.injEq] at hw hw' <;> subst hw hw' <;>
    first | rfl | exact absurd hexcept nofun

namespace Slot

/-- The reply of the sink to an event.  The word is the one for the sink behind the event. -/
def reply (slot : Slot σ) (e : Event) : Reply :=
  ⟨Sink.name (Sink.publish slot.sink e).2, (Sink.publish slot.sink e).1⟩

/-- A delivery of this kind was reported already. -/
def reported (slot : Slot σ) : Delivery → Bool
  | .delivered => false
  | .dropped _ => slot.overflowReported
  | .failed _ => slot.failureReported

omit [Sink σ] in
@[simp]
theorem reported_ofSink (sink : σ) (d : Delivery) : (ofSink sink).reported d = false := by
  cases d <;> rfl

/-- A slot raises the warning that its reply calls for, unless the like was reported already. -/
theorem publish_fst (slot : Slot σ) (place : Nat) (e : Event) :
    (slot.publish place e).1 =
      (if slot.reported (slot.reply e).delivery then none
        else (slot.reply e).warning? place).toList := by
  obtain ⟨delivery, hdelivery⟩ : ∃ d, (Sink.publish slot.sink e).1 = d := ⟨_, rfl⟩
  simp only [publish, reply, Reply.warning?, hdelivery]
  cases delivery with
  | delivered => simp
  | dropped count => cases hflag : slot.overflowReported <;> simp [reported, hflag]
  | failed reason => cases hflag : slot.failureReported <;> simp [reported, hflag]

theorem reported_after (slot : Slot σ) (e : Event) (d : Delivery) :
    (slot.after e).reported d = (slot.reported d || (slot.reply e).delivery.repeats d) := by
  simp only [after, publish, reply]
  cases (Sink.publish slot.sink e).1 <;> cases d <;> simp [reported, Delivery.repeats]

/-- Whatever becomes of warnings, it is not reported. -/
theorem reported_foldl_warn (warnings : List SinkWarning) (slot : Slot σ) (d : Delivery) :
    (warnings.foldl (fun slot w => slot.warn w.message) slot).reported d = slot.reported d := by
  induction warnings generalizing slot with
  | nil => rfl
  | cons w warnings ih =>
    have hwarn : (slot.warn w.message).reported d = slot.reported d := by cases d <;> rfl
    rw [List.foldl_cons, ih, hwarn]

end Slot

/-! ## Section 2: Warnings and traces, from the replies

From here on there are no slots: everything is told from the replies of the sinks that a run begins
with.  The definitions are those of a reader who has the replies of all sinks before him and works
out, event by event, who hears of what. -/

namespace Fanout

/-- The reply of the sink at a place to the published event of a number. -/
def replyAt (sinks : List σ) (events : List Event) (place k : Nat) : Option Reply :=
  events[k]?.bind fun e => (after sinks (events.take k)).slots[place]?.map (·.reply e)

/-- The sink at a place gave a reply of this kind to one of the first `k` published events. -/
def repliedBefore (sinks : List σ) (events : List Event) (place k : Nat) (d : Delivery) : Bool :=
  (List.range k).any fun j => (replyAt sinks events place j).any (·.delivery.repeats d)

/-- The warning that the sink at a place causes at the published event of a number: the one that
its reply calls for, if it is the first reply of its kind. -/
def causedAt (sinks : List σ) (events : List Event) (k place : Nat) : Option SinkWarning :=
  (replyAt sinks events place k).bind fun reply =>
    if repliedBefore sinks events place k reply.delivery then none else reply.warning? place

/-- The warnings of the published event of a number, in the order of the sinks. -/
def warningsAt (sinks : List σ) (events : List Event) (k : Nat) : List SinkWarning :=
  (List.range sinks.length).filterMap (causedAt sinks events k)

/-- The warnings that the sink at a place causes over a run. -/
def caused (sinks : List σ) (events : List Event) (place : Nat) : List SinkWarning :=
  (List.range events.length).filterMap fun k => causedAt sinks events k place

/-- The published events, each with the warnings that reach the sink at a place behind it. -/
def trace (sinks : List σ) (events : List Event) (place : Nat) : List Event :=
  events.zipIdx.flatMap fun (e, k) =>
    e :: (heardAt place (warningsAt sinks events k)).map fun w => .warning w.message

/-! What is published later changes neither the replies nor the warnings of earlier events. -/

theorem replyAt_append (sinks : List σ) (events more : List Event) (place : Nat) {k : Nat}
    (hk : k < events.length) :
    replyAt sinks (events ++ more) place k = replyAt sinks events place k := by
  simp only [replyAt, List.getElem?_append_left hk,
    List.take_append_of_le_length (Nat.le_of_lt hk)]

theorem repliedBefore_append (sinks : List σ) (events more : List Event) (place : Nat) {k : Nat}
    (hk : k ≤ events.length) (d : Delivery) :
    repliedBefore sinks (events ++ more) place k d = repliedBefore sinks events place k d := by
  rw [Bool.eq_iff_iff]
  simp only [repliedBefore, List.any_eq_true, List.mem_range]
  refine exists_congr fun j => and_congr_right fun hj => ?_
  rw [replyAt_append sinks events more place (by omega)]

theorem warningsAt_append (sinks : List σ) (events more : List Event) {k : Nat}
    (hk : k < events.length) :
    warningsAt sinks (events ++ more) k = warningsAt sinks events k := by
  have hcaused : causedAt sinks (events ++ more) k = causedAt sinks events k := by
    funext place
    simp only [causedAt, replyAt_append sinks events more place hk,
      repliedBefore_append sinks events more place (Nat.le_of_lt hk)]
  rw [warningsAt, hcaused, warningsAt]

theorem replyAt_concat (sinks : List σ) (events : List Event) (e : Event) (place : Nat) :
    replyAt sinks (events ++ [e]) place events.length =
      (after sinks events).slots[place]?.map (·.reply e) := by
  simp [replyAt]

theorem repliedBefore_concat (sinks : List σ) (events : List Event) (e : Event) (place : Nat)
    (d : Delivery) :
    repliedBefore sinks (events ++ [e]) place (events.length + 1) d =
      (repliedBefore sinks events place events.length d ||
        ((after sinks events).slots[place]?.map (·.reply e)).any (·.delivery.repeats d)) := by
  have hbefore := repliedBefore_append sinks events [e] place (Nat.le_refl _) d
  simp only [repliedBefore] at hbefore
  simp only [repliedBefore, List.range_succ, List.any_append, hbefore, List.any_cons,
    List.any_nil, Bool.or_false, replyAt_concat]

theorem trace_concat (sinks : List σ) (events : List Event) (e : Event) (place : Nat) :
    trace sinks (events ++ [e]) place = trace sinks events place ++
      e :: (heardAt place (warningsAt sinks (events ++ [e]) events.length)).map
        fun w => .warning w.message := by
  simp only [trace, List.zipIdx_append, List.flatMap_append, Nat.zero_add, List.zipIdx_cons,
    List.zipIdx_nil, List.flatMap_cons, List.flatMap_nil, List.append_nil]
  congr 1
  refine List.flatMap_congr fun p hp => ?_
  rw [warningsAt_append sinks events [e] (List.snd_lt_of_mem_zipIdx hp)]

/-! ## Section 3: What is raised

By induction on the events: a slot remembers the kinds of the replies that its sink gave, so the
warnings that it raises next are those that the reader of the replies expects. -/

/-- **What was reported about a slot** is the history of its replies to the published events. -/
theorem reported_after (sinks : List σ) (events : List Event) {place : Nat} {slot : Slot σ}
    (hslot : (after sinks events).slots[place]? = some slot) (d : Delivery) :
    slot.reported d = repliedBefore sinks events place events.length d := by
  induction events using List.reverseRecOn generalizing slot with
  | nil =>
    obtain ⟨sink, -, rfl⟩ := by simpa [after, ofSinks] using hslot
    exact Slot.reported_ofSink sink d
  | append_singleton events e ih =>
    rw [after_concat, slots_publish] at hslot
    obtain ⟨before, hbefore, rfl⟩ := Option.map_eq_some_iff.mp hslot
    rw [Slot.reported_foldl_warn, Slot.reported_after, ih hbefore, List.length_append,
      List.length_singleton, repliedBefore_concat, hbefore, Option.map_some, Option.any_some]

/-- The warnings of the slots from a place on, when each slot raises at most one. -/
theorem publishFrom_fst (e : Event) (cause : Nat → Option SinkWarning) (place : Nat)
    (slots : List (Slot σ))
    (hcause : ∀ i slot, slots[i]? = some slot →
      (slot.publish (place + i) e).1 = (cause (place + i)).toList) :
    (publishFrom e place slots).1 = (List.range' place slots.length).filterMap cause := by
  induction slots generalizing place with
  | nil => rfl
  | cons slot slots ih =>
    -- the first slot stands at the place itself, and the others one further on
    have hfirst := hcause 0 slot rfl
    have hrest := ih (place + 1) fun i slot hi => by
      rw [Nat.add_assoc, Nat.add_comm 1 i]
      exact hcause (i + 1) slot hi
    simp only [Nat.add_zero] at hfirst
    simp only [publishFrom, hfirst, hrest, List.length_cons, List.range'_succ,
      List.filterMap_cons]
    cases cause place <;> rfl

/-- **What an event raises** can be told from the replies to it and to the events before it. -/
theorem raised_eq_warningsAt (sinks : List σ) (events : List Event) (e : Event) :
    (after sinks events).raised e = warningsAt sinks (events ++ [e]) events.length := by
  rw [raised, publishFrom_fst e (causedAt sinks (events ++ [e]) events.length), warningsAt,
    length_slots_after, List.range_eq_range']
  -- one slot: what was reported about it is the history of its replies
  intro place slot hslot
  rw [Nat.zero_add, Slot.publish_fst, causedAt, replyAt_concat, hslot, Option.map_some,
    Option.bind_some, repliedBefore_append sinks events [e] place (Nat.le_refl _),
    reported_after sinks events hslot]

/-- The trace is what the sink at a place is handed. -/
theorem handed_eq_trace (sinks : List σ) (events : List Event) {place : Nat}
    (hplace : place < sinks.length) :
    (watched sinks events).handed? place = some (trace sinks events place) := by
  induction events using List.reverseRecOn with
  | nil => simp [watched, after, ofSinks, handed?, hplace, trace, Slot.ofSink, Watched.ofSink]
  | append_singleton events e ih =>
    -- a watched sink raises what the sink itself raises
    have hwatched : watched sinks (events ++ [e]) = (watched sinks events).publish e :=
      after_concat _ _ _
    rw [hwatched, handed_publish, ih, Option.map_some, trace_concat, ← raised_eq_warningsAt,
      ← raised_unwatch, unwatch_watched]

/-! ## Section 4: The whole run

A kind that caused a warning is repeated by all later replies of that kind, and there are two kinds.
So a sink causes two warnings at most over a whole run, however long the run is. -/

/-- The replies of a sink that cause warnings are of different kinds. -/
theorem pairwise_caused (sinks : List σ) (events : List Event) (place : Nat) :
    (caused sinks events place).Pairwise fun w w' => w.except ≠ w'.except := by
  rw [caused, List.pairwise_filterMap]
  refine List.pairwise_lt_range.imp fun {j k} hlt w hw w' hw' hexcept => ?_
  obtain ⟨r, hr, hw⟩ := Option.bind_eq_some_iff.mp hw
  obtain ⟨r', hr', hw'⟩ := Option.bind_eq_some_iff.mp hw'
  split at hw
  · cases hw
  split at hw'
  · cases hw'
  next hfirst =>
    -- the earlier reply is of the kind of the later one, which is then not the first
    refine hfirst (List.any_eq_true.mpr ⟨j, List.mem_range.mpr hlt, ?_⟩)
    rw [hr, Option.any_some]
    exact Reply.repeats_of_except_eq hw hw' hexcept

/-- A sink causes at most one warning of a kind. -/
theorem count_except_caused_le (sinks : List σ) (events : List Event) (place : Nat)
    (except : Option Nat) :
    ((caused sinks events place).map (·.except)).count except ≤ 1 :=
  List.nodup_iff_count_le_one.mp (List.pairwise_map.mpr (pairwise_caused sinks events place)) _

/-- Apart from warnings, a trace holds what was published. -/
theorem filter_trace (sinks : List σ) (events : List Event) (place : Nat) :
    (trace sinks events place).filter (!·.isWarning) = events.filter (!·.isWarning) := by
  have hwarnings (warnings : List SinkWarning) :
      (warnings.map fun w => Event.warning w.message).filter (!·.isWarning) = [] := by
    simp [Event.isWarning]
  induction events using List.reverseRecOn with
  | nil => rfl
  | append_singleton events e ih =>
    rw [trace_concat, List.filter_append, ih, ← List.singleton_append, List.filter_append,
      hwarnings, List.append_nil, List.filter_append]

/-- What a run hands to its sinks, and what it raises about them.  Each field is about any place,
whatever stands at the others. -/
structure Traced (sinks : List σ) (events : List Event) : Prop where
  /-- A sink is handed the published events in order, each with the warnings that it raised behind
  it, in the order of the sinks and without the one about the failure of this sink. -/
  handed : ∀ place < sinks.length,
    (watched sinks events).handed? place = some (trace sinks events place)
  /-- A published event raises a warning about each sink whose reply to it is the first failure,
  or the first overflow, among its replies to published events; nothing else raises any. -/
  raised : ∀ k e, events[k]? = some e →
    (after sinks (events.take k)).raised e = warningsAt sinks events k
  /-- Whatever the sinks do, each is handed what is published, apart from warnings, once and in
  order. -/
  inOrder : ∀ place < sinks.length, ∀ handed,
    (watched sinks events).handed? place = some handed →
      handed.filter (!·.isWarning) = events.filter (!·.isWarning)
  /-- A sink causes at most one warning that it falls behind. -/
  overflowOnce : ∀ place, ((caused sinks events place).map (·.except)).count none ≤ 1
  /-- A sink causes at most one warning that it failed. -/
  failureOnce : ∀ place, ((caused sinks events place).map (·.except)).count (some place) ≤ 1

/-- **The trace of a run**, for all sinks and all published events.  What a sink answers may depend
on everything that it was handed before, warnings included. -/
theorem traced (sinks : List σ) (events : List Event) : Traced sinks events where
  handed _ hplace := handed_eq_trace sinks events hplace
  raised k e hk := by
    obtain ⟨hlt, rfl⟩ := List.getElem?_eq_some_iff.mp hk
    -- the events up to the one in question decide which warnings it raises
    have hlength : (events.take k).length = k := List.length_take_of_le (Nat.le_of_lt hlt)
    have happend := warningsAt_append sinks (events.take (k + 1)) (events.drop (k + 1)) (k := k)
      (by rw [List.length_take]; omega)
    rw [List.take_append_drop, ← List.take_append_getElem hlt] at happend
    rw [raised_eq_warningsAt, hlength, happend]
  inOrder place hplace handed hhanded := by
    -- the warnings interrupt what is published, and leave its order as it was
    rw [handed_eq_trace sinks events hplace, Option.some.injEq] at hhanded
    rw [← hhanded, filter_trace]
  overflowOnce place := count_except_caused_le sinks events place none
  failureOnce place := count_except_caused_le sinks events place (some place)

/-- Two sinks that take nothing: each hears once of the other, and not of the warnings that
neither of them took. -/
example :
    let deaf (name : String) : PlannedSink := ⟨name, [0, 1, 2, 3], "gone", [], 0, 0⟩
    let sinks : List Observer := [.planned (deaf "a"), .planned (deaf "b")]
    let events : List Event := [.output "x", .output "y"]
    trace sinks events 0 = [.output "x", .warning "b sink failed: gone", .output "y"] ∧
      trace sinks events 1 = [.output "x", .warning "a sink failed: gone", .output "y"] := by
  decide

end Fanout

end Overseer
