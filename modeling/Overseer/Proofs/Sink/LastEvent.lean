import Overseer.Proofs.Sink.Handed
import Overseer.Sink.Observer

/-!
# The Last Event of a Run

A run publishes `finished` last of all, but the fan-out may still raise a warning about that very
event: when a sink fails or falls behind for the first time on it, the other sinks are told so
after they were handed `finished`.  This module says exactly when that happens.

- `Slot.mem_publish_fst`: which warnings an event raises at one slot
- `Fanout.getLast?_handed_eq_finished`: when `finished` is the last event of one sink
- `Fanout.finishedLast_iff`: when it is the last event of every sink
- `Fanout.not_finishedLast_flakySinks`: a run that breaks the rule
-/

namespace Overseer

variable {σ : Type} [Sink σ]

/-! ## Section 1: The warnings of one slot

A sink fails newly, or falls behind newly, if it had not done so before.  Both can be told from the
slot alone, before the event is published. -/

namespace Slot

/-- The event is the first one that the sink fails to take. -/
def NewlyFails (slot : Slot σ) (e : Event) : Prop :=
  slot.failureReported = false ∧ ∃ reason, (Sink.publish slot.sink e).1 = .failed reason

/-- The event is the first one that pushes older ones out of the sink. -/
def NewlyOverflows (slot : Slot σ) (e : Event) : Prop :=
  slot.overflowReported = false ∧ ∃ count, (Sink.publish slot.sink e).1 = .dropped count

theorem mem_publish_fst {slot : Slot σ} {place : Nat} {e : Event} {w : SinkWarning} :
    w ∈ (slot.publish place e).1 ↔
      (slot.overflowReported = false ∧ (∃ count, (Sink.publish slot.sink e).1 = .dropped count) ∧
        w = ⟨none, overflowMessage (Sink.name (Sink.publish slot.sink e).2)⟩) ∨
      (slot.failureReported = false ∧ ∃ reason, (Sink.publish slot.sink e).1 = .failed reason ∧
        w = ⟨some place, failureMessage (Sink.name (Sink.publish slot.sink e).2) reason⟩) := by
  simp only [publish]
  cases hdelivery : (Sink.publish slot.sink e).1 with
  | delivered => simp
  | dropped count => cases slot.overflowReported <;> simp
  | failed reason => cases slot.failureReported <;> simp

/-- Only the sink at `heard` may miss a warning, and only the one about its own failure. -/
theorem forall_mem_publish_fst {slot : Slot σ} {place heard : Nat} {e : Event} :
    (∀ w ∈ (slot.publish place e).1, w.except = some heard) ↔
      ¬slot.NewlyOverflows e ∧ (slot.NewlyFails e → place = heard) := by
  constructor
  · intro h
    refine ⟨fun ⟨hfresh, hdropped⟩ => ?_, fun ⟨hfresh, reason, hfailed⟩ => ?_⟩
    · exact absurd (h _ (mem_publish_fst.mpr (.inl ⟨hfresh, hdropped, rfl⟩))) nofun
    · exact Option.some.inj (h _ (mem_publish_fst.mpr (.inr ⟨hfresh, reason, hfailed, rfl⟩)))
  · rintro ⟨hoverflow, hfail⟩ w hw
    rcases mem_publish_fst.mp hw with ⟨hfresh, hdropped, -⟩ | ⟨hfresh, reason, hfailed, rfl⟩
    · exact absurd ⟨hfresh, hdropped⟩ hoverflow
    · exact congrArg some (hfail ⟨hfresh, reason, hfailed⟩)

end Slot

/-! ## Section 2: Runs

Runs are followed twice, with watched sinks and with the sinks themselves: what is handed is noted
by the one, and which warnings are raised is said about the other. -/

namespace Fanout

/-- The sinks of a run after it published events. -/
def after (sinks : List σ) (events : List Event) : Fanout σ := events.foldl publish (ofSinks sinks)

/-- The sinks of a run after it published events, watched from the start. -/
def watched (sinks : List σ) (events : List Event) : Fanout (Watched σ) :=
  after (sinks.map Watched.ofSink) events

/-- Each sink of a run that publishes events and then the outcome is handed nothing after the
outcome. -/
def FinishedLast (sinks : List σ) (events : List Event) (outcome : Outcome) : Prop :=
  ∀ place handed, (watched sinks (events ++ [.finished outcome])).handed? place = some handed →
    handed.getLast? = some (.finished outcome)

theorem after_concat (sinks : List σ) (events : List Event) (e : Event) :
    after sinks (events ++ [e]) = (after sinks events).publish e := by
  simp only [after, List.foldl_append, List.foldl_cons, List.foldl_nil]

theorem unwatch_foldl_publish (fanout : Fanout (Watched σ)) (events : List Event) :
    (events.foldl publish fanout).unwatch = events.foldl publish fanout.unwatch := by
  induction events generalizing fanout with
  | nil => rfl
  | cons e events ih => rw [List.foldl_cons, List.foldl_cons, ih, unwatch_publish]

/-- A run goes on in the same way whether or not its sinks are watched. -/
theorem unwatch_watched (sinks : List σ) (events : List Event) :
    (watched sinks events).unwatch = after sinks events := by
  have hsinks : (ofSinks (sinks.map Watched.ofSink)).unwatch = ofSinks sinks := by
    simp only [unwatch, ofSinks, List.map_map]
    rfl
  rw [watched, after, unwatch_foldl_publish, hsinks, after]

theorem length_slots_after (sinks : List σ) (events : List Event) :
    (after sinks events).slots.length = sinks.length := by
  have hfold : ∀ fanout : Fanout σ,
      (events.foldl publish fanout).slots.length = fanout.slots.length := by
    induction events with
    | nil => exact fun fanout => rfl
    | cons e events ih => exact fun fanout => (ih _).trans (length_slots_publish fanout e)
  rw [after, hfold, ofSinks, List.length_map]

/-! ## Section 3: When the outcome comes last

A warning about an overflow goes to all sinks, one about a failure goes to all others.  So with a
single sink a failure on the outcome stays without consequence, and an overflow does not. -/

/-- An event raises the same warnings whether or not the sinks are watched. -/
theorem raised_unwatch (fanout : Fanout (Watched σ)) (e : Event) :
    fanout.unwatch.raised e = fanout.raised e := by
  simp only [raised, unwatch, unwatch_publishFrom]

/-- What a sink was handed ends with the outcome when it hears no warning about the outcome. -/
theorem getLast?_finished_warnings (handed : List Event) (outcome : Outcome)
    (warnings : List SinkWarning) :
    (handed ++ .finished outcome :: warnings.map fun w => Event.warning w.message).getLast? =
      some (.finished outcome) ↔ warnings = [] := by
  constructor
  · intro h
    -- a warning at the end would stand behind the outcome
    rcases List.eq_nil_or_concat warnings with rfl | ⟨front, w, rfl⟩
    · rfl
    · rw [List.concat_eq_append, List.map_append, List.map_singleton, ← List.cons_append,
        ← List.append_assoc, List.getLast?_concat] at h
      exact absurd (Option.some.inj h) nofun
  · rintro rfl
    exact List.getLast?_concat

/-- No warning about an event reaches a sink exactly if no slot overflows for the first time, and
none but the sink's own fails for the first time. -/
theorem heardAt_raised_eq_nil {fanout : Fanout σ} {e : Event} {heard : Nat} :
    heardAt heard (fanout.raised e) = [] ↔
      ∀ (i : Nat) (slot : Slot σ), fanout.slots[i]? = some slot →
        ¬slot.NewlyOverflows e ∧ (slot.NewlyFails e → i = heard) := by
  simp only [heardAt, List.filter_eq_nil_iff, decide_not, Bool.not_eq_eq_eq_not, Bool.not_true,
    decide_eq_false_iff_not, Decidable.not_not]
  constructor
  · -- a warning that is raised is the warning of some slot, and heard by all sinks but one
    intro h i slot hi
    refine Slot.forall_mem_publish_fst.mp fun w hw => h w ?_
    exact mem_publishFrom.mpr ⟨i, slot, hi, by rwa [Nat.zero_add]⟩
  · intro h w hw
    obtain ⟨i, slot, hi, hw⟩ := mem_publishFrom.mp hw
    rw [Nat.zero_add] at hw
    exact Slot.forall_mem_publish_fst.mpr (h i slot hi) w hw

/-- The outcome is the last event of the sink at a place exactly if no sink falls behind for the
first time on it and no other sink fails for the first time on it. -/
theorem getLast?_handed_eq_finished {sinks : List σ} {events : List Event} {outcome : Outcome}
    {place : Nat} {handed : List Event}
    (hhanded : (watched sinks (events ++ [.finished outcome])).handed? place = some handed) :
    handed.getLast? = some (.finished outcome) ↔
      ∀ (i : Nat) (slot : Slot σ), (after sinks events).slots[i]? = some slot →
        ¬slot.NewlyOverflows (.finished outcome) ∧
          (slot.NewlyFails (.finished outcome) → i = place) := by
  rw [watched, after_concat, handed_publish] at hhanded
  obtain ⟨before, -, rfl⟩ := Option.map_eq_some_iff.mp hhanded
  -- the condition is about the sinks themselves, so what was noted is left out
  rw [getLast?_finished_warnings, ← raised_unwatch]
  exact unwatch_watched sinks events ▸ heardAt_raised_eq_nil

/-- Each place of the sinks is the place of a slot that was handed something. -/
theorem exists_handed {sinks : List σ} {events : List Event} {place : Nat}
    (hplace : place < sinks.length) :
    ∃ handed, (watched sinks events).handed? place = some handed := by
  have hslots : place < (watched sinks events).slots.length := by
    rwa [watched, length_slots_after, List.length_map]
  exact ⟨_, by rw [handed?, List.getElem?_eq_getElem hslots, Option.map_some]⟩

/-- **When the outcome is the last event of a run**: exactly if no sink falls behind for the first
time on it, and none fails for the first time on it unless that sink is the only one. -/
theorem finishedLast_iff (sinks : List σ) (events : List Event) (outcome : Outcome) :
    FinishedLast sinks events outcome ↔
      ∀ slot ∈ (after sinks events).slots, ¬slot.NewlyOverflows (.finished outcome) ∧
        (slot.NewlyFails (.finished outcome) → sinks.length = 1) := by
  have hlength := length_slots_after sinks events
  constructor
  · intro hlast slot hslot
    obtain ⟨i, hi⟩ := List.mem_iff_getElem?.mp hslot
    have hlt : i < sinks.length := hlength ▸ (List.getElem?_eq_some_iff.mp hi).1
    have hquiet : ∀ place < sinks.length, ¬slot.NewlyOverflows (.finished outcome) ∧
        (slot.NewlyFails (.finished outcome) → i = place) := by
      intro place hplace
      obtain ⟨handed, hhanded⟩ := exists_handed hplace
      exact (getLast?_handed_eq_finished hhanded).mp (hlast place handed hhanded) i slot hi
    refine ⟨(hquiet i hlt).1, fun hfails => ?_⟩
    -- a failing sink stands at every place, so the first place and the last are the same
    have hfirst := (hquiet 0 (by omega)).2 hfails
    have hfinal := (hquiet (sinks.length - 1) (by omega)).2 hfails
    omega
  · intro hquiet place handed hhanded
    refine (getLast?_handed_eq_finished hhanded).mpr fun i slot hi => ?_
    obtain ⟨hoverflow, hfail⟩ := hquiet slot (List.mem_of_getElem? hi)
    refine ⟨hoverflow, fun hfails => ?_⟩
    have hone := hfail hfails
    have hi := (List.getElem?_eq_some_iff.mp hi).1
    obtain ⟨slot', hslot', -⟩ := Option.map_eq_some_iff.mp hhanded
    have hplace := (List.getElem?_eq_some_iff.mp hslot').1
    rw [watched, length_slots_after, List.length_map] at hplace
    omega

/-- One sink that keeps everything, and one that fails on the second event. -/
def flakySinks : List Observer := [.memory [], .planned ⟨"flaky", [1], "boom", [], 1, 0⟩]

/-- **A warning behind the outcome**: the second sink fails for the first time on the outcome, and
the first one hears of it after the outcome. -/
theorem not_finishedLast_flakySinks :
    (watched flakySinks [.started 7 "true", .finished (.completed 0)]).handed? 0 =
        some [.started 7 "true", .finished (.completed 0), .warning "flaky sink failed: boom"] ∧
      ¬FinishedLast flakySinks [.started 7 "true"] (.completed 0) := by
  have hhanded : (watched flakySinks [.started 7 "true", .finished (.completed 0)]).handed? 0 =
      some [.started 7 "true", .finished (.completed 0), .warning "flaky sink failed: boom"] := rfl
  refine ⟨hhanded, fun hlast => ?_⟩
  exact absurd (hlast 0 _ hhanded) (by decide)

end Fanout

end Overseer
