import Overseer.Sink.Fanout

/-!
# What Sinks Are Handed

A watched sink notes every event that it is handed.  Watching changes nothing else, so what a
watched sink notes is what the sink itself is handed in the same run.

- `Fanout.unwatch_publish`: watching changes nothing
- `Fanout.slots_publish`: what one event does to the slot at a place
- `Fanout.handed_publish`: the event, and behind it the warnings that it raised
-/

namespace Overseer

variable {σ : Type} [Sink σ]

/-! ## Section 1: Watched sinks

Sinks may keep nothing of what they are handed, and their replies are all that a fan-out sees of
them.  A watched sink replies as the sink itself does, so the notes are taken without the fan-out
knowing of it. -/

/-- A sink with the events that it was handed, oldest first. -/
structure Watched (σ : Type) where
  sink : σ
  handed : List Event

namespace Watched

/-- A sink that was handed nothing yet. -/
def ofSink (sink : σ) : Watched σ := ⟨sink, []⟩

/-- Hands an event to the sink and notes it. -/
def publish (w : Watched σ) (e : Event) : Delivery × Watched σ :=
  ((Sink.publish w.sink e).1, ⟨(Sink.publish w.sink e).2, w.handed ++ [e]⟩)

instance : Sink (Watched σ) where
  name w := Sink.name w.sink
  publish := publish

end Watched

/-- A slot without what was noted. -/
def Slot.unwatch (slot : Slot (Watched σ)) : Slot σ :=
  ⟨slot.sink.sink, slot.failureReported, slot.overflowReported⟩

/-- Sinks without what was noted. -/
def Fanout.unwatch (fanout : Fanout (Watched σ)) : Fanout σ := ⟨fanout.slots.map Slot.unwatch⟩

/-- The events that the sink at a place was handed. -/
def Fanout.handed? (fanout : Fanout (Watched σ)) (place : Nat) : Option (List Event) :=
  fanout.slots[place]?.map (·.sink.handed)

/-! ## Section 2: One event at one slot

An event and a warning reach a slot in the same way, but a reply to an event may raise a warning and
a reply to a warning never does. -/

namespace Slot

/-- The slot after an event of the run. -/
def after (slot : Slot σ) (e : Event) : Slot σ := (slot.publish 0 e).2

theorem publish_snd (slot : Slot σ) (place : Nat) (e : Event) :
    (slot.publish place e).2 = slot.after e := by
  simp only [after, publish]
  split <;> rfl

theorem handed_after (slot : Slot (Watched σ)) (e : Event) :
    (slot.after e).sink.handed = slot.sink.handed ++ [e] := by
  simp only [after, publish]
  split <;> rfl

theorem unwatch_publish (slot : Slot (Watched σ)) (place : Nat) (e : Event) :
    slot.unwatch.publish place e =
      ((slot.publish place e).1, (slot.publish place e).2.unwatch) := by
  have hdelivery : Sink.publish slot.sink e =
      ((Sink.publish slot.sink.sink e).1,
        ⟨(Sink.publish slot.sink.sink e).2, slot.sink.handed ++ [e]⟩) := rfl
  simp only [publish, hdelivery, unwatch]
  cases (Sink.publish slot.sink.sink e).1 <;> rfl

end Slot

/-! ## Section 3: One event at all slots

A fan-out goes over its slots twice: once with the event, gathering the warnings, and then with each
warning in turn.  Both are recursions on the list of slots with a place that counts along, and what
they do at one place depends on the slot at that place only. -/

namespace Fanout

/-- The warnings that an event raises. -/
def raised (fanout : Fanout σ) (e : Event) : List SinkWarning := (publishFrom e 0 fanout.slots).1

/-- The warnings that go to the sink at a place. -/
def heardAt (place : Nat) (warnings : List SinkWarning) : List SinkWarning :=
  warnings.filter fun w => w.except ≠ some place

theorem publishFrom_snd (e : Event) (place : Nat) (slots : List (Slot σ)) :
    (publishFrom e place slots).2 = slots.map (·.after e) := by
  induction slots generalizing place with
  | nil => rfl
  | cons slot slots ih => simp only [publishFrom, ih, Slot.publish_snd, List.map_cons]

/-- Each warning comes from the slot that it is about. -/
theorem mem_publishFrom {e : Event} {w : SinkWarning} {place : Nat} {slots : List (Slot σ)} :
    w ∈ (publishFrom e place slots).1 ↔
      ∃ (i : Nat) (slot : Slot σ),
        slots[i]? = some slot ∧ w ∈ (slot.publish (place + i) e).1 := by
  induction slots generalizing place with
  | nil => simp [publishFrom]
  | cons slot slots ih =>
    simp only [publishFrom, List.mem_append, ih]
    constructor
    · rintro (hw | ⟨i, slot', hi, hw⟩)
      · exact ⟨0, slot, rfl, hw⟩
      · exact ⟨i + 1, slot', hi, by rwa [Nat.add_right_comm] at hw⟩
    · rintro ⟨i, slot', hi, hw⟩
      -- the first slot stands at the place itself, the others stand behind it
      cases i with
      | zero =>
        cases hi
        exact .inl hw
      | succ i => exact .inr ⟨i, slot', hi, by rwa [Nat.add_right_comm]⟩

theorem getElem?_warnFrom (w : SinkWarning) (place i : Nat) (slots : List (Slot σ)) :
    (warnFrom w place slots)[i]? =
      slots[i]?.map fun slot =>
        if w.except = some (place + i) then slot else slot.warn w.message := by
  induction slots generalizing place i with
  | nil => rfl
  | cons slot slots ih =>
    cases i with
    | zero => rfl
    | succ i =>
      simp only [warnFrom, List.getElem?_cons_succ, ih, Nat.add_right_comm place 1 i,
        Nat.add_assoc place i 1]

/-- The slot at a place hears, one after the other, the warnings that are not about itself. -/
theorem getElem?_foldl_warnFrom (warnings : List SinkWarning) (i : Nat) (slots : List (Slot σ)) :
    (warnings.foldl (fun slots w => warnFrom w 0 slots) slots)[i]? =
      slots[i]?.map fun slot =>
        (heardAt i warnings).foldl (fun slot w => slot.warn w.message) slot := by
  induction warnings generalizing slots with
  | nil => simp [heardAt]
  | cons w warnings ih =>
    rw [List.foldl_cons, ih, getElem?_warnFrom, Option.map_map, Nat.zero_add]
    by_cases hw : w.except = some i
    · simp [heardAt, hw, Function.comp_def]
    · simp [heardAt, hw, Function.comp_def]

/-- The slot at a place after an event of the run. -/
theorem slots_publish (fanout : Fanout σ) (e : Event) (place : Nat) :
    (fanout.publish e).slots[place]? =
      fanout.slots[place]?.map fun slot =>
        (heardAt place (fanout.raised e)).foldl (fun slot w => slot.warn w.message)
          (slot.after e) := by
  simp only [publish, getElem?_foldl_warnFrom, publishFrom_snd, List.getElem?_map, Option.map_map]
  rfl

theorem length_slots_publish (fanout : Fanout σ) (e : Event) :
    (fanout.publish e).slots.length = fanout.slots.length := by
  refine Nat.le_antisymm (Nat.le_of_not_lt fun h => ?_) (Nat.le_of_not_lt fun h => ?_)
  · have := List.getElem?_eq_getElem h
    rw [slots_publish, List.getElem?_eq_none (Nat.le_refl _)] at this
    exact absurd this nofun
  · have := slots_publish fanout e (fanout.publish e).slots.length
    rw [List.getElem?_eq_none (Nat.le_refl _), List.getElem?_eq_getElem h] at this
    exact absurd this nofun

theorem handed_foldl_warn (warnings : List SinkWarning) (slot : Slot (Watched σ)) :
    (warnings.foldl (fun slot w => slot.warn w.message) slot).sink.handed =
      slot.sink.handed ++ warnings.map fun w => .warning w.message := by
  induction warnings generalizing slot with
  | nil => simp
  | cons w warnings ih =>
    have hwarn : (slot.warn w.message).sink.handed = slot.sink.handed ++ [.warning w.message] := rfl
    rw [List.foldl_cons, ih, hwarn, List.append_assoc, List.map_cons, List.singleton_append]

/-- **What an event hands to a sink**: the event itself, and then the warnings that it raised,
except for the one about the failure of this sink. -/
theorem handed_publish (fanout : Fanout (Watched σ)) (e : Event) (place : Nat) :
    (fanout.publish e).handed? place =
      (fanout.handed? place).map fun handed =>
        handed ++ e :: (heardAt place (fanout.raised e)).map fun w => .warning w.message := by
  simp only [handed?, slots_publish, Option.map_map]
  congr 1
  funext slot
  simp only [Function.comp_apply, handed_foldl_warn, Slot.handed_after, List.append_assoc,
    List.singleton_append]

/-! ## Section 4: Watching changes nothing -/

theorem unwatch_publishFrom (e : Event) (place : Nat) (slots : List (Slot (Watched σ))) :
    publishFrom e place (slots.map Slot.unwatch) =
      ((publishFrom e place slots).1, (publishFrom e place slots).2.map Slot.unwatch) := by
  induction slots generalizing place with
  | nil => rfl
  | cons slot slots ih =>
    simp only [List.map_cons, publishFrom, ih, Slot.unwatch_publish]

theorem unwatch_warnFrom (w : SinkWarning) (place : Nat) (slots : List (Slot (Watched σ))) :
    warnFrom w place (slots.map Slot.unwatch) = (warnFrom w place slots).map Slot.unwatch := by
  induction slots generalizing place with
  | nil => rfl
  | cons slot slots ih =>
    simp only [List.map_cons, warnFrom, ih]
    split <;> rfl

theorem unwatch_foldl_warnFrom (warnings : List SinkWarning) (slots : List (Slot (Watched σ))) :
    warnings.foldl (fun slots w => warnFrom w 0 slots) (slots.map Slot.unwatch) =
      (warnings.foldl (fun slots w => warnFrom w 0 slots) slots).map Slot.unwatch := by
  induction warnings generalizing slots with
  | nil => rfl
  | cons w warnings ih => rw [List.foldl_cons, List.foldl_cons, unwatch_warnFrom, ih]

/-- **Watching changes nothing**: without the notes, watched sinks publish as the sinks do. -/
theorem unwatch_publish (fanout : Fanout (Watched σ)) (e : Event) :
    (fanout.publish e).unwatch = fanout.unwatch.publish e := by
  simp only [publish, unwatch, unwatch_publishFrom, unwatch_foldl_warnFrom]

end Fanout

end Overseer
