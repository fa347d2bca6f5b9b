import Overseer.Web.Response

/-!
# Page Text

Five characters mean something in a page, and each of them is written as an entity.  A page that
reads the entities back, in one pass from left to right, shows the text that was to be shown; and
since every ampersand it meets begins an entity, nothing in the text is taken for anything else,
not even a text that holds entities of its own.

- `Text.unescapeHtml_escapeHtml`: reading the entities back gives the text
- `Text.rawFree_escapeHtml`: no character of page text is markup
- `Web.Frame.escapesMarkup`: what holds of every text, and of the frame of every event
-/

namespace Overseer

namespace Text

/-! ## Section 1: Entities

No entity begins another one, so at an ampersand there is at most one to be read.  The table is the
same for writing and for reading. -/

/-- The characters that mean something in a page, each with its entity. -/
def entities : List (Char × List Char) :=
  [('&', "&amp;".toList), ('<', "&lt;".toList), ('>', "&gt;".toList), ('"', "&quot;".toList),
    ('\'', "&#39;".toList)]

/-- The entity that a text begins with, and the character that it stands for. -/
def entityAt? (s : List Char) : Option (Char × List Char) :=
  entities.find? fun entity => entity.2.isPrefixOf s

/-- Reads entities back; `skip` characters of an entity are still to be passed over. -/
def unescapeFrom : Nat → List Char → List Char
  | _, [] => []
  | skip + 1, _ :: s => unescapeFrom skip s
  | 0, c :: s =>
    match entityAt? (c :: s) with
    | some (plain, name) => plain :: unescapeFrom (name.length - 1) s
    | none => c :: unescapeFrom 0 s

/-- The text that page text shows: every entity is read back, in one pass from left to right. -/
def unescapeHtml (s : List Char) : List Char := unescapeFrom 0 s

/-- Every character is written as its entity, or as itself if it has none. -/
theorem htmlEntity_spec (c : Char) :
    (c, htmlEntity c) ∈ entities ∨ htmlEntity c = [c] ∧ c ∉ entities.map Prod.fst := by
  -- the characters with an entity are tried one by one, all others are left alone
  by_cases hc : c ∈ entities.map Prod.fst
  · left
    obtain ⟨entity, hentity, rfl⟩ := List.mem_map.mp hc
    have hname : htmlEntity entity.1 = entity.2 := by
      have hcases := hentity
      simp only [entities, List.mem_cons, List.not_mem_nil, or_false] at hcases
      rcases hcases with rfl | rfl | rfl | rfl | rfl <;> rfl
    rw [hname]
    exact hentity
  · right
    have hothers := hc
    simp only [entities, List.map_cons, List.map_nil, List.mem_cons, List.not_mem_nil, or_false,
      not_or] at hothers
    exact ⟨by simp [htmlEntity, hothers], hc⟩

/-- An entity is found where it begins; none begins another one. -/
theorem entityAt?_append {entity : Char × List Char} (h : entity ∈ entities) (s : List Char) :
    entityAt? (entity.2 ++ s) = some entity := by
  simp only [entities, List.mem_cons, List.not_mem_nil, or_false] at h
  rcases h with rfl | rfl | rfl | rfl | rfl <;> rfl

/-- Nothing but an ampersand begins an entity. -/
theorem entityAt?_cons {c : Char} (h : c ≠ '&') (s : List Char) : entityAt? (c :: s) = none := by
  simp [entityAt?, entities, List.isPrefixOf, Ne.symm h]

theorem exists_entity_cons {entity : Char × List Char} (h : entity ∈ entities) :
    ∃ name, entity.2 = '&' :: name ∧ '&' ∉ name := by
  simp only [entities, List.mem_cons, List.not_mem_nil, or_false] at h
  rcases h with rfl | rfl | rfl | rfl | rfl <;> exact ⟨_, rfl, by decide⟩

/-! ## Section 2: Reading back

Reading goes from left to right and never looks back: what an entity stands for is not read again,
even where it makes up a new entity with what follows. -/

theorem unescapeFrom_append (front s : List Char) :
    unescapeFrom front.length (front ++ s) = unescapeFrom 0 s := by
  induction front with
  | nil => rfl
  | cons c front ih => exact ih

theorem unescapeHtml_entity {entity : Char × List Char} (h : entity ∈ entities) (s : List Char) :
    unescapeHtml (entity.2 ++ s) = entity.1 :: unescapeHtml s := by
  have hentity := entityAt?_append h s
  obtain ⟨name, hname, -⟩ := exists_entity_cons h
  rw [hname, List.cons_append] at hentity
  -- the entity is found at its ampersand, and the rest of its name is passed over
  rw [unescapeHtml, hname, List.cons_append, unescapeFrom, hentity]
  simp only [hname, List.length_cons, Nat.add_sub_cancel, unescapeFrom_append, unescapeHtml]

theorem unescapeHtml_cons {c : Char} (h : c ≠ '&') (s : List Char) :
    unescapeHtml (c :: s) = c :: unescapeHtml s := by
  rw [unescapeHtml, unescapeFrom, entityAt?_cons h]
  rfl

/-- **Reading the entities back** gives the text that was to be shown.  An ampersand is written by
an entity too, so none of the text is taken for the beginning of one. -/
theorem unescapeHtml_escapeHtml (s : List Char) : unescapeHtml (escapeHtml s) = s := by
  induction s with
  | nil => rfl
  | cons c s ih =>
    rw [escapeHtml, List.flatMap_cons, ← escapeHtml]
    rcases htmlEntity_spec c with hentity | ⟨hplain, hc⟩
    · rw [unescapeHtml_entity hentity, ih]
    · rw [hplain, List.singleton_append, unescapeHtml_cons, ih]
      -- an ampersand has an entity
      rintro rfl
      exact hc (by decide)

/-! ## Section 3: What stands in page text

What may stand in page text is said twice, once for the four characters that open or close markup
and once for the ampersand, which is allowed where an entity begins. -/

/-- The characters that begin or end markup. -/
def markup : List Char := ['<', '>', '"', '\'']

/-- No character is markup, and every ampersand begins an entity. -/
structure RawFree (s : List Char) : Prop where
  not_markup : ∀ c ∈ s, c ∉ markup
  begins : ∀ rest, '&' :: rest <:+ s → ∃ entity ∈ entities, entity.2 <+: '&' :: rest

/-- What begins with a character begins behind a text that does not hold it. -/
theorem suffix_of_suffix_append {c : Char} {front : List Char} (hfront : c ∉ front)
    {rest s : List Char} (h : c :: rest <:+ front ++ s) : c :: rest <:+ s := by
  induction front with
  | nil => exact h
  | cons d front ih =>
    rw [List.mem_cons, not_or] at hfront
    refine ih hfront.2 ((List.suffix_cons_iff.mp h).resolve_left fun heq => ?_)
    exact hfront.1 (List.cons.inj heq).1

theorem RawFree.nil : RawFree [] :=
  ⟨nofun, fun _ h => absurd (List.suffix_nil.mp h) (List.cons_ne_nil _ _)⟩

/-- A character in front that has no entity. -/
theorem RawFree.cons {s : List Char} (h : RawFree s) {c : Char}
    (hc : c ∉ entities.map Prod.fst) : RawFree (c :: s) where
  -- the new character is neither markup nor an ampersand
  not_markup := by
    have hmarkup : markup ⊆ entities.map Prod.fst := by decide
    exact List.forall_mem_cons.mpr ⟨fun hmem => hc (hmarkup hmem), h.not_markup⟩
  begins rest hrest := by
    rcases List.suffix_cons_iff.mp hrest with heq | hrest
    · obtain ⟨rfl, -⟩ := List.cons.inj heq
      exact absurd (by decide) hc
    · exact h.begins rest hrest

/-- An entity in front. -/
theorem RawFree.entity {s : List Char} (h : RawFree s) {entity : Char × List Char}
    (hentity : entity ∈ entities) : RawFree (entity.2 ++ s) where
  -- the name of an entity holds no markup, and an ampersand only in front
  not_markup := by
    have hnames : entities.all (fun entity => entity.2.all fun c => !markup.contains c) = true := rfl
    have hname := List.all_eq_true.mp (List.all_eq_true.mp hnames entity hentity)
    exact List.forall_mem_append.mpr ⟨fun c hc => by simpa using hname c hc, h.not_markup⟩
  begins rest hrest := by
    obtain ⟨name, hname, hothers⟩ := exists_entity_cons hentity
    rw [hname, List.cons_append] at hrest
    rcases List.suffix_cons_iff.mp hrest with heq | hrest
    · -- the ampersand of the entity itself
      rw [heq]
      exact ⟨entity, hentity, by rw [hname]; exact List.prefix_append _ _⟩
    · exact h.begins rest (suffix_of_suffix_append hothers hrest)

/-- **No character of page text is markup**, and every ampersand in it begins an entity. -/
theorem rawFree_escapeHtml (s : List Char) : RawFree (escapeHtml s) := by
  induction s with
  | nil => exact .nil
  | cons c s ih =>
    rw [escapeHtml, List.flatMap_cons, ← escapeHtml]
    rcases htmlEntity_spec c with hentity | ⟨hplain, hc⟩
    · exact ih.entity hentity
    · rw [hplain]
      exact ih.cons hc

end Text

/-! ## Section 4: Frames

All frames but the one for the outcome are page text; that one is a record, which the page does not
show as text. -/

namespace Web.Frame

/-- A frame that can be shown: its text is page text. -/
def RawFree : Frame → Prop
  | .data text => Text.RawFree text.toList
  | .status .. => True

theorem rawFree_pageText (s : String) : RawFree (.data (pageText s)) := by
  rw [RawFree, pageText, String.toList_ofList]
  exact Text.rawFree_escapeHtml s.toList

/-- The frame of an event can be shown, whatever the event tells. -/
theorem rawFree_ofEvent (e : Event) : (ofEvent e).RawFree := by
  cases e with
  | output line =>
    rw [ofEvent, RawFree, String.toList_ofList]
    exact Text.rawFree_escapeHtml _
  | promptDetected text => exact rawFree_pageText promptMarker
  | finished outcome => exact trivial
  | started pid command => exact rawFree_pageText _
  | answerSent answer => exact rawFree_pageText _
  | warning message => exact rawFree_pageText message
  | error message => exact rawFree_pageText message

/-- **Page text** is read back as the text that was to be shown, so that no two texts are shown
alike, and no frame of an event carries any markup. -/
theorem escapesMarkup :
    Function.LeftInverse Text.unescapeHtml Text.escapeHtml ∧
      Function.Injective Text.escapeHtml ∧
      (∀ s, Text.RawFree (Text.escapeHtml s)) ∧ ∀ e, (ofEvent e).RawFree := by
  have hinverse : Function.LeftInverse Text.unescapeHtml Text.escapeHtml :=
    Text.unescapeHtml_escapeHtml
  exact ⟨hinverse, hinverse.injective, Text.rawFree_escapeHtml, rawFree_ofEvent⟩

end Web.Frame

end Overseer
