import Overseer.Proofs.Json.Tokens

/-!
# Reading Back Values

A printed value is read back as it was, if all its numbers are integers and its arrays and objects
stand no deeper inside one another than may be read.  Nothing is printed between two tokens, so
that reading never meets a blank; and what stands behind a value, a comma or a closing bracket, does
not go on with it.

- `Json.readsBack_of_fits`: a value is read back, whatever stands behind it
- `Json.parse?_render`: the text of a value writes that value
-/

namespace Overseer.Json

/-! ## Section 1: Values that can be read back

A reader has a limit to how deep it goes, and it takes a number with a fraction or an exponent for
something else than an integer.  The values that a program prints itself are all below these limits.
-/

mutual

/-- Whether all numbers in a value are integers, and at most `depth` arrays and objects stand inside
one another. -/
def fits : Json → Nat → Bool
  | .number _, _ => false
  | .array items, depth + 1 => fitsItems items depth
  | .array _, 0 => false
  | .object fields, depth + 1 => fitsFields fields depth
  | .object _, 0 => false
  | _, _ => true

/-- Whether all items fit. -/
def fitsItems : List Json → Nat → Bool
  | [], _ => true
  | v :: vs, depth => v.fits depth && fitsItems vs depth

/-- Whether the values of all fields fit. -/
def fitsFields : List (String × Json) → Nat → Bool
  | [], _ => true
  | (_, v) :: fs, depth => v.fits depth && fitsFields fs depth

end

/-! ## Section 2: Where a value begins

A reader decides by the first character what it has before it, so every value has to begin with a
character of its own kind, and none with a closing bracket. -/

/-- A character that may begin a value: nothing else can be read there. -/
def Begins (s : List Char) : Prop := ∃ c rest, s = c :: rest ∧ isSpace c = false ∧ c ≠ ']' ∧ c ≠ '\x7d'

theorem Begins.append {s : List Char} (h : Begins s) (rest : List Char) : Begins (s ++ rest) := by
  obtain ⟨c, s, rfl, hc⟩ := h
  exact ⟨c, s ++ rest, rfl, hc⟩

theorem Begins.ne_cons {s : List Char} (h : Begins s) {c : Char} (hc : c ∈ [']', '\x7d'])
    (rest : List Char) : s ≠ c :: rest := by
  obtain ⟨d, s, rfl, -, hbracket, hbrace⟩ := h
  rintro ⟨⟩
  simp [hbracket, hbrace] at hc

theorem Begins.skipSpace {s : List Char} (h : Begins s) : skipSpace s = s := by
  obtain ⟨c, s, rfl, hc, -⟩ := h
  exact List.dropWhile_cons_of_neg (by simp [hc])

/-- The first character of a number. -/
def IsSignOrDigit (c : Char) : Prop := c = '-' ∨ c.isDigit = true

theorem IsSignOrDigit.not_mem {c : Char} (h : IsSignOrDigit c) (marks : List Char)
    (hmarks : marks.all (fun d => d != '-' && !d.isDigit) = true) : c ∉ marks := by
  intro hc
  have hmark := List.all_eq_true.mp hmarks c hc
  rcases h with rfl | h
  · simp at hmark
  · simp [h] at hmark

theorem exists_integer_cons (n : Int) :
    ∃ c rest, (toString n).toList = c :: rest ∧ IsSignOrDigit c := by
  cases n with
  | negSucc n => exact ⟨'-', _, toList_negSucc n, .inl rfl⟩
  | ofNat n =>
    obtain ⟨c, digits, hdigits⟩ := List.exists_cons_of_ne_nil (Nat.toDigits_ne_nil (n := n) (b := 10))
    refine ⟨c, digits, (toList_ofNat n).trans hdigits, .inr ?_⟩
    exact Nat.isDigit_of_mem_toDigits (by decide) (by decide) (hdigits ▸ List.mem_cons_self)

/-- A value begins with a character by which a reader knows what comes. -/
theorem begins_print {v : Json} {depth : Nat} (h : v.fits depth = true) : Begins v.print := by
  -- each kind of value has a first character of its own, and no blank is among them
  cases v with
  | null => exact ⟨'n', _, rfl, by decide⟩
  | bool b => cases b <;> exact ⟨_, _, rfl, by decide⟩
  | int n =>
    obtain ⟨c, rest, hprint, hc⟩ := exists_integer_cons n
    have hothers := hc.not_mem [' ', '\n', '\r', '\t', ']', '\x7d'] rfl
    simp only [List.mem_cons, List.not_mem_nil, or_false, not_or] at hothers
    exact ⟨c, rest, hprint, by simp [isSpace, hothers], hothers.2.2.2.2⟩
  | number text => cases h
  | string s => exact ⟨'"', _, rfl, by decide⟩
  | array items => exact ⟨'[', _, rfl, by decide⟩
  | object fields => exact ⟨'\x7b', _, rfl, by decide⟩

theorem printItems_cons (v : Json) (vs : List Json) :
    printItems true (v :: vs) = v.print ++ printItems false vs := rfl

theorem printItems_false_cons (v : Json) (vs : List Json) :
    printItems false (v :: vs) = ',' :: printItems true (v :: vs) := rfl

theorem printFields_cons (name : String) (v : Json) (fs : List (String × Json)) :
    printFields true ((name, v) :: fs) =
      printString name ++ ':' :: (v.print ++ printFields false fs) := by
  simp [printFields]

theorem printFields_false_cons (f : String × Json) (fs : List (String × Json)) :
    printFields false (f :: fs) = ',' :: printFields true (f :: fs) := by
  simp [printFields]

theorem printString_append (s : String) (rest : List Char) :
    printString s ++ rest = '"' :: (s.toList.flatMap escapeChar ++ '"' :: rest) := by
  simp [printString]

/-- Behind an item or a field stands nothing that goes on with a number. -/
theorem endsNumber_cons {c : Char} (hc : c ∈ [',', ']', '\x7d']) (rest : List Char) :
    EndsNumber (c :: rest) := by
  have hall : [',', ']', '\x7d'].all (fun c =>
      !c.isDigit && c != '.' && c != 'e' && c != 'E') = true := rfl
  have hmark := List.all_eq_true.mp hall c hc
  rintro _ ⟨⟩
  simpa [and_assoc] using hmark

/-! ## Section 3: One step of reading

One lemma for each kind of value, and for the first and the last of several items.  The fuel of the
reader is a number that goes down by one with every call, and each lemma says how much it needs. -/

/-- The value is read back, whatever stands behind it. -/
def ReadsBack (fuel depth : Nat) (v : Json) : Prop :=
  ∀ rest, EndsNumber rest → readValue fuel depth (v.print ++ rest) = some (v, rest)

/-- The items are read back behind an opening bracket. -/
def ItemsReadBack (fuel depth : Nat) (items : List Json) : Prop :=
  ∀ rest, readItems fuel depth (printItems true items ++ rest) = some (items, rest)

/-- The fields are read back behind an opening brace. -/
def FieldsReadBack (fuel depth : Nat) (fields : List (String × Json)) : Prop :=
  ∀ rest, readFields fuel depth (printFields true fields ++ rest) = some (fields, rest)

section Steps

variable {fuel depth : Nat}

theorem readsBack_null : ReadsBack (fuel + 1) depth .null := fun _ _ => rfl

theorem readsBack_bool (b : Bool) : ReadsBack (fuel + 1) depth (.bool b) := by
  intro rest _
  cases b <;> rfl

theorem readsBack_string (s : String) : ReadsBack (fuel + 1) depth (.string s) := by
  intro rest _
  have hskip : skipSpace ('"' :: (s.toList.flatMap escapeChar ++ '"' :: rest)) =
      '"' :: (s.toList.flatMap escapeChar ++ '"' :: rest) := rfl
  change readValue (fuel + 1) depth (printString s ++ rest) = _
  rw [printString_append, readValue, hskip]
  simp only [readString_print, Option.map_some, String.ofList_toList]

theorem readsBack_int (n : Int) : ReadsBack (fuel + 1) depth (.int n) := by
  intro rest hrest
  obtain ⟨c, digits, hprint, hc⟩ := exists_integer_cons n
  have hothers :=
    hc.not_mem [' ', '\n', '\r', '\t', '"', '[', '\x7b', 'n', 't', 'f'] rfl
  simp only [List.mem_cons, List.not_mem_nil, or_false, not_or] at hothers
  have hskip : skipSpace (c :: (digits ++ rest)) = c :: (digits ++ rest) :=
    List.dropWhile_cons_of_neg (by simp [isSpace, hothers])
  have hread := readNumber_print n hrest
  change readValue (fuel + 1) depth ((toString n).toList ++ rest) = _
  rw [hprint, List.cons_append] at hread ⊢
  rw [readValue, hskip]
  -- a sign or a digit begins nothing but a number
  split
  case h_7 => exact hread
  all_goals next heq => exact absurd (List.cons.inj heq).1 (by simp [hothers])

theorem readValue_bracket {s : List Char} (hs : Begins s) :
    readValue (fuel + 1) (depth + 1) ('[' :: s) =
      (readItems fuel depth s).map fun (items, s) => (.array items, s) := by
  have hskip : skipSpace ('[' :: s) = '[' :: s := rfl
  rw [readValue, hskip]
  simp only [hs.skipSpace]
  split
  case h_1 hdepth => cases hdepth
  case h_2 => exact absurd rfl (hs.ne_cons (by decide) _)
  case h_3 hdepth _ =>
    cases hdepth
    rfl

theorem readValue_brace {s : List Char} (hs : Begins s) :
    readValue (fuel + 1) (depth + 1) ('\x7b' :: s) =
      (readFields fuel depth s).map fun (fields, s) => (.object fields, s) := by
  have hskip : skipSpace ('\x7b' :: s) = '\x7b' :: s := rfl
  rw [readValue, hskip]
  simp only [hs.skipSpace]
  split
  case h_1 hdepth => cases hdepth
  case h_2 => exact absurd rfl (hs.ne_cons (by decide) _)
  case h_3 hdepth _ =>
    cases hdepth
    rfl

theorem readsBack_array_nil : ReadsBack (fuel + 1) (depth + 1) (.array []) := fun _ _ => rfl

theorem readsBack_object_nil : ReadsBack (fuel + 1) (depth + 1) (.object []) := fun _ _ => rfl

theorem ItemsReadBack.array {v : Json} {vs : List Json} (hv : v.fits depth = true)
    (h : ItemsReadBack fuel depth (v :: vs)) : ReadsBack (fuel + 1) (depth + 1) (.array (v :: vs)) := by
  intro rest _
  have hbegins : Begins (printItems true (v :: vs) ++ rest) := by
    rw [printItems_cons, List.append_assoc]
    exact (begins_print hv).append _
  change readValue (fuel + 1) (depth + 1) ('[' :: (printItems true (v :: vs) ++ rest)) = _
  rw [readValue_bracket hbegins, h rest]
  rfl

theorem FieldsReadBack.object {f : String × Json} {fs : List (String × Json)}
    (h : FieldsReadBack fuel depth (f :: fs)) :
    ReadsBack (fuel + 1) (depth + 1) (.object (f :: fs)) := by
  intro rest _
  have hbegins : Begins (printFields true (f :: fs) ++ rest) := by
    rw [printFields_cons, List.append_assoc, printString_append]
    exact ⟨'"', _, rfl, by decide⟩
  change readValue (fuel + 1) (depth + 1) ('\x7b' :: (printFields true (f :: fs) ++ rest)) = _
  rw [readValue_brace hbegins, h rest]
  rfl

theorem ItemsReadBack.last {v : Json} (hv : ReadsBack fuel depth v) :
    ItemsReadBack (fuel + 1) depth [v] := by
  intro rest
  have hread := hv (']' :: rest) (endsNumber_cons (by decide) rest)
  rw [printItems_cons, List.append_assoc, readItems]
  change (readValue fuel depth (v.print ++ ']' :: rest)).bind _ = _
  rw [hread]
  rfl

theorem ItemsReadBack.cons {v w : Json} {vs : List Json} (hv : ReadsBack fuel depth v)
    (h : ItemsReadBack fuel depth (w :: vs)) : ItemsReadBack (fuel + 1) depth (v :: w :: vs) := by
  intro rest
  have hread := hv (',' :: (printItems true (w :: vs) ++ rest)) (endsNumber_cons (by decide) _)
  rw [printItems_cons, printItems_false_cons, List.append_assoc, List.cons_append, readItems, hread]
  change (readItems fuel depth (printItems true (w :: vs) ++ rest)).bind _ = _
  rw [h rest]
  rfl

/-- A name and its colon are read in front of the value of a field. -/
theorem readFields_name (name : String) (s : List Char) :
    readFields (fuel + 1) depth (printString name ++ ':' :: s) =
      (readValue fuel depth s).bind fun (v, s) =>
        match skipSpace s with
        | '\x7d' :: s => some ([(name, v)], s)
        | ',' :: s => (readFields fuel depth s).bind fun (fs, s) => some ((name, v) :: fs, s)
        | _ => none := by
  have hskip : skipSpace ('"' :: (name.toList.flatMap escapeChar ++ '"' :: ':' :: s)) =
      '"' :: (name.toList.flatMap escapeChar ++ '"' :: ':' :: s) := rfl
  rw [printString_append, readFields, hskip]
  simp only [readString_print, Option.bind_eq_bind, Option.bind_some, String.ofList_toList]
  rfl

theorem FieldsReadBack.last {v : Json} (hv : ReadsBack fuel depth v) (name : String) :
    FieldsReadBack (fuel + 1) depth [(name, v)] := by
  intro rest
  have hread := hv ('\x7d' :: rest) (endsNumber_cons (by decide) rest)
  have hprint : printFields true [(name, v)] ++ rest =
      printString name ++ ':' :: (v.print ++ '\x7d' :: rest) := by
    simp [printFields]
  rw [hprint, readFields_name, hread]
  rfl

theorem FieldsReadBack.cons {v : Json} {f : String × Json} {fs : List (String × Json)}
    (hv : ReadsBack fuel depth v) (h : FieldsReadBack fuel depth (f :: fs)) (name : String) :
    FieldsReadBack (fuel + 1) depth ((name, v) :: f :: fs) := by
  intro rest
  have hread := hv (',' :: (printFields true (f :: fs) ++ rest)) (endsNumber_cons (by decide) _)
  have hprint : printFields true ((name, v) :: f :: fs) ++ rest =
      printString name ++ ':' :: (v.print ++ ',' :: (printFields true (f :: fs) ++ rest)) := by
    simp [printFields_cons name, printFields_false_cons]
  rw [hprint, readFields_name, hread]
  change (readFields fuel depth (printFields true (f :: fs) ++ rest)).bind _ = _
  rw [h rest]
  rfl

end Steps

/-! ## Section 4: Whole values

The recursion is that of values: arrays and objects hold values, so three statements are proved
together, about a value, its items and its fields. -/

section Lengths

variable {v : Json} {depth : Nat}

theorem length_print_pos (h : v.fits depth = true) : 0 < v.print.length := by
  obtain ⟨c, s, hs, -⟩ := begins_print h
  rw [hs]
  exact Nat.succ_pos _

theorem length_printItems_last : (printItems true [v]).length = v.print.length + 1 := by
  simp [printItems]

theorem length_printItems_cons (w : Json) (vs : List Json) :
    (printItems true (v :: w :: vs)).length =
      v.print.length + (printItems true (w :: vs)).length + 1 := by
  rw [printItems_cons, printItems_false_cons, List.length_append, List.length_cons, Nat.add_assoc]

theorem length_print_lt_items (vs : List Json) :
    v.print.length < (printItems true (v :: vs)).length := by
  cases vs with
  | nil => exact length_printItems_last ▸ Nat.lt_succ_self _
  | cons w vs =>
    rw [length_printItems_cons]
    omega

theorem length_print_lt_fields (name : String) (fs : List (String × Json)) :
    v.print.length < (printFields true ((name, v) :: fs)).length := by
  simp only [printFields_cons, List.length_append, List.length_cons]
  omega

theorem length_printFields_cons (name : String) (f : String × Json) (fs : List (String × Json)) :
    v.print.length + (printFields true (f :: fs)).length <
      (printFields true ((name, v) :: f :: fs)).length := by
  simp only [printFields_cons name, printFields_false_cons, List.length_append, List.length_cons]
  omega

end Lengths

mutual

/-- **A value is read back**, whatever stands behind it, with two units of fuel for each of its
characters. -/
theorem readsBack_of_fits : (v : Json) → {fuel depth : Nat} → v.fits depth = true →
    2 * v.print.length ≤ fuel → ReadsBack fuel depth v
  | v, 0, depth, hfits, hfuel => by
    -- no value is printed as nothing
    have := length_print_pos hfits
    omega
  | .null, fuel + 1, _, _, _ => readsBack_null
  | .bool b, fuel + 1, _, _, _ => readsBack_bool b
  | .int n, fuel + 1, _, _, _ => readsBack_int n
  | .string s, fuel + 1, _, _, _ => readsBack_string s
  | .array [], fuel + 1, depth + 1, _, _ => readsBack_array_nil
  | .object [], fuel + 1, depth + 1, _, _ => readsBack_object_nil
  | .array (v :: vs), fuel + 1, depth + 1, hfits, hfuel => by
    have hlength : (Json.array (v :: vs)).print.length = (printItems true (v :: vs)).length + 1 := rfl
    have hitems : fitsItems (v :: vs) depth = true := hfits
    -- the bracket pays for the step from the value to its items
    refine (itemsReadBack_of_fits v vs hitems (by omega)).array ?_
    rw [fitsItems, Bool.and_eq_true] at hitems
    exact hitems.1
  | .object (f :: fs), fuel + 1, depth + 1, hfits, hfuel => by
    have hlength : (Json.object (f :: fs)).print.length = (printFields true (f :: fs)).length + 1 :=
      rfl
    exact (fieldsReadBack_of_fits f fs hfits (by omega)).object

/-- The items of an array are read back one by one, with fuel for twice their length. -/
theorem itemsReadBack_of_fits : (v : Json) → (vs : List Json) → {fuel depth : Nat} →
    fitsItems (v :: vs) depth = true → 2 * (printItems true (v :: vs)).length ≤ fuel + 1 →
      ItemsReadBack fuel depth (v :: vs)
  -- without fuel there would be no room for a value
  | v, vs, 0, depth, hfits, hfuel => by
    rw [fitsItems, Bool.and_eq_true] at hfits
    have := length_print_pos hfits.1
    have := length_print_lt_items (v := v) vs
    omega
  -- the last item needs no comma behind it
  | v, [], fuel + 1, depth, hfits, hfuel => by
    rw [length_printItems_last] at hfuel
    rw [fitsItems, Bool.and_eq_true] at hfits
    exact .last (readsBack_of_fits v hfits.1 (by omega))
  -- an item and a comma, and then the others with one unit of fuel less
  | v, w :: vs, fuel + 1, depth, hfits, hfuel => by
    rw [length_printItems_cons] at hfuel
    rw [fitsItems, Bool.and_eq_true] at hfits
    exact .cons (readsBack_of_fits v hfits.1 (by omega))
      (itemsReadBack_of_fits w vs hfits.2 (by omega))

/-- The fields of an object are read back in the same way, each behind its name. -/
theorem fieldsReadBack_of_fits : (f : String × Json) → (fs : List (String × Json)) →
    {fuel depth : Nat} → fitsFields (f :: fs) depth = true →
      2 * (printFields true (f :: fs)).length ≤ fuel + 1 → FieldsReadBack fuel depth (f :: fs)
  | (name, v), fs, 0, depth, hfits, hfuel => by
    rw [fitsFields, Bool.and_eq_true] at hfits
    have := length_print_pos hfits.1
    have := length_print_lt_fields (v := v) name fs
    omega
  | (name, v), [], fuel + 1, depth, hfits, hfuel => by
    have := length_print_lt_fields (v := v) name []
    rw [fitsFields, Bool.and_eq_true] at hfits
    exact .last (readsBack_of_fits v hfits.1 (by omega)) name
  | (name, v), f :: fs, fuel + 1, depth, hfits, hfuel => by
    have := length_printFields_cons (v := v) name f fs
    rw [fitsFields, Bool.and_eq_true] at hfits
    exact .cons (readsBack_of_fits v hfits.1 (by omega))
      (fieldsReadBack_of_fits f fs hfits.2 (by omega)) name

end

/-- **The text of a value writes that value.** -/
theorem parse?_render {v : Json} (h : v.fits depthLimit = true) : parse? v.render = some v := by
  have hfuel : ReadsBack (2 * v.print.length + 2) depthLimit v := readsBack_of_fits v h (by omega)
  have hread := hfuel [] nofun
  rw [List.append_nil] at hread
  simp only [parse?, render, String.toList_ofList, hread]
  rfl

end Overseer.Json
