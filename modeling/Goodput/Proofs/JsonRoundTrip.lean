import Goodput.Proofs.JsonLiterals
/-!
# JSON texts are read back

We prove that `parse?` undoes `toText`: the text of a value reads as this value, whatever its strings
hold and however deep it nests. The one thing asked of the value is that its numbers are numbers of JSON,
since a literal is written as it stands; and these are the only values that a text denotes.

Each writer is followed by its reader with an arbitrary text behind it. Only a number cannot tell where it
ends, so behind a value no character may stand that could go on with a number.
-/

namespace Goodput.Json

/-! ## Values that can be written -/

mutual

/-- Every number of the value is a number of JSON. -/
def isValid : Json → Bool
  | .number literal => isNumber literal
  | .array items => itemsValid items
  | .object members => membersValid members
  | _ => true

/-- So is every number of these items. -/
def itemsValid : List Json → Bool
  | [] => true
  | v :: vs => isValid v && itemsValid vs

/-- So is every number of these members. -/
def membersValid : List (Option String × Json) → Bool
  | [] => true
  | (_, v) :: ms => isValid v && membersValid ms

end

theorem isValid_int (i : Int) : (Json.int i).isValid = true := by
  obtain ⟨literal, hliteral, hnumber, -⟩ := int_eq_number i
  rw [hliteral]
  exact hnumber

theorem isValid_text (s : String) : (Json.text s).isValid = true := rfl

theorem isValid_ofMembers (members : List (String × Json)) :
    (ofMembers members).isValid = members.all fun m => m.2.isValid := by
  rw [ofMembers, isValid]
  induction members with
  | nil => rfl
  | cons m ms ih =>
    rw [List.map_cons, membersValid, ih, List.all_cons]

/-! ## How texts begin -/

/-- A value begins with a character that is neither blank nor the end of an array. -/
theorem render_head {v : Json} (h : v.isValid = true) :
    ∃ c cs, v.render = c :: cs ∧ isBlank c = false ∧ c ≠ ']' := by
  cases v with
  | null => exact ⟨_, _, rfl, by decide, by decide⟩
  | bool b => cases b <;> exact ⟨_, _, rfl, by decide, by decide⟩
  | number literal =>
    obtain ⟨c, rest, hliteral, rfl | hc⟩ := isNumber_head h
    · exact ⟨_, rest, hliteral, by decide, by decide⟩
    · refine ⟨c, rest, hliteral, not_isBlank_of_isDigit hc, ?_⟩
      rintro rfl
      cases hc
  | string s =>
    obtain ⟨body, hbody, -⟩ := string?_renderString s []
    refine ⟨'"', body, ?_, by decide, by decide⟩
    rw [← hbody, List.append_nil]
    rfl
  | array items => exact ⟨_, _, rfl, by decide, by decide⟩
  | object members => exact ⟨_, _, rfl, by decide, by decide⟩

theorem renderItems_head {v : Json} {vs : List Json} (h : itemsValid (v :: vs) = true) :
    ∃ c cs, renderItems (v :: vs) = c :: cs ∧ isBlank c = false ∧ c ≠ ']' := by
  rw [itemsValid, Bool.and_eq_true] at h
  obtain ⟨c, cs, hv, hc⟩ := render_head h.1
  cases vs with
  | nil => exact ⟨c, cs, hv, hc⟩
  | cons w ws =>
    refine ⟨c, cs ++ ',' :: renderItems (w :: ws), ?_, hc⟩
    rw [← List.cons_append, ← hv]
    rfl

theorem renderMembers_head (m : Option String × Json) (ms : List (Option String × Json)) :
    ∃ cs, renderMembers (m :: ms) = '"' :: cs := by
  cases ms with
  | nil =>
    obtain ⟨body, hbody, -⟩ := string?_renderString m.1 (':' :: m.2.render)
    exact ⟨body, hbody⟩
  | cons m' ms =>
    obtain ⟨body, hbody, -⟩ :=
      string?_renderString m.1 (':' :: (m.2.render ++ ',' :: renderMembers (m' :: ms)))
    exact ⟨body, hbody⟩

/-! ## One step of each reader -/

variable {n : Nat} {cs rest : List Char}

theorem after?_append (word rest : List Char) : after? word (word ++ rest) = some rest := by
  have hbegins : word.isPrefixOf (word ++ rest) = true :=
    List.isPrefixOf_iff_prefix.2 (List.prefix_append word rest)
  rw [after?, if_pos hbegins, List.drop_left]

theorem value?_null : value? (n + 1) ("null".toList ++ rest) = some (.null, rest) := by
  rw [value?]
  change (after? "ull".toList ("ull".toList ++ rest)).map _ = _
  rw [after?_append]
  rfl

theorem value?_true : value? (n + 1) ("true".toList ++ rest) = some (.bool true, rest) := by
  rw [value?]
  change (after? "rue".toList ("rue".toList ++ rest)).map _ = _
  rw [after?_append]
  rfl

theorem value?_false : value? (n + 1) ("false".toList ++ rest) = some (.bool false, rest) := by
  rw [value?]
  change (after? "alse".toList ("alse".toList ++ rest)).map _ = _
  rw [after?_append]
  rfl

theorem value?_number {literal : List Char} (h : isNumber literal = true) (hrest : EndsNumber rest) :
    value? (n + 1) (literal ++ rest) = some (.number literal, rest) := by
  have hall := all_isNumberChar_of_isNumber h
  obtain ⟨c, cs, hliteral, hc⟩ := isNumber_head h
  have hblank : isBlank c = false := by
    obtain rfl | hdigit := hc
    · rfl
    · exact not_isBlank_of_isDigit hdigit
  have hskip : skipBlanks (literal ++ rest) = literal ++ rest := by
    rw [hliteral]
    exact skipBlanks_cons hblank (cs ++ rest)
  have hhead {d : Char} {ds : List Char} (h : literal ++ rest = d :: ds) :
      d = '-' ∨ Decimal.isDigit d = true := by
    rw [hliteral] at h
    exact (List.cons.inj h).1 ▸ hc
  rw [value?, hskip]
  split
  case h_1 hnil => simp [hliteral] at hnil
  -- what begins no number is not here
  iterate 6 exact absurd (hhead ‹_›) (by decide)
  rw [takeWhile_number hall hrest, dropWhile_number hall hrest, if_pos h]

theorem value?_string {s : Option String} (h : string? cs = some (s, rest)) :
    value? (n + 1) ('"' :: cs) = some (.string s, rest) := by
  simp (disch := decide) only [value?, skipBlanks_cons, h, Option.map_some]

theorem value?_emptyArray : value? (n + 1) ('[' :: ']' :: rest) = some (.array [], rest) := by
  simp (disch := decide) only [value?, skipBlanks_cons]

theorem value?_array {c : Char} {vs : List Json} (hblank : isBlank c = false) (hclose : c ≠ ']')
    (h : items? n (c :: cs) = some (vs, rest)) :
    value? (n + 1) ('[' :: c :: cs) = some (.array vs, rest) := by
  simp (disch := decide) only [value?, skipBlanks_cons, skipBlanks_cons hblank]
  split
  · simp_all
  · rw [h]
    rfl

theorem value?_emptyObject : value? (n + 1) ('\x7b' :: '\x7d' :: rest) = some (.object [], rest) := by
  simp (disch := decide) only [value?, skipBlanks_cons]

theorem value?_object {ms : List (Option String × Json)} (h : members? n ('"' :: cs) = some (ms, rest)) :
    value? (n + 1) ('\x7b' :: '"' :: cs) = some (.object ms, rest) := by
  simp (disch := decide) only [value?, skipBlanks_cons]
  change (members? n ('"' :: cs)).map _ = _
  rw [h]
  rfl

theorem items?_last {v : Json} (h : value? n cs = some (v, ']' :: rest)) :
    items? (n + 1) cs = some ([v], rest) := by
  simp (disch := decide) only [items?, h, skipBlanks_cons]

theorem items?_more {v : Json} {vs : List Json} {tail : List Char} (h : value? n cs = some (v, ',' :: tail))
    (hvs : items? n tail = some (vs, rest)) : items? (n + 1) cs = some (v :: vs, rest) := by
  simp (disch := decide) only [items?, h, skipBlanks_cons, hvs, Option.map_some]

theorem members?_last {name : Option String} {v : Json} {body : List Char}
    (hname : string? body = some (name, ':' :: cs)) (h : value? n cs = some (v, '\x7d' :: rest)) :
    members? (n + 1) ('"' :: body) = some ([(name, v)], rest) := by
  simp (disch := decide) only [members?, skipBlanks_cons, hname, h]

theorem members?_more {name : Option String} {v : Json} {ms : List (Option String × Json)}
    {body tail : List Char} (hname : string? body = some (name, ':' :: cs))
    (h : value? n cs = some (v, ',' :: tail)) (hms : members? n tail = some (ms, rest)) :
    members? (n + 1) ('"' :: body) = some ((name, v) :: ms, rest) := by
  simp (disch := decide) only [members?, skipBlanks_cons, hname, h, hms, Option.map_some]

/-! ## Every value

The readers count their steps down together, so the induction is on the steps: with one more step, each
reader relies on what the others do with the steps that are left. -/

/-- With `n` steps, every value is read back that is short enough. -/
def ReadsValues (n : Nat) : Prop :=
  ∀ (v : Json) (rest : List Char), v.isValid = true → 2 * v.render.length ≤ n → EndsNumber rest →
    value? n (v.render ++ rest) = some (v, rest)

/-- With `n` steps, the items of every array are read back that is short enough. -/
def ReadsItems (n : Nat) : Prop :=
  ∀ (v : Json) (vs : List Json) (rest : List Char), itemsValid (v :: vs) = true →
    2 * (renderItems (v :: vs)).length < n →
    items? n (renderItems (v :: vs) ++ ']' :: rest) = some (v :: vs, rest)

/-- With `n` steps, the members of every object are read back that is short enough. -/
def ReadsMembers (n : Nat) : Prop :=
  ∀ (m : Option String × Json) (ms : List (Option String × Json)) (rest : List Char),
    membersValid (m :: ms) = true → 2 * (renderMembers (m :: ms)).length < n →
    members? n (renderMembers (m :: ms) ++ '\x7d' :: rest) = some (m :: ms, rest)

theorem ReadsItems.succ (hvalues : ReadsValues n) (hitems : ReadsItems n) : ReadsItems (n + 1) := by
  intro v vs rest hvalid hn
  cases vs with
  | nil =>
    have hv : v.isValid = true := by simpa [itemsValid] using hvalid
    have hlen : 2 * v.render.length ≤ n := Nat.le_of_lt_succ hn
    exact items?_last (hvalues v (']' :: rest) hv hlen (endsNumber_cons rfl rest))
  | cons w ws =>
    have hv : v.isValid = true ∧ itemsValid (w :: ws) = true := by
      simpa [itemsValid] using hvalid
    have htext : renderItems (v :: w :: ws) = v.render ++ ',' :: renderItems (w :: ws) := rfl
    rw [htext, List.length_append, List.length_cons] at hn
    rw [htext, List.append_assoc, List.cons_append]
    exact items?_more (hvalues v _ hv.1 (by omega) (endsNumber_cons rfl _)) (hitems w ws rest hv.2 (by omega))

theorem ReadsMembers.succ (hvalues : ReadsValues n) (hmembers : ReadsMembers n) :
    ReadsMembers (n + 1) := by
  rintro ⟨name, v⟩ ms rest hvalid hn
  cases ms with
  | nil =>
    have hv : v.isValid = true := by simpa [membersValid] using hvalid
    have htext : renderMembers [(name, v)] = renderString name ++ ':' :: v.render := rfl
    rw [htext, List.length_append, List.length_cons] at hn
    rw [htext, List.append_assoc, List.cons_append]
    obtain ⟨body, hbody, hname⟩ := string?_renderString name (':' :: (v.render ++ '\x7d' :: rest))
    rw [hbody]
    exact members?_last hname (hvalues v _ hv (by omega) (endsNumber_cons rfl rest))
  | cons m ms =>
    have hv : v.isValid = true ∧ membersValid (m :: ms) = true := by
      simpa [membersValid] using hvalid
    have htext : renderMembers ((name, v) :: m :: ms)
        = renderString name ++ ':' :: (v.render ++ ',' :: renderMembers (m :: ms)) := rfl
    rw [htext, List.length_append, List.length_cons, List.length_append, List.length_cons] at hn
    rw [htext, List.append_assoc, List.cons_append, List.append_assoc, List.cons_append]
    obtain ⟨body, hbody, hname⟩ := string?_renderString name
      (':' :: (v.render ++ ',' :: (renderMembers (m :: ms) ++ '\x7d' :: rest)))
    rw [hbody]
    exact members?_more hname (hvalues v _ hv.1 (by omega) (endsNumber_cons rfl _))
      (hmembers m ms rest hv.2 (by omega))

theorem ReadsValues.succ (hitems : ReadsItems n) (hmembers : ReadsMembers n) : ReadsValues (n + 1) := by
  intro v rest hvalid hn hrest
  cases v with
  | null => exact value?_null
  | bool b =>
    cases b with
    | true => exact value?_true
    | false => exact value?_false
  | number literal => exact value?_number hvalid hrest
  | string s =>
    obtain ⟨body, hbody, hs⟩ := string?_renderString s rest
    rw [show (Json.string s).render = renderString s from rfl, hbody]
    exact value?_string hs
  | array items =>
    cases items with
    | nil => exact value?_emptyArray
    | cons v vs =>
      have htext : (Json.array (v :: vs)).render = '[' :: (renderItems (v :: vs) ++ [']']) := rfl
      have hvs : itemsValid (v :: vs) = true := hvalid
      obtain ⟨c, cs, hhead, hblank, hclose⟩ := renderItems_head hvs
      rw [htext, List.length_cons, List.length_append, List.length_singleton] at hn
      have hread := hitems v vs rest hvs (by omega)
      rw [hhead, List.cons_append] at hread
      rw [htext, List.cons_append, List.append_assoc, List.singleton_append, hhead, List.cons_append]
      exact value?_array hblank hclose hread
  | object members =>
    cases members with
    | nil => exact value?_emptyObject
    | cons m ms =>
      have htext : (Json.object (m :: ms)).render = '\x7b' :: (renderMembers (m :: ms) ++ ['\x7d']) := rfl
      obtain ⟨cs, hhead⟩ := renderMembers_head m ms
      rw [htext, List.length_cons, List.length_append, List.length_singleton] at hn
      have hread := hmembers m ms rest hvalid (by omega)
      rw [hhead, List.cons_append] at hread
      rw [htext, List.cons_append, List.append_assoc, List.singleton_append, hhead, List.cons_append]
      exact value?_object hread

theorem readsBack (n : Nat) : ReadsValues n ∧ ReadsItems n ∧ ReadsMembers n := by
  induction n with
  | zero =>
    -- No text of a value is empty, so nothing is short enough.
    refine ⟨fun v _ hvalid hn => ?_, fun _ _ _ _ hn => absurd hn (Nat.not_lt_zero _),
      fun _ _ _ _ hn => absurd hn (Nat.not_lt_zero _)⟩
    obtain ⟨c, cs, hhead, -⟩ := render_head hvalid
    simp [hhead] at hn
  | succ n ih =>
    obtain ⟨hvalues, hitems, hmembers⟩ := ih
    exact ⟨.succ hitems hmembers, .succ hvalues hitems, .succ hvalues hmembers⟩

/-- The text of a value is read as this value. -/
theorem parse?_toText {v : Json} (h : v.isValid = true) : parse? v.toText = some v := by
  have hchars : v.toText.toList = v.render := String.toList_ofList
  have hread := (readsBack (2 * v.render.length + 1)).1 v [] h (by omega) endsNumber_nil
  rw [List.append_nil] at hread
  rw [parse?, hchars, hread]
  rfl

/-! ## Nothing else is read

The values of `parse?_toText` are all there are: a reader checks each number before it returns it. -/

theorem value?_isValid {v : Json}
    (hitems : ∀ {cs vs rest}, items? n cs = some (vs, rest) → itemsValid vs = true)
    (hmembers : ∀ {cs ms rest}, members? n cs = some (ms, rest) → membersValid ms = true)
    (h : value? (n + 1) cs = some (v, rest)) : v.isValid = true := by
  rw [value?] at h
  split at h
  case h_1 => cases h
  case h_2 | h_3 | h_4 | h_5 =>
    obtain ⟨_, -, he⟩ := Option.map_eq_some_iff.1 h
    cases he
    rfl
  case h_6 =>
    split at h
    · cases h
      rfl
    · obtain ⟨_, hread, he⟩ := Option.map_eq_some_iff.1 h
      cases he
      exact hitems hread
  case h_7 =>
    split at h
    · cases h
      rfl
    · obtain ⟨_, hread, he⟩ := Option.map_eq_some_iff.1 h
      cases he
      exact hmembers hread
  case h_8 =>
    dsimp only at h
    split at h
    · rename_i hnumber
      cases h
      exact hnumber
    · cases h

theorem items?_isValid {vs : List Json}
    (hvalues : ∀ {cs v rest}, value? n cs = some (v, rest) → v.isValid = true)
    (hitems : ∀ {cs vs rest}, items? n cs = some (vs, rest) → itemsValid vs = true)
    (h : items? (n + 1) cs = some (vs, rest)) : itemsValid vs = true := by
  rw [items?] at h
  split at h
  · cases h
  · rename_i v tail hv
    have hvalid := hvalues hv
    split at h
    · cases h
      simp [itemsValid, hvalid]
    · obtain ⟨_, hread, he⟩ := Option.map_eq_some_iff.1 h
      cases he
      simp [itemsValid, hvalid, hitems hread]
    · cases h

theorem members?_isValid {ms : List (Option String × Json)}
    (hvalues : ∀ {cs v rest}, value? n cs = some (v, rest) → v.isValid = true)
    (hmembers : ∀ {cs ms rest}, members? n cs = some (ms, rest) → membersValid ms = true)
    (h : members? (n + 1) cs = some (ms, rest)) : membersValid ms = true := by
  rw [members?] at h
  split at h
  case h_2 => cases h
  split at h
  case h_1 => cases h
  split at h
  case h_2 => cases h
  split at h
  case h_1 => cases h
  rename_i v tail hv
  have hvalid := hvalues hv
  split at h
  · cases h
    simp [membersValid, hvalid]
  · obtain ⟨_, hread, he⟩ := Option.map_eq_some_iff.1 h
    cases he
    simp [membersValid, hvalid, hmembers hread]
  · cases h

theorem readsValid (n : Nat) :
    (∀ {cs v rest}, value? n cs = some (v, rest) → v.isValid = true) ∧
    (∀ {cs vs rest}, items? n cs = some (vs, rest) → itemsValid vs = true) ∧
    ∀ {cs ms rest}, members? n cs = some (ms, rest) → membersValid ms = true := by
  induction n with
  | zero => simp [value?, items?, members?]
  | succ n ih =>
    obtain ⟨hvalues, hitems, hmembers⟩ := ih
    exact ⟨value?_isValid hitems hmembers, items?_isValid hvalues hitems,
      members?_isValid hvalues hmembers⟩

/-- The values whose numbers are numbers of JSON are those that a text denotes. -/
theorem isValid_iff_exists_text {v : Json} : v.isValid = true ↔ ∃ text, parse? text = some v := by
  refine ⟨fun h => ⟨v.toText, parse?_toText h⟩, ?_⟩
  rintro ⟨text, h⟩
  rw [parse?] at h
  split at h
  · rename_i hread
    split at h
    · cases h
      exact (readsValid _).1 hread
    · cases h
  · cases h

end Goodput.Json
