import Mathlib
import Goodput.Ndt7.Measurement
import Goodput.Proofs.JsonRoundTrip
/-!
# Measurements survive their text

A measurement is read back from its text. A peer need not write the members in our order, and may write
more of them: `Measurement.SpelledBy` says which JSON values still spell a measurement, with the members of
each object in any order and next to members of other names. We prove that each text of such a value is
read as the measurement.

The heart is the reader of an object (`fields?_of_holds`): a known name occurs at most once, so it finds
the value that was put there wherever it stands, and a name without a value is found to be missing.
-/

namespace Goodput.Ndt7

/-! ## Objects with known names -/

/-- The members for the values that there are, each under its name. -/
def spelled (names : List String) (values : List (Option Json)) : List (String × Json) :=
  (names.zip values).flatMap fun x => Json.optional x.1 x.2

/-- The value is an object with these values under these names, in any order, and otherwise only with
members of other names. -/
def Holds (names : List String) (values : List (Option Json)) (v : Json) : Prop :=
  ∃ members others, v = .ofMembers members ∧ members.Perm (spelled names values ++ others) ∧
    ∀ m ∈ others, m.1 ∉ names

variable {names : List String} {values : List (Option Json)} {name : String} {value : Option Json}

theorem spelled_cons (name : String) (names : List String) (value : Option Json)
    (values : List (Option Json)) :
    spelled (name :: names) (value :: values) = Json.optional name value ++ spelled names values := by
  simp [spelled]

theorem fst_eq_of_mem_optional {m : String × Json} (h : m ∈ Json.optional name value) : m.1 = name := by
  cases value with
  | none => cases h
  | some v => rw [List.mem_singleton.1 h]

theorem fst_mem_of_mem_spelled {m : String × Json} (h : m ∈ spelled names values) : m.1 ∈ names := by
  obtain ⟨⟨name, value⟩, hx, hm⟩ := List.mem_flatMap.1 h
  rw [fst_eq_of_mem_optional hm]
  exact (List.of_mem_zip hx).1

theorem filter_eq_nil_of_ne {members : List (String × Json)} (h : ∀ m ∈ members, m.1 ≠ name) :
    members.filter (fun m => m.1 == name) = [] := by
  simpa [List.filter_eq_nil_iff] using fun a b hm => h (a, b) hm

/-- Under one of the names stands its value and nothing else. -/
theorem filter_spelled (hnames : names.Nodup) (h : (name, value) ∈ names.zip values) :
    (spelled names values).filter (fun m => m.1 == name) = Json.optional name value := by
  induction names generalizing values with
  | nil => cases h
  | cons n ns ih =>
    cases values with
    | nil => cases h
    | cons v vs =>
      obtain ⟨hn, hns⟩ := List.nodup_cons.1 hnames
      rw [spelled_cons, List.filter_append]
      cases h with
      | head =>
        have hhere : (Json.optional name value).filter (fun m => m.1 == name) = Json.optional name value := by
          rw [List.filter_eq_self]
          intro m hm
          simp [fst_eq_of_mem_optional hm]
        have hlater : (spelled ns vs).filter (fun m => m.1 == name) = [] :=
          filter_eq_nil_of_ne fun m hm he => hn (he ▸ fst_mem_of_mem_spelled hm)
        rw [hhere, hlater, List.append_nil]
      | tail _ h =>
        have hearlier : (Json.optional n v).filter (fun m => m.1 == name) = [] := by
          refine filter_eq_nil_of_ne fun m hm he => hn ?_
          rw [← fst_eq_of_mem_optional hm, he]
          exact (List.of_mem_zip h).1
        rw [hearlier, List.nil_append, ih hns h]

theorem filter_ofMembers (members : List (String × Json)) (name : String) :
    (members.map fun m => (some m.1, m.2)).filter (fun m => m.1 == some name)
      = (members.filter fun m => m.1 == name).map fun m => (some m.1, m.2) := by
  rw [List.filter_map]
  congr 1

theorem mapM_eq_of_zip {f : String → Option (Option Json)} (hlen : names.length = values.length)
    (h : ∀ x ∈ names.zip values, f x.1 = some x.2) : names.mapM f = some values := by
  induction names generalizing values with
  | nil =>
    obtain rfl := List.length_eq_zero_iff.1 hlen.symm
    rfl
  | cons n ns ih =>
    cases values with
    | nil => cases hlen
    | cons v vs =>
      have hhead : f n = some v := h (n, v) (by simp)
      have htail := ih (Nat.succ.inj hlen) fun x hx => h x (by simp [hx])
      simp [List.mapM_cons, hhead, htail]

/-- The reader of an object finds each value wherever its member stands. -/
theorem fields?_of_holds {v : Json} (hnames : names.Nodup) (hlen : names.length = values.length)
    (h : Holds names values v) : fields? names v = some values := by
  obtain ⟨members, others, rfl, hperm, hothers⟩ := h
  have htexts : ((members.map fun m => (some m.1, m.2)).all fun m => m.1.isSome) = true := by
    simp
  rw [Json.ofMembers, fields?, knownMembers?, if_pos htexts]
  refine mapM_eq_of_zip hlen fun x hx => ?_
  obtain ⟨name, value⟩ := x
  have hname : name ∈ names := (List.of_mem_zip hx).1
  have hnone : others.filter (fun m => m.1 == name) = [] :=
    filter_eq_nil_of_ne fun m hm he => hothers m hm (he ▸ hname)
  have hfound : (members.filter fun m => m.1 == name).Perm (Json.optional name value) := by
    have hfilter := hperm.filter fun m => m.1 == name
    rwa [List.filter_append, filter_spelled hnames hx, hnone, List.append_nil] at hfilter
  rw [filter_ofMembers]
  -- At most one member is found, so its order is no longer a matter.
  cases value with
  | none =>
    rw [List.Perm.eq_nil hfound]
    rfl
  | some v =>
    rw [List.perm_singleton.1 hfound]
    rfl

/-! ## The parts of a measurement -/

theorem number?_int {i : Int} (h : fitsNumber i = true) : number? (.int i) = some i := by
  obtain ⟨literal, hliteral, -, hinteger⟩ := Json.int_eq_number i
  rw [hliteral, number?, hinteger]
  exact if_pos h

/-- The JSON value spells the numbers. -/
def AppInfo.SpelledBy (a : AppInfo) : Json → Prop :=
  Holds ["ElapsedTime", "NumBytes"] [some (.int a.elapsedTime), some (.int a.numBytes)]

/-- The JSON value spells the ends of the connection. -/
def ConnectionInfo.SpelledBy (c : ConnectionInfo) : Json → Prop :=
  Holds ["Client", "Server", "UUID"] [some (.text c.client), some (.text c.server), some (.text c.uuid)]

/-- Both numbers are among those that a measurement holds. -/
def AppInfo.Fits (a : AppInfo) : Prop := fitsNumber a.elapsedTime = true ∧ fitsNumber a.numBytes = true

theorem AppInfo.ofJson?_of_spelledBy {a : AppInfo} {v : Json} (hfits : a.Fits) (h : a.SpelledBy v) :
    AppInfo.ofJson? v = some a := by
  have hfields := fields?_of_holds (by decide) rfl h
  simp [AppInfo.ofJson?, hfields, number?_int hfits.1, number?_int hfits.2]

theorem ConnectionInfo.ofJson?_of_spelledBy {c : ConnectionInfo} {v : Json} (h : c.SpelledBy v) :
    ConnectionInfo.ofJson? v = some c := by
  have hfields := fields?_of_holds (by decide) rfl h
  rw [ConnectionInfo.ofJson?, hfields]
  rfl

/-- A reader that takes no null reads an optional value, and finds that there is none. -/
theorem optional?_of_rel {α : Type} {read : Json → Option α} {R : α → Json → Prop} {a : Option α}
    {v : Option Json} (hnull : read .null = none) (h : Option.Rel R a v)
    (hread : ∀ x ∈ a, ∀ w, R x w → read w = some x) : optional? read v = some a := by
  cases h with
  | none => rfl
  | @some x w h =>
    have hw : read w = some x := hread x rfl w h
    have hne : w ≠ .null := by
      rintro rfl
      rw [hnull] at hw
      cases hw
    rw [optional?, hw]
    · rfl
    · exact hne

theorem optional?_text (s : Option String) : optional? text? (s.map .text) = some s := by
  cases s <;> rfl

namespace Measurement

/-- The JSON value spells the measurement: what is absent is left out, what is there stands under its
name, and the members of each object come in any order among others that are not known. -/
def SpelledBy (m : Measurement) (v : Json) : Prop :=
  ∃ appInfo connectionInfo, Option.Rel AppInfo.SpelledBy m.appInfo appInfo ∧
    Option.Rel ConnectionInfo.SpelledBy m.connectionInfo connectionInfo ∧
    Holds ["AppInfo", "ConnectionInfo", "Origin", "Test"]
      [appInfo, connectionInfo, m.origin.map .text, m.test.map .text] v

/-- The numbers are among those that a measurement holds. -/
def Fits (m : Measurement) : Prop := ∀ a ∈ m.appInfo, a.Fits

theorem ofJson?_of_spelledBy {m : Measurement} {v : Json} (hfits : m.Fits) (h : m.SpelledBy v) :
    ofJson? v = some m := by
  obtain ⟨appInfo, connectionInfo, ha, hc, hv⟩ := h
  have hfields := fields?_of_holds (by decide) rfl hv
  have happ : optional? AppInfo.ofJson? appInfo = some m.appInfo :=
    optional?_of_rel rfl ha fun a hmem _ => AppInfo.ofJson?_of_spelledBy (hfits a hmem)
  have hconnection : optional? ConnectionInfo.ofJson? connectionInfo = some m.connectionInfo :=
    optional?_of_rel rfl hc fun _ _ _ => ConnectionInfo.ofJson?_of_spelledBy
  simp [ofJson?, hfields, happ, hconnection, optional?_text]

/-! ## The text that is written -/

theorem holds_ofMembers {names : List String} {values : List (Option Json)} {v : Json}
    (h : v = .ofMembers (spelled names values)) : Holds names values v :=
  ⟨spelled names values, [], h, by simp, by simp⟩

theorem rel_map {α : Type} {R : α → Json → Prop} {write : α → Json} (h : ∀ a, R a (write a))
    (a : Option α) : Option.Rel R a (a.map write) := by
  cases a with
  | none => exact .none
  | some a => exact .some (h a)

/-- What is written spells the measurement. -/
theorem toJson_spelledBy (m : Measurement) : m.SpelledBy m.toJson := by
  refine ⟨m.appInfo.map AppInfo.toJson, m.connectionInfo.map ConnectionInfo.toJson,
    rel_map (fun _ => holds_ofMembers rfl) m.appInfo,
    rel_map (fun _ => holds_ofMembers rfl) m.connectionInfo, holds_ofMembers ?_⟩
  simp [toJson, spelled]

theorem isValid_optional {α : Type} {write : α → Json} (h : ∀ a, (write a).isValid = true) (name : String)
    (a : Option α) : ∀ m ∈ Json.optional name (a.map write), m.2.isValid = true := by
  cases a with
  | none => simp [Json.optional]
  | some a => simp [Json.optional, h a]

theorem isValid_toJson (m : Measurement) : m.toJson.isValid = true := by
  have happ (a : AppInfo) : a.toJson.isValid = true := by
    simp [AppInfo.toJson, Json.isValid_ofMembers, Json.isValid_int]
  have hconnection (c : ConnectionInfo) : c.toJson.isValid = true := by
    simp [ConnectionInfo.toJson, Json.isValid_ofMembers, Json.isValid_text]
  rw [toJson, Json.isValid_ofMembers]
  simp only [List.all_append, Bool.and_eq_true, List.all_eq_true]
  exact ⟨⟨⟨isValid_optional happ _ _, isValid_optional hconnection _ _⟩,
    isValid_optional Json.isValid_text _ _⟩, isValid_optional Json.isValid_text _ _⟩

/-- What the server measures is capped, so it fits. -/
theorem server_fits (test : String) (elapsed : Span) (bytes : Nat) (connectionInfo : Option ConnectionInfo) :
    (server test elapsed bytes connectionInfo).Fits := by
  have hcap (n : Nat) : fitsNumber (min n maxNumber : Nat) = true := by
    have hle : min n maxNumber ≤ maxNumber := Nat.min_le_right n maxNumber
    simp only [fitsNumber, Bool.and_eq_true, decide_eq_true_eq]
    omega
  rintro a ⟨⟩
  exact ⟨hcap elapsed.micros, hcap bytes⟩

/-- Every text of a value that spells a measurement is read as this measurement. -/
theorem parse?_of_spelledBy {m : Measurement} {v : Json} {text : String} (hfits : m.Fits)
    (h : m.SpelledBy v) (htext : Json.parse? text = some v) : parse? text = some m := by
  rw [parse?, htext]
  exact ofJson?_of_spelledBy hfits h

theorem parse?_text {m : Measurement} (h : m.Fits) : parse? m.text = some m :=
  parse?_of_spelledBy h m.toJson_spelledBy (Json.parse?_toText m.isValid_toJson)

/-- A measurement whose numbers are 64-bit integers is read back from its text. It is also read from every
other text of a JSON value that spells it, whatever the order of its members and whatever stands among
them. The text of a measurement of the server gives the microseconds and the bytes up to the largest
number, and neither is negative. -/
theorem measurements_survive_text :
    (∀ m : Measurement, m.Fits →
      parse? m.text = some m ∧
      ∀ v, m.SpelledBy v →
        (v.isValid = true → parse? v.toText = some m) ∧
        ∀ text, Json.parse? text = some v → parse? text = some m) ∧
    ∀ (test : String) (elapsed : Span) (bytes : Nat) (connectionInfo : Option ConnectionInfo),
      ∃ m a, parse? (server test elapsed bytes connectionInfo).text = some m ∧ m.appInfo = some a ∧
        a.elapsedTime = min elapsed.micros maxNumber ∧ a.numBytes = min bytes maxNumber ∧
        0 ≤ a.elapsedTime ∧ 0 ≤ a.numBytes := by
  refine ⟨fun m hfits => ⟨parse?_text hfits, fun v hv => ⟨fun hvalid => ?_, fun text htext => ?_⟩⟩, ?_⟩
  · exact parse?_of_spelledBy hfits hv (Json.parse?_toText hvalid)
  · exact parse?_of_spelledBy hfits hv htext
  · intro test elapsed bytes connectionInfo
    have hread := parse?_text (server_fits test elapsed bytes connectionInfo)
    exact ⟨_, _, hread, rfl, by simp, by simp, Int.natCast_nonneg _, Int.natCast_nonneg _⟩

/-- A measurement with a quote, a backslash and a control character in its name of the test. -/
def escapedSample : Measurement := ⟨some ⟨1500, -3⟩, none, none, some "\"\\\x01"⟩

/-- A value that spells it, with the members the other way around and one more in each object. -/
def reorderedSample : Json :=
  .ofMembers [("Zone", .array [.object [(none, .number ['1', 'e', '5'])]]), ("Test", .text "\"\\\x01"),
    ("AppInfo", .ofMembers [("Extra", .null), ("NumBytes", .int (-3)), ("ElapsedTime", .int 1500)])]

theorem reorderedSample_spells : escapedSample.SpelledBy reorderedSample := by
  refine ⟨_, _, .some ⟨_, [("Extra", .null)], rfl, List.reverse_perm _, by decide⟩, .none,
    (spelled _ _ ++ [("Zone", Json.array [.object [(none, .number ['1', 'e', '5'])]])]).reverse,
    _, rfl, List.reverse_perm _, by decide⟩

/-- A text of that value with blanks, and with escapes that need not be. -/
def looseText : String :=
  "\x7b \"Zone\": [\x7b\"\\uD800\" :1e5\x7d ],\n\"Test\":\"\\u0022\\\\\\u0001\","
    ++ "\"AppInfo\":\x7b\"Extra\": null, \"NumBytes\":-3,\"ElapsedTime\":1500\x7d\n\x7d\n"

theorem looseText_denotes : Json.parse? looseText = some reorderedSample := by cbv

/-- It is read from its own text, from the text with the members the other way around, and from a text that
somebody else wrote. -/
theorem escapedSample_read :
    escapedSample.Fits ∧ escapedSample.SpelledBy reorderedSample ∧ reorderedSample.isValid = true ∧
      Json.parse? looseText = some reorderedSample ∧ parse? escapedSample.text = some escapedSample ∧
      parse? reorderedSample.toText = some escapedSample ∧ parse? looseText = some escapedSample := by
  have hfits : escapedSample.Fits := by
    rintro a ⟨⟩
    exact ⟨by decide, by decide⟩
  have hvalid : reorderedSample.isValid = true := by decide
  obtain ⟨hread, hother⟩ := measurements_survive_text.1 escapedSample hfits
  obtain ⟨hcompact, hloose⟩ := hother _ reorderedSample_spells
  exact ⟨hfits, reorderedSample_spells, hvalid, looseText_denotes, hread, hcompact hvalid,
    hloose _ looseText_denotes⟩

end Measurement

end Goodput.Ndt7
