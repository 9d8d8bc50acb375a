import Goodput.Cli.Scan
/-!
# Where the values of a command line come from

Arguments may attach a value, leave it to the next argument or to an environment variable, and a value may be read
long after its option was met. Whatever the order, each value that `scan` hands on was read by an option of the
command, as the kind of value that the option takes (`scan_stems`). So what a kind guarantees of its values holds
of all the values of a command line.
-/

namespace Goodput.Cli

/-- The value is what the option makes of some text; a switch is just present. -/
inductive OptionSpec.Reads (o : OptionSpec) : Value → Prop
  | present : o.value = none → Reads o .present
  | read {kind raw v} : o.value = some kind → kind.read raw = .ok v → Reads o v

/-- Each value was read by an option of that name. -/
def Stems (options : List OptionSpec) (vs : List (String × Value)) : Prop :=
  ∀ e ∈ vs, ∃ o ∈ options, o.long = e.1 ∧ o.Reads e.2

namespace Scan

/-- The values were read by options, and the option that waits for its value is one of them. -/
structure Sound (options : List OptionSpec) (s : Scan) : Prop where
  values : Stems options s.values
  pending : ∀ p ∈ s.pending, p.1 ∈ options

variable {options : List OptionSpec}

theorem start_sound : start.Sound options := ⟨by simp [Stems, start], by simp [start]⟩

theorem Sound.withValue {s : Scan} {o : OptionSpec} {v : Value} (h : s.Sound options) (ho : o ∈ options)
    (hv : o.Reads v) : Sound options { s with values := s.values ++ [(o.long, v)] } := by
  refine ⟨fun e he => ?_, h.pending⟩
  rcases List.mem_append.1 he with he | he
  · exact h.values e he
  · rw [List.mem_singleton] at he
    subst he
    exact ⟨o, ho, rfl, hv⟩

theorem Sound.withPending {s : Scan} (h : s.Sound options) {pending : Option (OptionSpec × Option String)}
    (hp : ∀ p ∈ pending, p.1 ∈ options) : Sound options { s with pending := pending } := ⟨h.values, hp⟩

/-! ## Steps -/

/-- The step leads from sound scans to sound scans, if it leads anywhere. -/
def Keeps (options : List OptionSpec) (step : Scan → Except ArgError Scan) : Prop :=
  ∀ ⦃s s'⦄, s.Sound options → step s = .ok s' → s'.Sound options

theorem Keeps.bind {f g : Scan → Except ArgError Scan} (hf : Keeps options f) (hg : Keeps options g) :
    Keeps options fun s => f s >>= g := by
  intro s s' hs h
  dsimp only at h
  cases hfs : f s with
  | error e =>
    rw [hfs] at h
    cases h
  | ok t =>
    rw [hfs] at h
    exact hg (hf hs hfs) h

theorem Keeps.map {f : Scan → Except ArgError Scan} {g : Scan → Scan} (hf : Keeps options f)
    (hg : ∀ s, s.Sound options → (g s).Sound options) : Keeps options fun s => (f s).map g := by
  intro s s' hs h
  dsimp only at h
  cases hfs : f s with
  | error e =>
    rw [hfs] at h
    cases h
  | ok t =>
    rw [hfs] at h
    cases h
    exact hg t (hf hs hfs)

theorem keeps_error (e : ArgError) : Keeps options fun _ => .error e := by
  intro s s' _ h
  cases h

theorem keeps_store {o : OptionSpec} (ho : o ∈ options) (raw : String) : Keeps options (store o raw) := by
  intro s s' hs h
  unfold store at h
  split at h
  · cases h
  · split at h
    · rename_i hswitch
      cases h
      exact hs.withValue ho (.present hswitch)
    · rename_i kind hkind
      split at h
      · rename_i v hread
        cases h
        exact hs.withValue ho (.read hkind hread)
      · cases h
      · cases h

theorem keeps_settle : Keeps options settle := by
  intro s s' hs h
  unfold settle at h
  split at h
  · cases h
    exact hs
  · cases h
  · -- The option was one of the command's when it began to wait.
    rename_i o raw hpending
    exact keeps_store (hs.pending _ hpending) raw (hs.withPending (by simp)) h

theorem keeps_option {o : OptionSpec} (ho : o ∈ options) (attached : Option String) :
    Keeps options (option o attached) := by
  intro s s' hs h
  unfold option at h
  split at h
  · cases h
  · exact keeps_settle.bind (keeps_store ho "") hs h
  · exact keeps_settle.bind (keeps_store ho _) hs h
  · refine keeps_settle.map (fun t ht => ht.withPending fun p hp => ?_) hs h
    cases hp
    exact ho

/-- A question for help or the version never goes on. -/
theorem keeps_asked (answer : ArgError) (attached : Option String) : Keeps options (asked answer attached) := by
  intro s s' hs h
  unfold asked at h
  split at h
  · cases h
  · exact keeps_settle.bind (keeps_error answer) hs h

variable {cmd : CommandSpec}

theorem keeps_longOption (body : List Char) : Keeps cmd.options (longOption cmd body) := by
  intro s s' hs h
  unfold longOption at h
  split at h
  rename_i name attached _
  split at h
  · rename_i o ho
    exact keeps_option (List.mem_of_find?_eq_some ho) attached hs h
  · split at h
    · exact keeps_asked _ _ hs h
    · split at h
      · exact keeps_asked _ _ hs h
      · cases h

theorem keeps_shortOptions (cs : List Char) : Keeps cmd.options (shortOptions cmd cs) := by
  induction cs with
  | nil =>
    intro s s' hs h
    cases h
    exact hs
  | cons c rest ih =>
    intro s s' hs h
    unfold shortOptions at h
    split at h
    · rename_i o ho
      have hmem := List.mem_of_find?_eq_some ho
      split at h
      · split at h
        · exact keeps_option hmem _ hs h
        · exact keeps_option hmem _ hs h
        · exact keeps_option hmem _ hs h
      · exact (keeps_option hmem none).bind ih hs h
    · split at h
      · exact keeps_asked _ _ hs h
      · split at h
        · exact keeps_asked _ _ hs h
        · cases h

theorem keeps_argument (arg : List Char) : Keeps cmd.options (argument cmd arg) := by
  intro s s' hs h
  unfold argument at h
  split at h
  · exact keeps_longOption _ hs h
  · exact keeps_shortOptions _ hs h
  · split at h
    · rename_i o hpending
      cases h
      refine hs.withPending fun p hp => ?_
      cases hp
      exact hs.pending (o, none) hpending
    · cases h

/-! ## Runs -/

theorem keeps_arguments (args : List String) : Keeps cmd.options (arguments cmd args) := by
  induction args with
  | nil => exact keeps_settle
  | cons arg args ih =>
    intro s s' hs h
    unfold arguments at h
    split at h
    · split at h
      · exact keeps_settle hs h
      · cases h
    · exact (keeps_argument arg.toList).bind ih hs h

theorem keeps_fromEnv (env : List (String × String)) {os : List OptionSpec} (hos : ∀ o ∈ os, o ∈ options) :
    Keeps options (fromEnv env os) := by
  induction os with
  | nil =>
    intro s s' hs h
    cases h
    exact hs
  | cons o os ih =>
    have hrest := ih fun o' ho' => hos o' (List.mem_cons_of_mem _ ho')
    intro s s' hs h
    unfold fromEnv at h
    dsimp only at h
    split at h
    · split at h
      · exact hrest hs h
      · exact (keeps_store (hos o List.mem_cons_self) _).bind hrest hs h
    · exact hrest hs h

end Scan

/-- Whatever the arguments and the environment are, each value of the scan was read by an option of the command. -/
theorem scan_stems {cmd : CommandSpec} {env : List (String × String)} {args : List String}
    {vs : List (String × Value)} (h : scan cmd env args = .ok vs) : Stems cmd.options vs := by
  unfold scan at h
  split at h
  · cases h
  · rename_i s hargs
    split at h
    · cases h
    · rename_i s' henv
      split at h
      · cases h
        have hs := Scan.keeps_arguments args Scan.start_sound hargs
        exact (Scan.keeps_fromEnv env (fun _ ho => ho) hs henv).values
      · cases h

end Goodput.Cli
