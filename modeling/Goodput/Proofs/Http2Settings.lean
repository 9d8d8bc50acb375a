import Goodput.Cli.Server
import Goodput.Proofs.ScannedValues
import Goodput.Proofs.StreamCountText
/-!
# Which HTTP/2 options fit together

The options of the HTTP/2 mode become settings exactly if they meet four conditions (`Http2Args.Fits`), and are
refused for the first condition in a fixed order that they violate (`toSettings_cases`). On a command line that was
read, a fixed stream count is a power of two besides, since no other text is read as one (`streams_proper`).
-/

namespace Goodput.Cli

namespace Http2Args

/-- The options fit together. -/
structure Fits (a : Http2Args) : Prop where
  cap : StreamCount.Allowed a.maxStreams
  target : 0 < a.targetPartition
  streams : ∀ n, a.streams = .fixed n → n ≤ a.maxStreams
  window : 65535 ≤ a.windowSize ∧ a.windowSize ≤ 2 ^ 31 - 1

/-- A condition that the options violate, by the error that names it. -/
inductive Violates (a : Http2Args) : ConfigError → Prop
  | maxStreams : ¬ StreamCount.Allowed a.maxStreams → Violates a (.maxStreams a.maxStreams)
  | targetPartition : a.targetPartition = 0 → Violates a .targetPartition
  | streamsAboveMax {n} : a.streams = .fixed n → a.maxStreams < n →
      Violates a (.streamsAboveMax n a.maxStreams)
  | windowSize : ¬ (65535 ≤ a.windowSize ∧ a.windowSize ≤ 2 ^ 31 - 1) → Violates a (.windowSize a.windowSize)

end Http2Args

/-- The place of a condition in the order of the checks. -/
def ConfigError.place : ConfigError → Nat
  | .maxStreams _ => 0
  | .targetPartition => 1
  | .streamsAboveMax _ _ => 2
  | .windowSize _ => 3
  | .duration => 4

namespace Http2Args

/-- The error names a violated condition, and none that comes before it is violated. -/
def FirstViolated (a : Http2Args) (e : ConfigError) : Prop :=
  a.Violates e ∧ ∀ e', a.Violates e' → e.place ≤ e'.place

/-- The settings of options that fit together. -/
def accepted (a : Http2Args) : Server.Settings :=
  { a.listen.toSettings .http2 with
    split := ⟨a.splitThreshold, a.targetPartition, a.maxStreams⟩
    streams := a.streams
    h2Window := some a.windowSize }

variable {a : Http2Args}

theorem Fits.not_violates (h : a.Fits) (e : ConfigError) : ¬ a.Violates e := by
  intro hviolates
  cases hviolates with
  | maxStreams hcap => exact hcap h.cap
  | targetPartition htarget => exact Nat.ne_of_gt h.target htarget
  | streamsAboveMax hfixed habove => exact absurd (h.streams _ hfixed) (Nat.not_le.2 habove)
  | windowSize hwindow => exact hwindow h.window

/-- Each place belongs to one condition, which has one error. -/
theorem Violates.eq_of_place {e e' : ConfigError} (h : a.Violates e) (h' : a.Violates e')
    (hplace : e.place = e'.place) : e = e' := by
  cases h with
  | streamsAboveMax hfixed _ =>
    cases h' with
    | streamsAboveMax hfixed' _ =>
      rw [hfixed] at hfixed'
      cases hfixed'
      rfl
    | _ => simp [ConfigError.place] at hplace
  | _ =>
    cases h' with
    | streamsAboveMax _ _ => simp [ConfigError.place] at hplace
    | _ => first | rfl | simp [ConfigError.place] at hplace

theorem FirstViolated.eq {e e' : ConfigError} (h : a.FirstViolated e) (h' : a.FirstViolated e') : e = e' :=
  h.1.eq_of_place h'.1 (Nat.le_antisymm (h.2 e' h'.1) (h'.2 e h.1))

theorem excessStreams?_eq_some {n : Nat} (h : a.excessStreams? = some n) :
    a.streams = .fixed n ∧ a.maxStreams < n := by
  unfold excessStreams? at h
  split at h
  · cases h
  · rename_i m hfixed
    split at h
    · rename_i habove
      cases h
      exact ⟨hfixed, habove⟩
    · cases h

theorem excessStreams?_eq_none (h : a.excessStreams? = none) : ∀ n, a.streams = .fixed n → n ≤ a.maxStreams := by
  intro n hfixed
  simp only [excessStreams?, hfixed] at h
  split at h
  · cases h
  · rename_i hwithin
    exact Nat.le_of_not_lt hwithin

/-- Either the options fit and become settings, or they are refused for the first condition they violate. -/
theorem toSettings_cases (a : Http2Args) :
    (a.Fits ∧ a.toSettings = .ok a.accepted) ∨ ∃ e, a.FirstViolated e ∧ a.toSettings = .error e := by
  have hcheck : (!(isPowerOfTwo a.maxStreams && decide (a.maxStreams ≤ Goodput.maxStreams))) = true ↔
      ¬ StreamCount.Allowed a.maxStreams := by
    rw [Bool.not_eq_true', ← Bool.not_eq_true, StreamCount.allowed_iff]
  unfold toSettings
  -- A check is reached only if those before it passed, which excludes the errors of lower places.
  by_cases hcap : StreamCount.Allowed a.maxStreams
  case neg => exact .inr ⟨_, ⟨.maxStreams hcap, fun e' _ => Nat.zero_le _⟩, if_pos (hcheck.2 hcap)⟩
  rw [if_neg fun h => hcheck.1 h hcap]
  by_cases htarget : a.targetPartition = 0
  · refine .inr ⟨_, ⟨.targetPartition htarget, fun e' h' => ?_⟩, ?_⟩
    · cases h' with
      | maxStreams h => exact absurd hcap h
      | _ => simp [ConfigError.place]
    · rw [if_pos htarget]
  rw [if_neg htarget]
  cases hexcess : a.excessStreams? with
  | some n =>
    obtain ⟨hfixed, habove⟩ := excessStreams?_eq_some hexcess
    refine .inr ⟨_, ⟨.streamsAboveMax hfixed habove, fun e' h' => ?_⟩, rfl⟩
    cases h' with
    | maxStreams h => exact absurd hcap h
    | targetPartition h => exact absurd h htarget
    | _ => simp [ConfigError.place]
  | none =>
    have hstreams := excessStreams?_eq_none hexcess
    dsimp only
    by_cases hwindow : a.windowSize < 65535 ∨ Server.maxWindowSize < a.windowSize
    · have hbounds : ¬ (65535 ≤ a.windowSize ∧ a.windowSize ≤ 2 ^ 31 - 1) := by
        unfold Server.maxWindowSize at hwindow
        omega
      refine .inr ⟨_, ⟨.windowSize hbounds, fun e' h' => ?_⟩, if_pos hwindow⟩
      cases h' with
      | maxStreams h => exact absurd hcap h
      | targetPartition h => exact absurd h htarget
      | streamsAboveMax h habove => exact absurd (hstreams _ h) (Nat.not_le.2 habove)
      | windowSize _ => exact Nat.le_refl _
    · have hbounds : 65535 ≤ a.windowSize ∧ a.windowSize ≤ 2 ^ 31 - 1 := by
        unfold Server.maxWindowSize at hwindow
        omega
      exact .inl ⟨⟨hcap, Nat.pos_of_ne_zero htarget, hstreams, hbounds⟩, if_neg hwindow⟩

theorem toSettings_eq_ok_iff {s : Server.Settings} : a.toSettings = .ok s ↔ a.Fits ∧ s = a.accepted := by
  rcases a.toSettings_cases with ⟨hfits, heq⟩ | ⟨e, hfirst, heq⟩
  · rw [heq, Except.ok.injEq]
    exact ⟨fun h => ⟨hfits, h.symm⟩, fun h => h.2.symm⟩
  · rw [heq]
    exact ⟨nofun, fun h => absurd hfirst.1 (h.1.not_violates e)⟩

theorem toSettings_eq_error_iff {e : ConfigError} : a.toSettings = .error e ↔ a.FirstViolated e := by
  rcases a.toSettings_cases with ⟨hfits, heq⟩ | ⟨e', hfirst, heq⟩
  · rw [heq]
    exact ⟨nofun, fun h => absurd h.1 (hfits.not_violates e)⟩
  · rw [heq, Except.error.injEq]
    exact ⟨fun h => h ▸ hfirst, fun h => hfirst.eq h⟩

end Http2Args

/-! ## Options that were read -/

/-- A value that is a stream count was read from the text of one. -/
theorem OptionSpec.Reads.streams {o : OptionSpec} {c : StreamCount} (h : o.Reads (.streams c)) :
    ∃ raw, StreamCount.parse raw = .ok c := by
  cases h with
  | @read kind raw _ _ hread =>
    cases kind with
    | streams =>
      simp only [ValueKind.read] at hread
      split at hread
      · rename_i hparse
        cases hread
        exact ⟨raw, hparse⟩
      · cases hread
    | word bound =>
      simp only [ValueKind.read] at hread
      cases hword : bounded bound raw.toList <;> rw [hword] at hread <;> cases hread
    | text => cases hread
    | ip | number | path =>
      simp only [ValueKind.read] at hread
      split at hread <;> cases hread

theorem proper_of_stems {options : List OptionSpec} {vs : List (String × Value)} (h : Stems options vs)
    {name : String} {c : StreamCount} (hc : Values.streams? name vs = some c) : c.Proper := by
  unfold Values.streams? at hc
  split at hc
  · rename_i c' hget
    cases hc
    obtain ⟨e, hfind, he⟩ := Option.map_eq_some_iff.1 hget
    obtain ⟨o, -, -, hreads⟩ := h e (List.mem_of_find?_eq_some hfind)
    rw [he] at hreads
    obtain ⟨raw, hparse⟩ := hreads.streams
    exact StreamCount.proper_of_parse hparse
  · cases hc

/-- A command that was read comes from values that were read by the options of its mode. -/
theorem parseServer_ok {env : List (String × String)} {args : List String} {command : Command}
    (h : parseServer env args = .ok command) :
    ∃ mode vs, Stems (commandOf mode).options vs ∧ command = .ofValues mode vs := by
  unfold parseServer at h
  split at h
  case h_5 =>
    split at h
    · rename_i mode _
      cases hscan : scan (commandOf mode) env _ with
      | error e =>
        rw [hscan] at h
        cases h
      | ok vs =>
        rw [hscan] at h
        cases h
        exact ⟨mode, vs, scan_stems hscan, rfl⟩
    · split at h
      · split at h <;> cases h
      · cases h
  all_goals cases h

/-- The stream count of an HTTP/2 command line is automatic, or a power of two up to the limit. -/
theorem streams_proper {env : List (String × String)} {args : List String} {a : Http2Args}
    (h : parseServer env args = .ok (.http2 a)) : a.streams.Proper := by
  obtain ⟨mode, vs, hstems, hcommand⟩ := parseServer_ok h
  cases mode with
  | http2 =>
    cases hcommand
    dsimp only
    cases hstreams : Values.streams? "streams" vs with
    | none => trivial
    | some c => exact proper_of_stems hstems hstreams
  | http1 => cases hcommand
  | ndt7 => cases hcommand

end Goodput.Cli
