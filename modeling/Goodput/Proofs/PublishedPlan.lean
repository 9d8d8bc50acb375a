import Goodput.Http.App
import Goodput.Proofs.FewestStreams
import Goodput.Proofs.Http2Settings
import Goodput.Proofs.JsonRoundTrip
import Goodput.Proofs.PartitionCover
import Goodput.Proofs.Refusal
import Goodput.Proofs.TransferPath
/-!
# Plans that a server publishes

The bound on streams is established where the options of the server are checked, and relied on where the policy
counts and where the route answers. We follow it from one to the other: the options that are accepted make every
plan of the server cover its transfer with no more partitions than the cap, and a client that names a stream count
of its own gets no more than the limit (`accepted_options_bound_plans`).
-/

namespace Goodput

/-! ## Counts under a proper cap -/

namespace SplitPolicy

variable {p : SplitPolicy} {mode : StreamCount}

theorem cap_eq (h : StreamCount.Allowed p.maxStreams) : p.cap = p.maxStreams := by
  obtain ⟨⟨e, he⟩, hlimit⟩ := h
  have hpos : 0 < p.maxStreams := he ▸ Nat.two_pow_pos e
  unfold cap
  omega

/-- Between powers of two the smaller is one as well, so a cap that is one keeps the count one. -/
theorem exists_streamCount_eq_pow (hcap : StreamCount.Allowed p.maxStreams) (hmode : mode.Proper) (total : Nat) :
    ∃ e, p.streamCount total mode = 2 ^ e := by
  rcases p.streamCount_cases total mode with h | ⟨-, h⟩ | ⟨n, rfl, h⟩
  · exact ⟨0, h⟩
  · rw [cap_eq hcap] at h
    obtain ⟨⟨e, he⟩, -⟩ := hcap
    rcases Nat.le_total p.maxStreams (p.fewest total) with hle | hle
    · exact ⟨e, h.trans ((Nat.min_eq_left hle).trans he)⟩
    · exact ⟨_, h.trans (Nat.min_eq_right hle)⟩
  · obtain ⟨⟨e, rfl⟩, -⟩ := hmode
    exact ⟨e, h.trans (Nat.max_eq_left (Nat.two_pow_pos e))⟩

theorem streamCount_le_limit (p : SplitPolicy) (hmode : mode.Proper) (total : Nat) :
    p.streamCount total mode ≤ Goodput.maxStreams := by
  have hone : 1 ≤ Goodput.maxStreams := by decide
  rcases p.streamCount_cases total mode with h | ⟨rfl, -⟩ | ⟨n, rfl, h⟩
  · rw [h]
    exact hone
  · exact Nat.le_trans (p.streamCount_auto_le_cap total) (Nat.min_le_right _ _)
  · rw [h]
    exact Nat.max_le.2 ⟨hmode.2, hone⟩

theorem streamCount_le_cap (hcap : StreamCount.Allowed p.maxStreams)
    (hmode : ∀ n, mode = .fixed n → n ≤ p.maxStreams) (total : Nat) :
    p.streamCount total mode ≤ p.maxStreams := by
  have hpos := p.cap_pos
  rw [cap_eq hcap] at hpos
  rcases p.streamCount_cases total mode with h | ⟨rfl, -⟩ | ⟨n, rfl, h⟩
  · rw [h]
    exact hpos
  · exact Nat.le_trans (p.streamCount_auto_le_cap total) (Nat.le_of_eq (cap_eq hcap))
  · rw [h]
    exact Nat.max_le.2 ⟨hmode n rfl, hpos⟩

theorem length_plan_le (p : SplitPolicy) (total : Nat) (mode : StreamCount) :
    (p.plan total mode).length ≤ p.streamCount total mode := by
  rw [length_plan]
  exact Nat.min_le_left _ _

theorem length_plan_pos (p : SplitPolicy) (total : Nat) (mode : StreamCount) : 0 < (p.plan total mode).length := by
  rw [plan_eq, length_partition]
  exact partitionCount_pos _ _

end SplitPolicy

/-- Every byte of the transfer is in exactly one of the partitions, and they hold no other. -/
structure Covers (parts : List Partition) (total : Nat) : Prop where
  once : ∀ b < total, ∃! p, p ∈ parts ∧ p.Holds b
  within : ∀ p ∈ parts, p.start + p.len ≤ total
  sum : (parts.map (·.len)).sum = total

theorem SplitPolicy.plan_covers (p : SplitPolicy) (total : Nat) (mode : StreamCount) :
    Covers (p.plan total mode) total :=
  ⟨fun _ hb => existsUnique_holds _ hb, fun _ hq => end_le_of_mem hq, sum_lens _ _⟩

/-! ## What a plan says as JSON -/

/-- The member of an object. -/
def Json.member? (name : String) : Json → Option Json
  | .object members => (members.find? (·.1 == some name)).map (·.2)
  | _ => none

theorem isValid_partition (p : Partition) : p.toJson.isValid = true := by
  have hnat : ∀ n : Nat, (Json.nat n).isValid = true := fun n => Json.isValid_int n
  simp [Partition.toJson, Json.isValid_ofMembers, hnat]

theorem itemsValid_partitions (parts : List Partition) :
    Json.itemsValid (parts.map Partition.toJson) = true := by
  induction parts with
  | nil => rfl
  | cons p parts ih => rw [List.map_cons, Json.itemsValid, isValid_partition, ih, Bool.and_self]

namespace Http

theorem SplitPlan.isValid_toJson (plan : SplitPlan) : plan.toJson.isValid = true := by
  have hnat : ∀ n : Nat, (Json.nat n).isValid = true := fun n => Json.isValid_int n
  have hparts : (Json.array (plan.partitions.map Partition.toJson)).isValid = true :=
    itemsValid_partitions plan.partitions
  simp [SplitPlan.toJson, Json.isValid_ofMembers, hnat, hparts]

/-- The reply is a plan for so many bytes: its text is JSON that says the size, these partitions, and as many
streams as there are partitions. -/
structure Publishes (r : Reply) (size : Nat) (parts : List Partition) : Prop where
  status : r.head.status = 200
  content : ∃ text v, r.content = .json text ∧ Json.parse? text = some v ∧ v.member? "size" = some (.nat size) ∧
    v.member? "streams" = some (.nat parts.length) ∧
    v.member? "partitions" = some (.array (parts.map Partition.toJson))

/-! ## The route of plans -/

/-- The path of the plan for so many bytes. -/
def planPath (size : Nat) : ByteText := "/api/split/".toList ++ Decimal.digits size

/-- Where more than one segment follows, none of them is the last. -/
theorem lastSegment?_deeper (start : String) {rest : ByteText} (hslash : '/' ∈ rest) :
    lastSegment? start (start.toList ++ rest) = none := by
  unfold lastSegment?
  rw [Text.dropStart?_append]
  simp [hslash]

theorem ofPath?_planPath (size : Nat) :
    Route.ofPath? .http2 (planPath size) = some (.splitPlan (Decimal.digits size)) := by
  have hstart : "/api/split/".toList = "/api/".toList ++ "split/".toList := by decide
  have htransfer : lastSegment? "/api/" (planPath size) = none := by
    unfold planPath
    rw [hstart, List.append_assoc]
    exact lastSegment?_deeper "/api/" (List.mem_append_left _ (by decide))
  have hplan : lastSegment? "/api/split/" (planPath size) = some (Decimal.digits size) :=
    lastSegment?_append "/api/split/" (Decimal.digits_ne_nil size) (Decimal.not_mem_digits (by decide))
  simp only [Route.ofPath?, htransfer, hplan, Option.map_some]

/-- The request asks for the plan for so many bytes. -/
structure AsksPlan (req : Request) (size : Nat) : Prop where
  method : req.method = "GET"
  path : req.target.path = planPath size

variable {settings : Server.Settings} {size : Nat} {streamsText : Option String}

/-- The question comes to the handler of plans, with the size as a numeral. -/
theorem answer_asked (hmode : settings.mode = .http2) (now : Instant) (conn? : Option Conn) {req : Request}
    (h : AsksPlan req size) :
    App.answer settings now conn? req = .reply (CrossOrigin.apply (planFor settings (Decimal.digits size) req)) := by
  simp [App.answer, App.onPath, h.method, h.path, hmode, ofPath?_planPath, Route.methods, App.onRoute]

theorem planFor_digits {req : Request} (hquery : streamsInQuery? req.target.query = some streamsText) :
    planFor settings (Decimal.digits size) req =
      splitPlan settings (String.ofList (Decimal.digits size)) streamsText := by
  simp [planFor, segmentText?_digits, hquery]

/-- The question of a client that names more than one stream count is a bad request. -/
theorem planFor_ambiguous {req : Request} (hquery : streamsInQuery? req.target.query = none) :
    (CrossOrigin.apply (planFor settings (Decimal.digits size) req)).head.status = 400 := by
  simp only [planFor, segmentText?_digits, hquery]
  rfl

theorem plan_published (hbound : size < UInt64.size) (hlimit : ∀ limit ∈ settings.maxSize, size ≤ limit)
    {mode : StreamCount} (h : SplitPlan.requestedStreams settings.streams streamsText = .ok mode) :
    Publishes (CrossOrigin.apply (splitPlan settings (String.ofList (Decimal.digits size)) streamsText)) size
      (settings.split.plan size mode) := by
  have haccept : SplitPlan.accept settings.maxSize settings.split settings.streams
      (String.ofList (Decimal.digits size)) streamsText = .ok ⟨size, settings.split.plan size mode⟩ := by
    simp only [SplitPlan.accept, Size.validate_digits hbound hlimit, h]
  unfold splitPlan
  rw [haccept]
  exact ⟨rfl, _, _, rfl, Json.parse?_toText (SplitPlan.isValid_toJson _), rfl, rfl, rfl⟩

theorem plan_refused (hbound : size < UInt64.size) (hlimit : ∀ limit ∈ settings.maxSize, size ≤ limit)
    {e : ApiError} (h : SplitPlan.requestedStreams settings.streams streamsText = .error e) :
    (CrossOrigin.apply (splitPlan settings (String.ofList (Decimal.digits size)) streamsText)).head.status =
      e.status := by
  have haccept : SplitPlan.accept settings.maxSize settings.split settings.streams
      (String.ofList (Decimal.digits size)) streamsText = .error e := by
    simp only [SplitPlan.accept, Size.validate_digits hbound hlimit, h]
  unfold splitPlan
  rw [haccept]
  rfl

theorem requestedStreams_ok {text : String} {c : StreamCount} (h : StreamCount.Says text.toList c)
    (standard : StreamCount) : SplitPlan.requestedStreams standard (some text) = .ok c := by
  simp only [SplitPlan.requestedStreams, StreamCount.parse_eq_ok_iff.2 h]

/-- A text that is no stream count is a bad request. -/
theorem requestedStreams_refused {text : String} (h : ¬ ∃ c, StreamCount.Says text.toList c)
    (standard : StreamCount) :
    ∃ e : ApiError, SplitPlan.requestedStreams standard (some text) = .error e ∧ e.status = 400 := by
  cases hparse : StreamCount.parse text with
  | ok c => exact absurd ⟨c, StreamCount.parse_eq_ok_iff.1 hparse⟩ h
  | error e => exact ⟨.streams e.message, by simp only [SplitPlan.requestedStreams, hparse], rfl⟩

end Http

namespace Cli

open Http

/-- For every HTTP/2 command line that is read: the options are accepted exactly if they fit together, and are
refused for the first condition they violate. If they are accepted, a question for the plan of any transfer within
the limit is answered. The plan covers the transfer with at least one partition and no more than the cap, and its
stream count is a power of two. A client that names a stream count gets a bad request if its text is none, and
otherwise a plan with no more partitions than the limit on streams; one that names several gets a bad request. -/
theorem accepted_options_bound_plans {env : List (String × String)} {args : List String} {a : Http2Args}
    (hread : parseServer env args = .ok (.http2 a)) :
    ((∃ settings, a.toSettings = .ok settings) ↔ a.Fits) ∧
      (∀ e, a.toSettings = .error e ↔ a.FirstViolated e) ∧
      ∀ settings, a.toSettings = .ok settings →
        ∀ (now : Instant) (conn? : Option Conn) (req : Request) (size : UInt64),
          (∀ limit ∈ settings.maxSize, size.toNat ≤ limit) → AsksPlan req size.toNat →
            ∃ reply, App.answer settings now conn? req = .reply reply ∧
              (streamsInQuery? req.target.query = some none →
                ∃ parts, Publishes reply size.toNat parts ∧ Covers parts size.toNat ∧
                  (1 ≤ parts.length ∧ parts.length ≤ a.maxStreams) ∧
                  parts = settings.split.plan size.toNat settings.streams ∧
                  ∃ e, settings.split.streamCount size.toNat settings.streams = 2 ^ e) ∧
              (∀ text, streamsInQuery? req.target.query = some (some text) →
                (reply.head.status = 400 ↔ ¬ ∃ c, StreamCount.Says text.toList c) ∧
                ((∃ c, StreamCount.Says text.toList c) →
                  ∃ parts, Publishes reply size.toNat parts ∧ Covers parts size.toNat ∧
                    parts.length ≤ Goodput.maxStreams)) ∧
              (streamsInQuery? req.target.query = none → reply.head.status = 400) := by
  refine ⟨⟨fun ⟨s, hs⟩ => (Http2Args.toSettings_eq_ok_iff.1 hs).1,
      fun h => ⟨_, Http2Args.toSettings_eq_ok_iff.2 ⟨h, rfl⟩⟩⟩,
    fun e => Http2Args.toSettings_eq_error_iff, ?_⟩
  intro settings haccepted now conn? req size hlimit hasks
  obtain ⟨hfits, rfl⟩ := Http2Args.toSettings_eq_ok_iff.1 haccepted
  have hbound : size.toNat < UInt64.size := size.toNat_lt_size
  have hproper : a.streams.Proper := streams_proper hread
  let policy := a.accepted.split
  refine ⟨_, answer_asked rfl now conn? hasks, ?_, ?_, planFor_ambiguous⟩
  · intro hquery
    rw [planFor_digits hquery]
    refine ⟨policy.plan size.toNat a.streams, plan_published hbound hlimit rfl, policy.plan_covers _ _,
      ⟨policy.length_plan_pos _ _, ?_⟩, rfl, ?_⟩
    · exact Nat.le_trans (policy.length_plan_le _ _)
        (SplitPolicy.streamCount_le_cap (p := policy) hfits.cap hfits.streams _)
    · exact SplitPolicy.exists_streamCount_eq_pow (p := policy) hfits.cap hproper _
  · intro text hquery
    rw [planFor_digits hquery]
    by_cases htext : ∃ c, StreamCount.Says text.toList c
    · obtain ⟨c, hc⟩ := htext
      have hproper' : c.Proper := StreamCount.proper_of_parse (StreamCount.parse_eq_ok_iff.2 hc)
      have hpublished := plan_published hbound hlimit (requestedStreams_ok hc a.accepted.streams)
      have hlength : (policy.plan size.toNat c).length ≤ Goodput.maxStreams :=
        Nat.le_trans (policy.length_plan_le _ _) (policy.streamCount_le_limit hproper' _)
      refine ⟨⟨fun h => ?_, fun h => absurd ⟨c, hc⟩ h⟩,
        fun _ => ⟨_, hpublished, policy.plan_covers _ _, hlength⟩⟩
      rw [hpublished.status] at h
      cases h
    · obtain ⟨e, he, hstatus⟩ := requestedStreams_refused htext a.accepted.streams
      have hrefused := (plan_refused hbound hlimit he).trans hstatus
      exact ⟨⟨fun _ => htext, fun _ => hrefused⟩, fun h => absurd h htext⟩

/-- A server that allows four streams and uses two by default; a client may still ask it for eight, but not for
three. -/
theorem two_streams_of_four :
    let args := ["http2", "--max-size", "5000", "--streams", "2", "--split-threshold=100", "--max-streams", "4"]
    let a : Http2Args := ⟨⟨.v4 ⟨127, 0, 0, 1⟩, none, "testdata/cert.pem", "testdata/key.pem", some 5000, 5⟩,
      .fixed 2, 100, 268435456, 4, 1073741824⟩
    let ask (query : String) : Request := ⟨"GET", ⟨planPath 1003, query.toList⟩, .http2, [], []⟩
    parseServer [] args = .ok (.http2 a) ∧ a.Fits ∧
      (∃ reply parts, App.answer a.accepted .origin none (ask "") = .reply reply ∧ Publishes reply 1003 parts ∧
        parts.length ≤ 4) ∧
      (∃ reply, App.answer a.accepted .origin none (ask "streams=+08") = .reply reply ∧
        ∃ parts, Publishes reply 1003 parts ∧ parts.length ≤ 16) ∧
      ∃ reply, App.answer a.accepted .origin none (ask "streams=3") = .reply reply ∧ reply.head.status = 400 := by
  intro args a ask
  have hread : parseServer [] args = .ok (.http2 a) := by rfl
  have hfits : a.Fits := ⟨⟨⟨2, rfl⟩, by decide⟩, by decide, by rintro n ⟨⟩; decide, by decide⟩
  have haccepted : a.toSettings = .ok a.accepted := Http2Args.toSettings_eq_ok_iff.2 ⟨hfits, rfl⟩
  obtain ⟨-, -, hplans⟩ := accepted_options_bound_plans hread
  have hasks (query : String) : AsksPlan (ask query) (1003 : UInt64).toNat := ⟨rfl, rfl⟩
  have hlimit : ∀ limit ∈ a.accepted.maxSize, (1003 : UInt64).toNat ≤ limit := by decide
  have hquery : streamsInQuery? "streams=+08".toList = some (some " 08") := by cbv
  have hquery' : streamsInQuery? "streams=3".toList = some (some "3") := by cbv
  have height : ∃ c, StreamCount.Says " 08".toList c := ⟨.fixed 8, StreamCount.parse_eq_ok_iff.1 (by rfl)⟩
  have hthree : ¬ ∃ c, StreamCount.Says "3".toList c := by
    rintro ⟨c, hc⟩
    cases StreamCount.parse_eq_ok_iff.2 hc
  refine ⟨hread, hfits, ?_, ?_, ?_⟩
  · obtain ⟨reply, hanswer, hstandard, -⟩ :=
      hplans _ haccepted .origin none (ask "") 1003 hlimit (hasks _)
    obtain ⟨parts, hpublished, -, hbounds, -⟩ := hstandard (by rfl)
    exact ⟨reply, parts, hanswer, hpublished, hbounds.2⟩
  · obtain ⟨reply, hanswer, -, hnamed, -⟩ :=
      hplans _ haccepted .origin none (ask "streams=+08") 1003 hlimit (hasks _)
    obtain ⟨parts, hparts, -, hlength⟩ := (hnamed _ hquery).2 height
    exact ⟨reply, hanswer, parts, hparts, hlength⟩
  · obtain ⟨reply, hanswer, -, hnamed, -⟩ :=
      hplans _ haccepted .origin none (ask "streams=3") 1003 hlimit (hasks _)
    exact ⟨reply, hanswer, (hnamed _ hquery').1.2 hthree⟩

end Cli

end Goodput
