import Mathlib.Data.List.Basic
import Mathlib.Tactic.Tauto
import Goodput.Http.Connection
import Goodput.Proofs.Text
/-!
# Offers of subprotocols

A client may spread its offers over any number of fields and put several into one. What decides is whether one element
of one field is the subprotocol (`Offered`), and a field counts only if it is plain text. So it does not matter how the
offers are laid out: `SameOffers` are the ways to lay them out anew, and each of them keeps the decision
(`SameOffers.offered_iff`). `offers_decide_upgrade` says so of requests.
-/

namespace Goodput.Http

/-! ## One field -/

/-- Visible ASCII characters, spaces and tabs. -/
def IsPlain (line : ByteText) : Prop := ∀ c ∈ line, c = '\t' ∨ (' ' ≤ c ∧ c ≤ '~')

/-- Spaces and tabs. -/
def IsPadding (blank : ByteText) : Prop := ∀ c ∈ blank, c = ' ' ∨ c = '\t'

/-- The field is plain text, and an element of it is the subprotocol up to the white space around it. -/
structure Carries (line : ByteText) : Prop where
  plain : IsPlain line
  element : ∃ element, Text.IsPiece ',' element line ∧ Text.Trims element "net.measurementlab.ndt.v7".toList

/-- The elements of a field without the white space around them. -/
def names (line : ByteText) : List ByteText := (Text.splitAll ',' line).map Text.trim

variable {x y line element blank : ByteText}

theorem isPlain_iff : IsPlain line ↔ line.all isVisible = true := by
  simp [IsPlain, isVisible]

theorem isPlain_append : IsPlain (x ++ y) ↔ IsPlain x ∧ IsPlain y := List.forall_mem_append

theorem isPlain_comma : IsPlain (',' :: y) ↔ IsPlain y := by
  have hcomma : ',' = '\t' ∨ (' ' ≤ ',' ∧ ',' ≤ '~') := by decide
  rw [IsPlain, List.forall_mem_cons, and_iff_right hcomma, IsPlain]

theorem isPlain_join : IsPlain (x ++ ',' :: y) ↔ IsPlain x ∧ IsPlain y := by
  rw [isPlain_append, isPlain_comma]

theorem mem_names_iff {name : ByteText} :
    name ∈ names line ↔ ∃ element, Text.IsPiece ',' element line ∧ Text.Trims element name := by
  simp only [names, List.mem_map, Text.mem_splitAll_iff, Text.trims_iff]

theorem carries_iff : Carries line ↔ IsPlain line ∧ subprotocol.toList ∈ names line := by
  rw [mem_names_iff]
  exact ⟨fun h => ⟨h.plain, h.element⟩, fun h => ⟨h.1, h.2⟩⟩

theorem names_join (x y : ByteText) : names (x ++ ',' :: y) = names x ++ names y := by
  rw [names, Text.splitAll_append, List.map_append, names, names]

theorem names_single (h : ',' ∉ element) : names element = [Text.trim element] := by
  rw [names, Text.splitAll_of_not_mem h, List.map_singleton]

theorem IsPadding.isPlain (h : IsPadding blank) : IsPlain blank := fun c hc => by
  rcases h c hc with rfl | rfl <;> decide

theorem IsPadding.isBlank (h : IsPadding blank) : ∀ c ∈ blank, Text.isBlank c = true := fun c hc => by
  rcases h c hc with rfl | rfl <;> rfl

theorem IsPadding.not_mem_comma (h : IsPadding blank) : ',' ∉ blank := fun hc => by
  simpa using h ',' hc

/-- White space at the end of a field belongs to its last element, which does not mind. -/
theorem names_append_blank (h : IsPadding blank) (x : ByteText) : names (x ++ blank) = names x := by
  induction x using Text.splitAll_induction ',' with
  | single piece hpiece =>
    rw [names_single hpiece, names_single (by simp [hpiece, h.not_mem_comma]), Text.trim_append_blank piece h.isBlank]
  | more piece rest hpiece ih => rw [List.append_assoc, List.cons_append, names_join, names_join, ih]

theorem names_blank_append (h : IsPadding blank) (y : ByteText) : names (blank ++ y) = names y := by
  have hfirst : ∀ piece, ',' ∉ piece → names (blank ++ piece) = names piece := fun piece hpiece => by
    rw [names_single hpiece, names_single (by simp [hpiece, h.not_mem_comma]), Text.trim_blank_append piece h.isBlank]
  induction y using Text.splitAll_induction ',' with
  | single piece hpiece => exact hfirst piece hpiece
  | more piece rest hpiece ih => rw [← List.append_assoc, names_join, names_join, hfirst piece hpiece]

theorem carries_join (hx : IsPlain x) (hy : IsPlain y) : Carries (x ++ ',' :: y) ↔ Carries x ∨ Carries y := by
  simp only [carries_iff, names_join, isPlain_join, List.mem_append, hx, hy, true_and]

/-- An element that stands twice in a field carries no more than once. -/
theorem carries_again (hline : IsPlain line) (helement : Text.IsPiece ',' element line) :
    Carries (line ++ ',' :: element) ↔ Carries line := by
  have hplain : IsPlain element := by
    obtain ⟨before, after, rfl, -⟩ := helement.around
    exact (isPlain_append.1 (isPlain_append.1 hline).2).1
  rw [carries_join hline hplain, or_iff_left_iff_imp]
  intro h
  have hname := (carries_iff.1 h).2
  rw [names_single helement.plain, List.mem_singleton] at hname
  exact ⟨hline, element, helement, Text.trims_iff.2 hname.symm⟩

theorem carries_pad {left right : ByteText} (hleft : IsPadding left) (hright : IsPadding right) :
    Carries (x ++ left ++ ',' :: (right ++ y)) ↔ Carries (x ++ ',' :: y) := by
  simp only [carries_iff, names_join, names_append_blank hleft, names_blank_append hright, isPlain_append,
    isPlain_comma, hleft.isPlain, hright.isPlain, true_and, and_true]

/-! ## All fields -/

/-- The subprotocol is among the offers in these fields. -/
def Offered (lines : List ByteText) : Prop := ∃ line ∈ lines, Carries line

theorem offered_cons {lines : List ByteText} : Offered (line :: lines) ↔ Carries line ∨ Offered lines := by
  simp [Offered]

theorem offered_append {before after : List ByteText} :
    Offered (before ++ after) ↔ Offered before ∨ Offered after := by
  simp only [Offered, List.mem_append, or_and_right, exists_or]

/-- What the check looks for in a field is that it carries the subprotocol. -/
theorem visible_contains_iff :
    (∃ text, HeaderField.visibleText? line = some text ∧ (listElements text).contains subprotocol = true) ↔
      Carries line := by
  have hname : (listElements (String.ofList line)).contains subprotocol = true ↔ subprotocol.toList ∈ names line := by
    rw [List.contains_iff_mem, listElements, names, String.toList_ofList, List.mem_map, List.mem_map]
    refine exists_congr fun piece => and_congr_right' ?_
    exact ⟨fun h => by rw [← h, String.toList_ofList], fun h => by rw [h, String.ofList_toList]⟩
  rw [carries_iff, isPlain_iff, ← hname, HeaderField.visibleText?]
  by_cases hplain : line.all isVisible = true
  · simp only [hplain, if_true, Option.some.injEq, exists_eq_left', true_and]
  · simp only [hplain, if_false, reduceCtorEq, false_and, exists_false]

theorem offersSubprotocol_iff {lines : List ByteText} : offersSubprotocol lines = true ↔ Offered lines := by
  simp only [offersSubprotocol, List.any_eq_true, List.mem_filterMap, Offered, ← visible_contains_iff]
  exact ⟨fun ⟨text, ⟨line, hline, htext⟩, h⟩ => ⟨line, hline, text, htext, h⟩,
    fun ⟨line, hline, text, htext, h⟩ => ⟨text, ⟨line, hline, htext⟩, h⟩⟩

/-- Two layouts of the same offers. -/
inductive SameOffers : List ByteText → List ByteText → Prop
  | reorder {lines lines' : List ByteText} : lines.Perm lines' → SameOffers lines lines'
  /-- Two fields become one, with a comma between them. -/
  | join {x y : ByteText} (before mid after : List ByteText) : IsPlain x → IsPlain y →
      SameOffers (before ++ x :: (mid ++ y :: after)) (before ++ (x ++ ',' :: y) :: (mid ++ after))
  /-- A field becomes two, at one of its commas. -/
  | split {x y : ByteText} (before after : List ByteText) : IsPlain (x ++ ',' :: y) →
      SameOffers (before ++ (x ++ ',' :: y) :: after) (before ++ x :: y :: after)
  /-- An element of a field is repeated. -/
  | again {line element : ByteText} (before after : List ByteText) : IsPlain line → Text.IsPiece ',' element line →
      SameOffers (before ++ line :: after) (before ++ (line ++ ',' :: element) :: after)
  /-- White space is put around a comma. -/
  | pad {x y left right : ByteText} (before after : List ByteText) : IsPlain (x ++ ',' :: y) →
      IsPadding left → IsPadding right →
      SameOffers (before ++ (x ++ ',' :: y) :: after) (before ++ (x ++ left ++ ',' :: (right ++ y)) :: after)
  | symm {lines lines' : List ByteText} : SameOffers lines lines' → SameOffers lines' lines
  | trans {lines lines' lines'' : List ByteText} : SameOffers lines lines' → SameOffers lines' lines'' →
      SameOffers lines lines''

theorem SameOffers.offered_iff {lines lines' : List ByteText} (h : SameOffers lines lines') :
    Offered lines ↔ Offered lines' := by
  induction h with
  | reorder hperm => exact exists_congr fun line => and_congr_left' hperm.mem_iff
  | join before mid after hx hy =>
    simp only [offered_append, offered_cons, carries_join hx hy]
    tauto
  | split before after hplain =>
    obtain ⟨hx, hy⟩ := isPlain_join.1 hplain
    simp only [offered_append, offered_cons, carries_join hx hy, or_assoc]
  | again before after hline helement => simp only [offered_append, offered_cons, carries_again hline helement]
  | pad before after hplain hleft hright => simp only [offered_append, offered_cons, carries_pad hleft hright]
  | symm _ ih => exact ih.symm
  | trans _ _ ih ih' => exact ih.trans ih'

/-! ## Requests -/

/-- The lines in which a request makes its offers. -/
def offers (req : Request) : List ByteText := fieldValues "sec-websocket-protocol" req.fields

/-- A request that asks a server for a session as it should, whatever subprotocols it offers. -/
structure AsksSession (settings : Server.Settings) (direction : Direction) (req : Request) : Prop where
  mode : settings.mode = .ndt7
  path : req.target.path = ("/ndt/v7/" ++ direction.text).toList
  method : req.method = "GET"
  connection : fieldContains "connection" "upgrade" req.fields = true
  upgrade : fieldIs "upgrade" "websocket" req.fields = true
  key : (fieldValue? "sec-websocket-key" req.fields).isSome = true
  wsVersion : fieldIs "sec-websocket-version" "13" req.fields = true
  version : req.version = .http11

section

variable {settings : Server.Settings} {direction : Direction} {req req' : Request}

theorem AsksSession.route (h : AsksSession settings direction req) :
    Route.ofPath? settings.mode req.target.path = some (.session direction) := by
  rw [h.mode, h.path]
  cases direction <;> decide

theorem AsksSession.answer (h : AsksSession settings direction req) (now : Instant) (conn : Conn) :
    App.answer settings now (some conn) req = .session direction := by
  have hserved : (Route.session direction).methods.contains req.method = true := by rw [h.method]; rfl
  have hpath : App.onPath settings now (some conn) req = .session direction := by
    simp only [App.onPath, h.route, hserved, if_true, App.onRoute]
  rw [App.answer, if_neg (by rw [h.method]; decide), hpath]

/-- The reply to a request that does not offer the subprotocol. -/
def notOffered : Reply := CrossOrigin.apply (.bare (.empty 400))

/-- All that is left to decide on is the offers. -/
theorem AsksSession.answerAttached (h : AsksSession settings direction req) (now : Instant) (conn : Conn) :
    App.answerAttached settings now conn req =
      if offersSubprotocol (offers req) then .ok direction else .error notOffered := by
  have hkey : (fieldValue? "sec-websocket-key" req.fields).isNone = false := by
    rw [← Option.not_isSome, h.key]; rfl
  have hrefusal : upgradeRefusal? req =
      if !offersSubprotocol (offers req) then some (.bare (.empty 400)) else none := by
    simp [upgradeRefusal?, h.method, h.connection, h.upgrade, hkey, h.wsVersion, h.version, offers]
  rw [App.answerAttached, h.answer now conn, hrefusal]
  cases offersSubprotocol (offers req) with
  | true => rfl
  | false => simp [h.method, notOffered]

theorem AsksSession.bodyWanted (h : AsksSession settings direction req) (conn : Conn) :
    bodyWanted settings conn req = 0 := by
  rw [Http.bodyWanted, h.route]

/-- An element with another name counts for nothing, however close the name is. -/
theorem not_carries_of_ne {element name : ByteText} (helement : ',' ∉ element) (hname : Text.Trims element name)
    (hne : name ≠ "net.measurementlab.ndt.v7".toList) : ¬ Carries element := by
  rw [carries_iff, names_single helement, List.mem_singleton, Text.trim_of_trims hname]
  exact fun h => hne h.2.symm

theorem sentHead_notOffered (method : String) : notOffered.sentHead method = notOffered.head := by
  have hlength : (notOffered.head.field? "content-length").isSome = true := by decide
  rw [Reply.sentHead, if_neg (by decide), if_pos (by rw [hlength, Bool.true_or])]

/-- A refused upgrade on the wire: one answer, and nothing in the log. -/
theorem exchange_of_not_offered {head : RequestHead} {supply : Supply} {framing : Framing} {rest : ByteText}
    (hreq : req = head.withBody (Conversation.bodyParts supply (framing.take rest)))
    (h : AsksSession settings direction req) (hoffered : ¬ Offered (offers req)) (now : Instant) (conn : Conn) :
    (Conversation.exchange settings now conn supply head framing rest).1 = ⟨[notOffered.head], [], false⟩ := by
  subst hreq
  have hanswer := h.answerAttached now conn
  rw [if_neg (mt offersSubprotocol_iff.1 hoffered)] at hanswer
  have hearly : Conversation.goAhead head framing 0 = [] := by simp [Conversation.goAhead]
  have hwaits : Conversation.isStalled supply 0 (framing.take rest) = false := by simp [Conversation.isStalled]
  simp only [Conversation.exchange, hanswer, h.bodyWanted conn, hearly, hwaits, sentHead_notOffered]
  rfl

end

/-- A request with these lines of offers. -/
def requestOffering (direction : Direction) (lines : List ByteText) : Request :=
  let req := sessionRequest ("/ndt/v7/" ++ direction.text).toList none
  { req with fields := req.fields ++ lines.map fun line => ⟨"sec-websocket-protocol", line⟩ }

theorem offers_requestOffering (direction : Direction) (lines : List ByteText) :
    offers (requestOffering direction lines) = lines := by
  have hnamed : ∀ f ∈ lines.map fun line => (⟨"sec-websocket-protocol", line⟩ : HeaderField),
      f.isNamed "sec-websocket-protocol" = true := by
    intro f hf
    obtain ⟨line, -, rfl⟩ := List.mem_map.1 hf
    exact beq_self_eq_true _
  have hothers : (sessionRequest ("/ndt/v7/" ++ direction.text).toList none).fields.filter
      (·.isNamed "sec-websocket-protocol") = [] := by cases direction <;> decide
  rw [offers, fieldValues, requestOffering, List.filter_append, hothers, List.nil_append, List.filter_eq_self.2 hnamed,
    List.map_map]
  exact List.map_id lines

/-- Whatever the lines are, there is a request with them. -/
theorem asksSession_requestOffering {settings : Server.Settings} (hmode : settings.mode = .ndt7) (direction : Direction)
    (lines : List ByteText) : AsksSession settings direction (requestOffering direction lines) where
  mode := hmode
  path := by cases direction <;> rfl
  method := rfl
  connection := rfl
  upgrade := rfl
  key := rfl
  wsVersion := rfl
  version := rfl

/-- Requests that ask for a session as they should are accepted exactly if an element of one of their plain lines is
the subprotocol. So the layout of the offers does not matter, and an element with another name, be it longer or
shorter, changes nothing: it may stand in a line of its own, or be joined to any other. A request that is not accepted
gets an answer of status 400 and leaves nothing in the log, also on the wire, whatever body comes with it. -/
theorem offers_decide_upgrade (settings : Server.Settings) (now : Instant) (conn : Conn) (direction : Direction) :
    (∀ req, AsksSession settings direction req →
      (App.answerAttached settings now conn req = .ok direction ↔ Offered (offers req)) ∧
      (App.answerAttached settings now conn req ≠ .ok direction →
        ∃ r, App.answerAttached settings now conn req = .error r ∧ r.head.status = 400 ∧
          ∀ later reads, (r.deliver later reads).events = [])) ∧
    (∀ req req', AsksSession settings direction req → AsksSession settings direction req' →
      SameOffers (offers req) (offers req') →
      App.answerAttached settings now conn req = App.answerAttached settings now conn req') ∧
    (∀ req req' before after element name, AsksSession settings direction req → AsksSession settings direction req' →
      ',' ∉ element → Text.Trims element name → name ≠ "net.measurementlab.ndt.v7".toList →
      offers req = before ++ after → offers req' = before ++ element :: after →
      App.answerAttached settings now conn req = App.answerAttached settings now conn req') ∧
    ∀ req (head : RequestHead) supply framing rest, AsksSession settings direction req →
      req = head.withBody (Conversation.bodyParts supply (framing.take rest)) →
      App.answerAttached settings now conn req ≠ .ok direction →
      let said := (Conversation.exchange settings now conn supply head framing rest).1
      said.heads.map (·.status) = [400] ∧ said.events = [] := by
  have hdecision : ∀ {req req'}, AsksSession settings direction req → AsksSession settings direction req' →
      (Offered (offers req) ↔ Offered (offers req')) →
      App.answerAttached settings now conn req = App.answerAttached settings now conn req' := by
    intro req req' h h' hsame
    rw [h.answerAttached now conn, h'.answerAttached now conn,
      Bool.eq_iff_iff.2 ((offersSubprotocol_iff.trans hsame).trans offersSubprotocol_iff.symm)]
  have haccepted : ∀ {req}, AsksSession settings direction req →
      (App.answerAttached settings now conn req = .ok direction ↔ Offered (offers req)) := by
    intro req h
    rw [h.answerAttached now conn, ← offersSubprotocol_iff]
    cases offersSubprotocol (offers req) <;> simp
  refine ⟨fun req h => ⟨haccepted h, fun hno => ⟨notOffered, ?_, rfl, fun later reads => rfl⟩⟩,
    fun req req' h h' hsame => hdecision h h' hsame.offered_iff,
    fun req req' before after element name h h' helement hname hne hwithout hwith => ?_,
    fun req head supply framing rest h hreq hno => ?_⟩
  · rw [h.answerAttached now conn, if_neg (mt offersSubprotocol_iff.1 (mt (haccepted h).2 hno))]
  · refine hdecision h h' ?_
    simp only [hwithout, hwith, offered_append, offered_cons, not_carries_of_ne helement hname hne, false_or]
  · intro said
    have hsaid : said = ⟨[notOffered.head], [], false⟩ :=
      exchange_of_not_offered hreq h (mt (haccepted h).2 hno) now conn
    rw [hsaid]
    exact ⟨rfl, rfl⟩

/-- Two layouts of the same offers are accepted, also with a longer name among them, which alone is refused. -/
theorem two_layouts_and_a_longer_name :
    let settings := Server.Settings.forMode .ndt7
    let conn : Conn := default
    let lines := ["chat, net.measurementlab.ndt.v7".toList]
    let lines' := ["net.measurementlab.ndt.v7".toList, "chat".toList]
    let longer := " net.measurementlab.ndt.v7.1".toList
    let asked := fun lines => App.answerAttached settings .origin conn (requestOffering .download lines)
    asked lines = .ok .download ∧ asked lines' = asked lines ∧ asked (longer :: lines) = asked lines ∧
      (∃ r, asked [longer] = .error r ∧ r.head.status = 400 ∧ (r.deliver .origin none).events = []) ∧
      let head : RequestHead := ⟨"GET", "/ndt/v7/download".toList, .http11, (requestOffering .download [longer]).fields⟩
      let said := (Conversation.exchange settings .origin conn .closed head (.length 0) []).1
      said.heads.map (·.status) = [400] ∧ said.events = [] := by
  intro settings conn lines lines' longer asked
  have hasks : ∀ lines, AsksSession settings .download (requestOffering .download lines) :=
    asksSession_requestOffering rfl .download
  have hoffers := offers_requestOffering .download
  obtain ⟨hdecide, hlayout, hother, hwire⟩ := offers_decide_upgrade settings .origin conn .download
  have hplain : IsPlain "chat,net.measurementlab.ndt.v7".toList := isPlain_iff.2 (by decide)
  -- The lines are joined the other way around, and then a blank is put behind the comma.
  have hjoin : SameOffers lines' ["chat,net.measurementlab.ndt.v7".toList] :=
    .trans (.reorder (.swap ..)) (.join [] [] [] (isPlain_iff.2 (by decide)) (isPlain_iff.2 (by decide)))
  have hpad : SameOffers ["chat,net.measurementlab.ndt.v7".toList] lines :=
    .pad (x := "chat".toList) (y := "net.measurementlab.ndt.v7".toList) [] [] hplain (List.forall_mem_nil _)
      (List.forall_mem_singleton.2 (.inl rfl))
  have hlonger : Text.Trims longer "net.measurementlab.ndt.v7.1".toList := Text.trims_iff.2 (by decide)
  have hrefused : asked [longer] ≠ .ok .download := by
    rw [Ne, (hdecide _ (hasks _)).1, hoffers, ← offersSubprotocol_iff]
    decide
  obtain ⟨r, hr, hstatus, hevents⟩ := (hdecide _ (hasks _)).2 hrefused
  refine ⟨?_, ?_, ?_, ⟨r, hr, hstatus, hevents _ _⟩, ?_⟩
  · rw [(hdecide _ (hasks _)).1, hoffers, ← offersSubprotocol_iff]
    decide
  · exact hlayout _ _ (hasks _) (hasks _) (by rw [hoffers, hoffers]; exact hjoin.trans hpad)
  · exact (hother _ _ [] lines longer _ (hasks _) (hasks _) (by decide) hlonger (by decide) (hoffers _)
      (hoffers _)).symm
  · exact hwire _ _ .closed (.length 0) [] (hasks [longer]) (by decide) hrefused

end Goodput.Http
