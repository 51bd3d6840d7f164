import PatternRefinement.Proofs.Archive
import PatternRefinement.Proofs.Catalog
import PatternRefinement.Proofs.RequestLanguage
import PatternRefinement.Proofs.Service.Redirects
import PatternRefinement.Proofs.Session.CatalogChange
import PatternRefinement.Workbench.Service

/-!
# What a reply to the question for the patterns comes to

## Main Definitions

* `Reply.Lists`, `Reply.Denies` — a reply names patterns, or is of no use
* `Service.Hears` — the reply that a client hands back to the question for the patterns
* `Turn.TakesOver` — a turn that has installed the catalog of some names
* `Turn.GivesUp` — a turn that has left nothing to choose from, and why
* `Turn.Reloaded` — a turn that has done what the reply asks for

## Main Statements

* `Service.list_of_lists`, `Service.list_of_denies` — what a reply is read as
* `Service.offers_or_fails` — a service that is asked names patterns or fails
* `reloaded_of_keeps` — what comes of asking, for sessions that keep what a catalog offers
* `reloadFrom_by_reply` — what every reply does to every session

## Design Notes

The reply that counts is the one that the client hands back, wherever it has been led before.  It is
judged by its status first and by its body second, so a body is of no account where the status is
that of a failure.  A session takes part through its selections only, and both kinds of
sessions keep what the catalog offers.
-/

namespace PatternRefinement

/-! ## Replies -/

/-- Whether a status says that the service did what it was asked. -/
def Response.Succeeds (response : Response) : Prop :=
  200 ≤ response.status ∧ response.status ≤ 299

/-- Names are the whole of the body of a response, as a JSON array of strings. -/
def Response.Holds (response : Response) (names : List PatternName) : Prop :=
  Json.readBytes? response.body = some (.array (names.map .string))

/-- A reply names patterns: it is a whole response, and its status is one of success. -/
inductive Reply.Lists : Reply → List PatternName → Prop where
  | array {response : Response} {names : List PatternName} (succeeds : response.Succeeds)
      (holds : response.Holds names) : Lists (.answered response true) names

/-- A reply to a request at an address is of no use, and this is what is told about it. -/
inductive Reply.Denies (address : WebAddress) : Reply → String → Prop where
  /-- The status is that of a failure, whatever the body. -/
  | status {response : Response} {complete : Bool} (fails : ¬response.Succeeds) :
      Denies address (.answered response complete) ("HTTP " ++ Text.decimal response.status)
  /-- The body is cut short. -/
  | truncated {response : Response} (succeeds : response.Succeeds) :
      Denies address (.answered response false) "Unexpected response while loading patterns."
  /-- The body is anything but an array of strings. -/
  | unexpected {response : Response} {complete : Bool} (succeeds : response.Succeeds)
      (other : ∀ names, ¬response.Holds names) :
      Denies address (.answered response complete) "Unexpected response while loading patterns."
  /-- Nothing came back. -/
  | unreachable :
      Denies address .unreachable ("error sending request for url (" ++ address.text ++ ")")
  | dropped : Denies address .dropped ("error sending request for url (" ++ address.text ++ ")")

/-- The names in a body are those that it holds. -/
theorem Response.holds_iff {response : Response} {names : List PatternName} :
    (Json.readBytes? response.body).bind namesOf? = some names ↔ response.Holds names := by
  rw [Option.bind_eq_some_iff, Holds]
  simp only [namesOf?_eq_some_iff, exists_eq_right]

/-- Every reply names patterns or is of no use. -/
theorem Reply.lists_or_denies (reply : Reply) (address : WebAddress) :
    (∃ names, reply.Lists names) ∨ ∃ reason, reply.Denies address reason := by
  cases reply with
  | unreachable => exact .inr ⟨_, .unreachable⟩
  | dropped => exact .inr ⟨_, .dropped⟩
  | answered response complete =>
      by_cases succeeds : response.Succeeds
      swap
      · exact .inr ⟨_, .status succeeds⟩
      cases complete with
      | false => exact .inr ⟨_, .truncated succeeds⟩
      | true =>
          by_cases holds : ∃ names, response.Holds names
          · obtain ⟨names, holds⟩ := holds
            exact .inl ⟨names, .array succeeds holds⟩
          · exact .inr ⟨_, .unexpected succeeds fun names held => holds ⟨names, held⟩⟩

namespace Service

/-! ## Asking -/

/-- The question for the patterns is answered: this is the reply that the client hands back for it
in the end, and the address that it comes from. -/
def Hears (service : Service) (network : Network) (past : List Exchange) (origin : WebAddress)
    (reply : Reply) : Prop :=
  ∃ address, service.place "patterns" = .ok address ∧
    HandsBack network maxRedirects past (.get address) origin reply

variable {service : Service} {network : Network} {past : List Exchange}
  {address origin : WebAddress} {reply : Reply}

/-- A listing is what comes of asking the client. -/
theorem list_snd_of_place (found : service.place "patterns" = .ok address) :
    (service.list network past).2 =
      match (send network past (.get address)).2 with
      | .ok delivered => readListing delivered
      | .error failure => .error (.catalogLoad failure.message) := by
  rw [list, found]
  dsimp only
  split <;> rename_i result <;> rw [result]

/-- A question that is answered comes to what the reply is read as. -/
theorem list_of_hears (hears : service.Hears network past origin reply) :
    (service.list network past).2 =
      match reply with
      | .answered response complete => readListing ⟨response, complete⟩
      | _ => .error (.catalogLoad (TransportFailure.unanswered origin).message) := by
  obtain ⟨address, found, back⟩ := hears
  have handed : (send network past (.get address)).2 = _ := sendWithin_of_handsBack back
  rw [list_snd_of_place found, handed]
  cases reply <;> rfl

/-- A reply to the question itself is heard unless it redirects the client. -/
theorem hears_of_not_redirects (found : service.place "patterns" = .ok address)
    (sendable : address.withoutUser.isSendable = true)
    (direct : ¬(network past (.get address)).Redirects) :
    service.Hears network past address.withoutUser (network past (.get address)) :=
  ⟨address, found, .direct sendable direct⟩

/-- A reply with patterns is read as these. -/
theorem list_of_lists {names : List PatternName}
    (hears : service.Hears network past origin reply) (lists : reply.Lists names) :
    (service.list network past).2 = .ok names := by
  rw [list_of_hears hears]
  cases lists with
  | array succeeds holds =>
      have success := Response.isSuccess_iff.mpr succeeds
      simp only [readListing, success, Response.holds_iff.mpr holds, Bool.not_true]
      rfl

/-- A reply without patterns is a failure, with what is told about it. -/
theorem list_of_denies {reason : String} (hears : service.Hears network past origin reply)
    (denies : reply.Denies origin reason) :
    (service.list network past).2 = .error (.catalogLoad reason) := by
  rw [list_of_hears hears]
  cases denies with
  | status fails =>
      have failure := Bool.eq_false_iff.mpr fun success =>
        fails (Response.isSuccess_iff.mp success)
      simp only [readListing, failure, Bool.not_false, if_true]
  | @truncated response succeeds =>
      have success := Response.isSuccess_iff.mpr succeeds
      simp only [readListing, success, Bool.not_true, Bool.false_eq_true, if_false]
      split <;> rfl
  | @unexpected response complete succeeds other =>
      have success := Response.isSuccess_iff.mpr succeeds
      have nothing : (Json.readBytes? response.body).bind namesOf? = none :=
        Option.eq_none_iff_forall_ne_some.mpr fun names held =>
          other names (Response.holds_iff.mp held)
      simp only [readListing, success, nothing, Bool.not_true, Bool.false_eq_true, if_false]
      rfl
  | unreachable => rfl
  | dropped => rfl

variable (service network past)

/-- A service that is asked for its patterns names some. -/
def Offers (names : List PatternName) : Prop :=
  ∃ origin reply, service.Hears network past origin reply ∧ reply.Lists names

/-- A service that is asked for its patterns names none, and this is what is told about it. -/
inductive Fails : String → Prop where
  | denied {origin : WebAddress} {reply : Reply} {reason : String}
      (hears : service.Hears network past origin reply) (denies : reply.Denies origin reason) :
      Fails reason
  /-- No request can go to the address, or to one that it redirects to. -/
  | unsendable {address target : WebAddress} (found : service.place "patterns" = .ok address)
      (nothing : HandsNothing network maxRedirects past (.get address) (.unsendable target)) :
      Fails ("builder error for url (" ++ target.text ++ ")")
  /-- The client is redirected more than ten times. -/
  | tooOften {address target : WebAddress} (found : service.place "patterns" = .ok address)
      (nothing : HandsNothing network maxRedirects past (.get address)
        (.redirectedTooOften target)) :
      Fails ("error following redirect for url (" ++ target.text ++ ")")
  /-- There is no address to ask at. -/
  | nowhere {failure : Failure} (missing : service.place "patterns" = .error failure) :
      Fails failure.message

/-- A service names patterns or fails. -/
theorem offers_or_fails : (∃ names, service.Offers network past names) ∨
    ∃ reason, service.Fails network past reason := by
  cases found : service.place "patterns" with
  | error failure => exact .inr ⟨_, .nowhere found⟩
  | ok address =>
      rcases handsBack_or_handsNothing network maxRedirects past (.get address) with
        ⟨origin, reply, back⟩ | ⟨failure, nothing⟩
      · have hears : service.Hears network past origin reply := ⟨address, found, back⟩
        rcases Reply.lists_or_denies reply origin with ⟨names, lists⟩ | ⟨reason, denies⟩
        · exact .inl ⟨names, origin, reply, hears, lists⟩
        · exact .inr ⟨reason, .denied hears denies⟩
      · obtain ⟨target, rfl | rfl⟩ := nothing.cases
        · exact .inr ⟨_, .unsendable found nothing⟩
        · exact .inr ⟨_, .tooOften found nothing⟩

variable {service network past}

theorem list_of_offers {names : List PatternName} (offers : service.Offers network past names) :
    (service.list network past).2 = .ok names := by
  obtain ⟨origin, reply, hears, lists⟩ := offers
  exact list_of_lists hears lists

/-- A client that hands nothing back tells why. -/
theorem list_of_handsNothing {failure : TransportFailure}
    (found : service.place "patterns" = .ok address)
    (nothing : HandsNothing network maxRedirects past (.get address) failure) :
    (service.list network past).2 = .error (.catalogLoad failure.message) := by
  have handed : (send network past (.get address)).2 = _ := sendWithin_of_handsNothing nothing
  rw [list_snd_of_place found, handed]

theorem list_of_fails {reason : String} (fails : service.Fails network past reason) :
    (service.list network past).2 = .error (.catalogLoad reason) := by
  cases fails with
  | denied hears denies => exact list_of_denies hears denies
  | unsendable found nothing => exact list_of_handsNothing found nothing
  | tooOften found nothing => exact list_of_handsNothing found nothing
  | nowhere missing => rw [list, missing]

end Service

/-! ## Turns -/

section Turns

variable {S : Type} [Session S]

/-- A turn that has installed the catalog of some names: each of them once, in the order in which
they come first, and nothing else.  Each selection keeps what is among them. -/
structure Turn.TakesOver (selections : S → List Selection) (before : Workbench S) (turn : Turn S)
    (names : List PatternName) : Prop where
  result_eq : turn.result = .ok .done
  names_iff : ∀ kept,
    (Session.catalog turn.bench.session).names = kept ↔ FirstOccurrences names kept
  contains_iff : ∀ name,
    (Session.catalog turn.bench.session).contains name = true ↔ name ∈ names
  /-- The catalog of its own names is the same one. -/
  rebuilt : Catalog.ofNames (Session.catalog turn.bench.session).names =
    Session.catalog turn.bench.session
  kept : selections turn.bench.session =
    (selections before.session).map (·.within (· ∈ names))

/-- A turn that has left nothing to choose from and nothing chosen, and why. -/
structure Turn.GivesUp (selections : S → List Selection) (before : Workbench S) (turn : Turn S)
    (reason : String) : Prop where
  result_eq : turn.result = .error (.catalogLoad reason)
  catalog_eq : Session.catalog turn.bench.session = .empty
  emptied : selections turn.bench.session = (selections before.session).map fun _ => .empty
  notReady : Session.isReady turn.bench.session = false

/-- A turn that has done what comes of asking a service for its patterns. -/
structure Turn.Reloaded (selections : S → List Selection) (before : Workbench S)
    (service : Service) (network : Network) (past : List Exchange) (turn : Turn S) : Prop where
  succeeded_iff : (∃ answer, turn.result = .ok answer) ↔
    ∃ names, service.Offers network past names
  takesOver : ∀ names, service.Offers network past names → turn.TakesOver selections before names
  givesUp : (¬∃ names, service.Offers network past names) →
    ∃ reason, service.Fails network past reason ∧ turn.GivesUp selections before reason
  /-- What is told is told of this failure. -/
  told : ∀ reason, service.Fails network past reason → turn.GivesUp selections before reason

variable {selections : S → List Selection}

/-- Nothing is kept under an empty catalog. -/
theorem Keeps.emptied (keeps : Keeps selections) (session : S) :
    selections (Session.replaceCatalog .empty session).1 =
      (selections session).map fun _ => .empty := by
  rw [keeps.keep_eq]
  refine List.map_congr_left fun selection _ => ?_
  exact congrArg Selection.mk (List.filter_eq_nil_iff.mpr fun _ _ => Bool.false_ne_true)

/-- **A turn does what comes of asking for the patterns**, for all sessions that keep what a catalog
offers and are not ready without one. -/
theorem reloaded_of_keeps (keeps : Keeps selections)
    (notReady : ∀ session : S, Session.isReady (Session.replaceCatalog .empty session).1 = false)
    (bench : Workbench S) (files : FileTree) (service : Service) (network : Network)
    (past : List Exchange) :
    (bench.reloadFrom files service network past).2.Reloaded selections bench service network
      past := by
  have turn_eq : (bench.reloadFrom files service network past).2 =
      bench.reload files (service.list network past).2 := rfl
  have takesOver (names : List PatternName) (offers : service.Offers network past names) :
      (bench.reloadFrom files service network past).2.TakesOver selections bench names := by
    have catalog : Session.catalog (bench.reload files (.ok names)).bench.session =
        .ofNames names := keeps.catalog_eq _ bench.session
    rw [turn_eq, Service.list_of_offers offers]
    refine ⟨rfl, fun kept => ?_, fun name => ?_, ?_, keeps.kept names bench.session⟩
    · rw [catalog]
      refine ⟨?_, (Catalog.firstOccurrences_ofNames names).unique⟩
      rintro rfl
      exact Catalog.firstOccurrences_ofNames names
    · rw [catalog]
      exact Catalog.contains_ofNames
    · rw [catalog]
      exact Catalog.ofNames_names names
  have givesUp (reason : String) (fails : service.Fails network past reason) :
      (bench.reloadFrom files service network past).2.GivesUp selections bench reason := by
    rw [turn_eq, Service.list_of_fails fails]
    exact ⟨rfl, keeps.catalog_eq _ bench.session, keeps.emptied bench.session,
      notReady bench.session⟩
  refine ⟨?_, takesOver, fun nothing => ?_, givesUp⟩
  · constructor
    · rintro ⟨answer, accepted⟩
      refine (service.offers_or_fails network past).resolve_right ?_
      rintro ⟨reason, fails⟩
      cases accepted.symm.trans (givesUp reason fails).result_eq
    · rintro ⟨names, offers⟩
      exact ⟨_, (takesOver names offers).result_eq⟩
  · obtain ⟨reason, fails⟩ := (service.offers_or_fails network past).resolve_left nothing
    exact ⟨reason, fails, givesUp reason fails⟩

end Turns

/-- **A session takes over what a reply names, and nothing else.**  The turn succeeds exactly if the
reply is a whole response with a status of success whose body is a JSON array of strings.  The
catalog then holds these names in their order without repeats, and the selections keep what is among
them.  In every other case the catalog and the selections are empty and the session is not ready;
what is told is the status if it is that of a failure, whatever the body, that the response was
unexpected if its body is cut short or anything but such an array, and why no reply came otherwise.
This holds for the sessions of both modes, whatever they held before.

The reply is the one that the client hands back.  This is the reply to the question itself unless
that one redirects the client. -/
theorem reloadFrom_by_reply (service : Service) (network : Network) (past : List Exchange)
    (files : FileTree) :
    (∀ address, service.place "patterns" = .ok address → address.withoutUser.isSendable = true →
      ¬(network past (.get address)).Redirects →
      service.Hears network past address.withoutUser (network past (.get address))) ∧
    (∀ bench : Workbench Plan,
      (bench.reloadFrom files service network past).2.Reloaded
        (fun plan => plan.steps.map (·.selection)) bench service network past) ∧
    ∀ bench : Workbench NumberedSelection,
      (bench.reloadFrom files service network past).2.Reloaded
        (fun session => [session.selection]) bench service network past :=
  ⟨fun _ found sendable direct => Service.hears_of_not_redirects found sendable direct,
    fun bench => reloaded_of_keeps Plan.keeps (fun _ => rfl) bench files service network past,
    fun bench => reloaded_of_keeps NumberedSelection.keeps (fun _ => rfl) bench files service
      network past⟩

/-- A service that sends its client elsewhere is listed from there; one that does not is judged by
its own status. -/
theorem reloadFrom_by_reply_elsewhere :
    let authority : Authority := ⟨"", none, .ipv6 [0, 0, 0, 0, 0, 0, 0, 1], none⟩
    let service : Service := ⟨⟨"http", authority, .segments [""], none, none⟩⟩
    let network (status : Nat) : Network := fun past _ =>
      if past.isEmpty then .answered ⟨status, [("Location", "/x".toUTF8)], .empty⟩ true
      else .answered ⟨200, [], "[\"north\",\"north\"]".toUTF8⟩ true
    let turn (status : Nat) := ((Workbench.ofSession Plan.empty none).reloadFrom (.empty ["home"])
      service (network status) []).2
    (turn 302).result = .ok .done ∧
      (Session.catalog (turn 302).bench.session).names = ["north"] ∧
      (turn 404).result = .error (.catalogLoad "HTTP 404") := by
  intro authority service network turn
  let place : WebAddress := ⟨"http", authority, .segments ["api", "patterns"], none, none⟩
  have found : service.place "patterns" = .ok place := rfl
  have leads : (WebRequest.get place).next? ⟨302, [("Location", "/x".toUTF8)], .empty⟩ =
      some { WebRequest.get { place with path := .segments ["x"] } with
        referer? := some "http://[::1]/api/patterns" } := by decide +kernel
  have lists : (Reply.answered ⟨200, [], "[\"north\",\"north\"]".toUTF8⟩ true).Lists
      ["north", "north"] :=
    .array (by simp [Response.Succeeds]) (Response.holds_iff.mp (by decide +kernel))
  have offers : service.Offers (network 302) [] ["north", "north"] :=
    ⟨_, _, ⟨place, found, .redirected (by decide +kernel) rfl leads
      (.direct (by decide +kernel) (mt Reply.redirects_answered.mp (by decide)))⟩, lists⟩
  obtain ⟨-, plans, -⟩ := reloadFrom_by_reply service (network 302) [] (.empty ["home"])
  have taken := (plans (.ofSession Plan.empty none)).takesOver _ offers
  obtain ⟨heard, plans, -⟩ := reloadFrom_by_reply service (network 404) [] (.empty ["home"])
  have hears := heard place found (by decide +kernel) (mt Reply.redirects_answered.mp (by decide))
  have denies : Service.Fails service (network 404) [] "HTTP 404" :=
    .denied hears (.status (by simp [Response.Succeeds]))
  have once : FirstOccurrences ["north", "north"] ["north"] := by
    have kept : ["north", "north"].eraseDups = ["north"] := by decide +kernel
    exact kept ▸ firstOccurrences_eraseDups ["north", "north"]
  have names := (taken.names_iff ["north"]).mpr once
  have told := ((plans (.ofSession Plan.empty none)).told _ denies).result_eq
  dsimp only [turn]
  exact ⟨taken.result_eq, names, told⟩

end PatternRefinement
