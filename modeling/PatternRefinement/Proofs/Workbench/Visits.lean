import PatternRefinement.Proofs.Service.Places
import PatternRefinement.Proofs.Workbench.Messages
import PatternRefinement.Proofs.Workbench.Production

/-!
# What a production asks for and tells of

## Main Definitions

* `Service.Visited` — what may have been asked for at a service in one go, and what its client has
  made of it
* `Turn.Frank` — a turn of several commands that tells of its failure if it failed, and of none
  otherwise

## Main Statements

* `Service.Visited.methods`, `Service.Visited.requests_eq` — the order of what was asked for, and
  that nothing else is put to the network unless the service redirects its client
* `Workbench.visited_produce` — a production asks for the patterns and then, after a listing, for an
  archive
* `Workbench.posts_produce` — it asks for an archive of the project of its bench
* `Workbench.frank_produce` — a production tells of its failure if it failed, and of none otherwise

## Design Notes

Both hold whether or not the listing succeeds, which changes are made, and what is answered.  What
is told is carried along the commands: each one starts where the last one was not refused, so its
failure is the only one.
-/

namespace PatternRefinement

/-! ## What is put to the network -/

/-- What a client may have been asked for at a service in one go, and what it has put to the network
for it: nothing, the question for the patterns, or this question, answered with a listing, and then
one request to generate, if anything is to be generated. -/
inductive Service.Visited (service : Service) (network : Network) (generates : Prop) :
    List WebRequest → List Exchange → Prop where
  | nothing : Visited service network generates [] []
  | listing {patterns : WebAddress} {hops : List Exchange}
      (found : service.place "patterns" = .ok patterns)
      (led : Hops ⟨.get patterns, network [] (.get patterns)⟩ hops) :
      Visited service network generates [.get patterns]
        (⟨.get patterns, network [] (.get patterns)⟩ :: hops)
  | generation {patterns generate : WebAddress} {names : List PatternName}
      {listed hops : List Exchange} (body : String) (allowed : generates)
      (asked : Visited service network generates [.get patterns] listed)
      (listing : service.list network [] = (listed, .ok names))
      (place : service.place "generate" = .ok generate)
      (led : Hops ⟨.post generate body, network listed (.post generate body)⟩ hops) :
      Visited service network generates [.get patterns, .post generate body]
        (listed ++ ⟨.post generate body, network listed (.post generate body)⟩ :: hops)

namespace Service.Visited

variable {service : Service} {network : Network} {generates : Prop} {asked : List WebRequest}
  {made : List Exchange}

/-- First something is asked for, and then something is handed over. -/
theorem methods (visited : service.Visited network generates asked made) :
    asked.map (·.method) <+: [.get, .post] := by
  cases visited with
  | nothing => exact List.nil_prefix
  | listing found led => exact ⟨[.post], rfl⟩
  | generation body allowed asked listing place led => exact List.prefix_rfl

/-- Where nothing is redirected, a client makes no request by itself. -/
theorem requests_eq (visited : service.Visited network generates asked made)
    (direct : ∀ sent ∈ made, ¬sent.reply.Redirects) : made.map (·.request) = asked := by
  induction visited with
  | nothing => rfl
  | listing found led =>
      obtain rfl := led.eq_nil (direct _ List.mem_cons_self)
      rfl
  | generation body allowed asked listing place led ih =>
      obtain ⟨before, behind⟩ := List.forall_mem_append.mp direct
      obtain rfl := led.eq_nil (behind _ List.mem_cons_self)
      rw [List.map_append, ih before]
      rfl

end Service.Visited

namespace Service

variable (service : Service) (network : Network) (past : List Exchange)

theorem list_fst : (service.list network past).1 = past ∨
    ∃ address hops, service.place "patterns" = .ok address ∧
      (service.list network past).1 =
        past ++ ⟨.get address, network past (.get address)⟩ :: hops ∧
      Hops ⟨.get address, network past (.get address)⟩ hops := by
  cases found : service.place "patterns" with
  | error failure => exact Or.inl (by rw [list, found])
  | ok address =>
      rw [list_fst_of_place found]
      rcases send_fst network past (.get address) with same | ⟨hops, put, led⟩
      · exact Or.inl same
      · exact Or.inr ⟨address, hops, rfl, put, led⟩

theorem generate_fst (request : GenerationRequest) :
    (service.generate network past request).1 = past ∨
    ∃ address hops, service.place "generate" = .ok address ∧
      (service.generate network past request).1 = past ++
        ⟨.post address request.body, network past (.post address request.body)⟩ :: hops ∧
      Hops ⟨.post address request.body, network past (.post address request.body)⟩ hops := by
  cases found : service.place "generate" with
  | error failure => exact Or.inl (by rw [generate, found])
  | ok address =>
      rw [generate_fst_of_place found]
      rcases send_fst network past (.post address request.body) with same | ⟨hops, put, led⟩
      · exact Or.inl same
      · exact Or.inr ⟨address, hops, rfl, put, led⟩

/-- Where nothing was put to the network before, a listing hands nothing over. -/
theorem list_asks : ∀ sent ∈ (service.list network []).1, sent.request.method = .get := by
  rcases service.list_fst network [] with same | ⟨address, hops, -, same, led⟩ <;> rw [same]
  · exact List.forall_mem_nil _
  · exact List.forall_mem_cons.mpr ⟨rfl, led.method_eq_get rfl⟩

variable {generates : Prop}

theorem visited_list :
    ∃ asked, service.Visited network generates asked (service.list network []).1 := by
  rcases service.list_fst network [] with same | ⟨address, hops, found, same, led⟩
  · rw [same]
    exact ⟨_, .nothing⟩
  · rw [same]
    exact ⟨_, .listing found led⟩

/-- After a listing a generation may be asked for. -/
theorem visited_generate {listed : List Exchange} {names : List PatternName} (allowed : generates)
    (listing : service.list network [] = (listed, .ok names)) (request : GenerationRequest) :
    ∃ asked,
      service.Visited network generates asked (service.generate network listed request).1 := by
  obtain ⟨patterns, hops, found, -, listed_eq, led⟩ := exists_place_of_list listing
  have asked : service.Visited network generates [.get patterns] listed :=
    listed_eq ▸ .listing found led
  rcases service.generate_fst network listed request with same | ⟨address, _, place, same, led⟩
  · rw [same]
    exact ⟨_, asked⟩
  · rw [same]
    exact ⟨_, .generation request.body allowed asked listing place led⟩

end Service

/-! ## What is told -/

/-- A turn that tells of its failure if it failed, and of none otherwise, and behind which no
request is under way. -/
structure Turn.Frank {S : Type} (turn : Turn S) : Prop where
  failed_iff : (∃ failure, turn.result = .error failure) ↔
    ∃ message ∈ turn.messages, message.isError = true
  idle : turn.bench.busy = false

namespace Workbench

section

variable {S Edit : Type} [EditableSession S Edit] (deliver : Delivery) {bench : Workbench S}
  {files : FileTree} {turn : Turn S}

theorem frank_reload (idle : bench.busy = false)
    (listing : Except Failure (List PatternName)) : (bench.reload files listing).Frank :=
  have candid := candid_reload idle listing
  ⟨candid.failed_iff, candid.idle⟩

/-- One more command is as frank as the commands before it. -/
theorem frank_andThen
    (confirmed : ∀ (session : S) (files : FileTree) (change : Edit) (next : Edited S),
      EditableSession.edit session files change = .ok next →
        ∀ message ∈ next.message?, message.isError = false)
    (frank : turn.Frank) (command : Command Edit) : (turn.andThen deliver command).Frank := by
  unfold Turn.andThen
  split
  · exact frank
  · rename_i answer accepted
    have calm : ∀ message ∈ turn.messages, ¬message.isError = true := fun message mem error => by
      obtain ⟨failure, failed⟩ := frank.failed_iff.mpr ⟨message, mem, error⟩
      cases accepted.symm.trans failed
    have candid : (turn.bench.perform deliver turn.files command).Candid _ :=
      candid_perform frank.idle confirmed command
    refine ⟨candid.failed_iff.trans ?_, candid.idle⟩
    simp only [List.mem_append, or_and_right, exists_or]
    exact ⟨Or.inr, fun told => told.resolve_left fun ⟨message, mem, error⟩ =>
      calm message mem error⟩

theorem frank_choices
    (confirmed : ∀ (session : S) (files : FileTree) (change : Edit) (next : Edited S),
      EditableSession.edit session files change = .ok next →
        ∀ message ∈ next.message?, message.isError = false)
    (frank : turn.Frank) (choices : List (Choice S Edit)) :
    (choices.foldl (Turn.andThenChoose deliver) turn).Frank := by
  induction choices generalizing turn with
  | nil => exact frank
  | cons choice rest ih =>
      refine ih ?_
      unfold Turn.andThenChoose
      split
      · exact frank_andThen deliver confirmed frank _
      · exact frank

/-! ## Productions -/

variable (service : Service) (network : Network)

/-- **A production tells of its failure if it failed, and of none otherwise.** -/
theorem frank_produce (idle : bench.busy = false)
    (confirmed : ∀ (session : S) (files : FileTree) (change : Edit) (next : Edited S),
      EditableSession.edit session files change = .ok next →
        ∀ message ∈ next.message?, message.isError = false)
    (choices : List (Choice S Edit)) :
    (bench.produce deliver files service network choices).2.Frank := by
  unfold produce reloadFrom
  exact frank_andThen deliver confirmed
    (frank_choices deliver confirmed (frank_reload idle _) choices) _

/-- A production puts nothing to the network behind the question for the patterns, or one request:
it has the project of the bench and what a session that is ready asks for. -/
theorem exchanges_produce (idle : bench.busy = false)
    {choices : List (Choice S Edit)} (leaves : ∀ choice ∈ choices, LeavesFiles files choice) :
    (bench.produce deliver files service network choices).1 = (service.list network []).1 ∨
    ∃ names, ∃ session : S, (service.list network []).2 = .ok names ∧
      Session.isReady session = true ∧
      (bench.produce deliver files service network choices).1 =
        (service.generate network (service.list network []).1
          ⟨bench.projectName?, Session.payload session⟩).1 := by
  cases listing : service.list network [] with
  | mk listed outcome =>
      cases outcome with
      | error failure =>
          have refused : (bench.reload files (.error failure)).result = .error failure := rfl
          refine Or.inl ?_
          unfold produce reloadFrom
          rw [listing]
          dsimp only
          rw [Turn.choices_of_error deliver refused, Turn.andThen_of_error deliver refused]
          rfl
      | ok names =>
          by_cases unready : ∀ session, prepared bench.session files names choices = .ok session →
              Session.isReady session = false
          · exact Or.inl (produce_of_refused idle listing leaves unready).1
          push Not at unready
          obtain ⟨session, done, notUnready⟩ := unready
          have ready := eq_true_of_ne_false notUnready
          exact Or.inr ⟨names, session, rfl, ready,
            (produce_of_ready idle listing leaves done ready).1⟩

/-- **A production asks for the patterns, and after a listing at most once for an archive.** -/
theorem visited_produce {generates : Prop} (allowed : generates) (idle : bench.busy = false)
    {choices : List (Choice S Edit)} (leaves : ∀ choice ∈ choices, LeavesFiles files choice) :
    ∃ asked, service.Visited network generates asked
      (bench.produce deliver files service network choices).1 := by
  rcases exchanges_produce deliver service network idle leaves with
    asked | ⟨names, session, listed, -, asked⟩
  · rw [asked]
    exact service.visited_list network
  · rw [asked]
    exact service.visited_generate network allowed (Prod.ext rfl listed) _

/-- **A request to generate names the project of the bench.** -/
theorem posts_produce (idle : bench.busy = false)
    {choices : List (Choice S Edit)} (leaves : ∀ choice ∈ choices, LeavesFiles files choice) :
    ∀ sent ∈ (bench.produce deliver files service network choices).1,
      sent.request.method = .post → ∃ payload,
        sent.request.body = (GenerationRequest.mk bench.projectName? payload).body := by
  have quiet (sent : Exchange) (mem : sent ∈ (service.list network []).1)
      (post : sent.request.method = .post) : False := by
    cases (service.list_asks network sent mem).symm.trans post
  intro sent mem post
  rcases exchanges_produce deliver service network idle leaves with
    asked | ⟨names, session, -, -, asked⟩
  · exact (quiet sent (asked ▸ mem) post).elim
  · rw [asked] at mem
    refine ⟨Session.payload session, ?_⟩
    rcases service.generate_fst network _ _ with same | ⟨address, hops, -, same, led⟩ <;>
      rw [same] at mem
    · exact (quiet sent mem post).elim
    · rcases List.mem_append.mp mem with before | behind
      · exact (quiet sent before post).elim
      · rcases List.mem_cons.mp behind with rfl | hop
        · rfl
        · exact led.body_eq sent hop post

end

end Workbench

end PatternRefinement
