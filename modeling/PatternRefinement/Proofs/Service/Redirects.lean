import Mathlib.Data.List.Chain
import PatternRefinement.Service.Redirect

/-!
# Where redirects lead

## Main Definitions

* `Exchange.LeadsTo` — a response has sent a client from one exchange to the next one
* `Hops` — what a client has made by itself behind an exchange
* `HandsBack`, `HandsNothing` — what a client hands back for a request in the end

## Main Statements

* `Hops.method_eq_get`, `Hops.body_eq` — a question stays one, and nothing else is ever handed over
* `exists_hops_of_isSendable` — a request is put to the network once, and then only where it is led
* `handsBack_or_handsNothing` — what comes of every request

## Design Notes

A client and its redirects are told in two ways.  What has been put to the network is a list of
exchanges, in which each one but the first answers for the one before it.  What is handed back is
found at the end of this list, and only the address of the last request is known with it.
-/

namespace PatternRefinement

/-- A reply that sends its client elsewhere, if it says where. -/
def Reply.Redirects (reply : Reply) : Prop :=
  ∃ response complete, reply = .answered response complete ∧ response.redirects = true

@[simp]
theorem Reply.redirects_answered {response : Response} {complete : Bool} :
    (Reply.answered response complete).Redirects ↔ response.redirects = true := by
  constructor
  · rintro ⟨_, _, same, redirects⟩
    cases same
    exact redirects
  · exact fun redirects => ⟨response, complete, rfl, redirects⟩

/-- A response has sent a client from one exchange to the next one. -/
def Exchange.LeadsTo (made next : Exchange) : Prop :=
  ∃ response complete, made.reply = .answered response complete ∧
    made.request.next? response = some next.request

/-! ## The request that a response leads to -/

namespace WebRequest

variable {request next : WebRequest} {response : Response}

theorem redirects_of_next? (leads : request.next? response = some next) :
    response.redirects = true := by
  unfold next? at leads
  split at leads
  · assumption
  · cases leads

/-- The next request is the same at another address, or a question. -/
theorem next?_cases (leads : request.next? response = some next) :
    (next.method = request.method ∧ next.body = request.body) ∨
      (next.method = .get ∧ next.body = "") := by
  unfold next? at leads
  split at leads
  · obtain ⟨target, -, rfl⟩ := Option.map_eq_some_iff.mp leads
    split
    · exact Or.inl ⟨rfl, rfl⟩
    · exact Or.inr ⟨rfl, rfl⟩
  · cases leads

end WebRequest

theorem Exchange.LeadsTo.redirects {made next : Exchange} (leads : made.LeadsTo next) :
    made.reply.Redirects := by
  obtain ⟨response, complete, answered, led⟩ := leads
  rw [answered, Reply.redirects_answered]
  exact WebRequest.redirects_of_next? led

/-! ## What is put to the network -/

/-- What a client has made by itself behind an exchange: each request is the one that the response
before it has led to, and there are at most ten of them. -/
structure Hops (first : Exchange) (hops : List Exchange) : Prop where
  chain : (first :: hops).IsChain Exchange.LeadsTo
  length_le : hops.length ≤ maxRedirects

namespace Hops

variable {first : Exchange} {hops : List Exchange}

/-- Where nothing is redirected, a client makes nothing by itself. -/
theorem eq_nil (made : Hops first hops) (direct : ¬first.reply.Redirects) : hops = [] := by
  cases hops with
  | nil => rfl
  | cons next rest => exact absurd (List.isChain_cons_cons.mp made.chain).1.redirects direct

/-- What holds of a request and of the ones that it can lead to holds of all that a client makes. -/
theorem of_next? {P : WebRequest → Prop} (made : Hops first hops) (start : P first.request)
    (step : ∀ request response next, P request → request.next? response = some next → P next) :
    ∀ hop ∈ hops, P hop.request := by
  obtain ⟨chain, -⟩ := made
  induction hops generalizing first with
  | nil => exact List.forall_mem_nil _
  | cons next rest ih =>
      obtain ⟨⟨response, -, -, led⟩, behind⟩ := List.isChain_cons_cons.mp chain
      have here := step _ response _ start led
      exact List.forall_mem_cons.mpr ⟨here, ih here behind⟩

/-- A question leads to questions only. -/
theorem method_eq_get (made : Hops first hops) (question : first.request.method = .get) :
    ∀ hop ∈ hops, hop.request.method = .get :=
  made.of_next? (P := fun request => request.method = .get) question
    fun _ _ _ asked leads => (WebRequest.next?_cases leads).elim (fun same => same.1.trans asked)
      fun asks => asks.1

/-- A client that hands something over by itself hands over the same again. -/
theorem body_eq (made : Hops first hops) :
    ∀ hop ∈ hops, hop.request.method = .post → hop.request.body = first.request.body := by
  refine made.of_next? (P := fun request => request.method = .post →
    request.body = first.request.body) (fun _ => rfl) ?_
  intro request response next same leads post
  rcases WebRequest.next?_cases leads with ⟨method, body⟩ | ⟨method, -⟩
  · exact body.trans (same (method.symm.trans post))
  · cases method.symm.trans post

end Hops

section Sending

variable {network : Network} {left : Nat} {past : List Exchange} {request next : WebRequest}
  {response : Response} {complete : Bool}

/-! ## One step -/

/-- A reply leads nowhere, or to one more request. -/
theorem final_or_leads (network : Network) (past : List Exchange) (request : WebRequest) :
    (∀ response complete, network past request = .answered response complete →
      request.next? response = none) ∨
    ∃ response complete next, network past request = .answered response complete ∧
      request.next? response = some next := by
  cases network past request with
  | answered response complete =>
      cases leads : request.next? response with
      | none =>
          refine Or.inl fun _ _ same => ?_
          cases same
          exact leads
      | some next => exact Or.inr ⟨response, complete, next, rfl, leads⟩
  | _ => exact Or.inl nofun

/-- A request that cannot be sent is not put to the network. -/
theorem sendWithin_of_unsendable (unsendable : request.address.isSendable = false) :
    sendWithin network left past request = (past, .error (.unsendable request.address)) := by
  rw [sendWithin.eq_def, exchange, if_neg (Bool.eq_false_iff.mp unsendable)]

/-- A reply that leads nowhere is the end. -/
theorem sendWithin_of_final (sendable : request.address.isSendable = true)
    (final : ∀ response complete, network past request = .answered response complete →
      request.next? response = none) :
    sendWithin network left past request =
      (past ++ [⟨request, network past request⟩],
        (network past request).delivered request.address) := by
  rw [sendWithin.eq_def, exchange, if_pos sendable]
  cases replied : network past request with
  | answered response complete =>
      dsimp only [Reply.delivered]
      rw [final response complete replied]
  | _ => rfl

/-- A response that leads elsewhere is the end if there have been too many. -/
theorem sendWithin_zero (sendable : request.address.isSendable = true)
    (answered : network past request = .answered response complete)
    (leads : request.next? response = some next) :
    sendWithin network 0 past request =
      (past ++ [⟨request, network past request⟩],
        .error (.redirectedTooOften request.address)) := by
  rw [sendWithin.eq_def, exchange, if_pos sendable, answered]
  dsimp only [Reply.delivered]
  rw [leads]

/-- A response that leads elsewhere is followed. -/
theorem sendWithin_succ (sendable : request.address.isSendable = true)
    (answered : network past request = .answered response complete)
    (leads : request.next? response = some next) :
    sendWithin network (left + 1) past request =
      sendWithin network left (past ++ [⟨request, network past request⟩]) next := by
  rw [sendWithin.eq_def, exchange, if_pos sendable, answered]
  dsimp only [Reply.delivered]
  rw [leads]

/-! ## All steps -/

/-- A request is put to the network once, and then only what it leads to. -/
theorem exists_chain_of_isSendable (network : Network) (left : Nat) (past : List Exchange)
    {request : WebRequest} (sendable : request.address.isSendable = true) :
    ∃ hops, (sendWithin network left past request).1 =
        past ++ ⟨request, network past request⟩ :: hops ∧
      List.IsChain Exchange.LeadsTo (⟨request, network past request⟩ :: hops) ∧
      hops.length ≤ left := by
  have alone {left : Nat} {past : List Exchange} {request : WebRequest}
      (same : (sendWithin network left past request).1 =
        past ++ [⟨request, network past request⟩]) :
      ∃ hops, (sendWithin network left past request).1 =
          past ++ ⟨request, network past request⟩ :: hops ∧
        List.IsChain Exchange.LeadsTo (⟨request, network past request⟩ :: hops) ∧
        hops.length ≤ left :=
    ⟨[], same, List.isChain_singleton _, Nat.zero_le left⟩
  induction left generalizing past request with
  | zero =>
      rcases final_or_leads network past request with final | ⟨_, _, next, answered, leads⟩
      · exact alone (by rw [sendWithin_of_final sendable final])
      · exact alone (by rw [sendWithin_zero sendable answered leads])
  | succ left ih =>
      rcases final_or_leads network past request with
        final | ⟨response, complete, next, answered, leads⟩
      · exact alone (by rw [sendWithin_of_final sendable final])
      rw [sendWithin_succ sendable answered leads]
      cases further : next.address.isSendable with
      | false =>
          rw [sendWithin_of_unsendable further]
          exact ⟨[], rfl, List.isChain_singleton _, Nat.zero_le _⟩
      | true =>
          obtain ⟨hops, made, chain, bound⟩ :=
            ih (past ++ [⟨request, network past request⟩]) further
          refine ⟨_ :: hops, by rw [made, List.append_assoc]; rfl, ?_, by simpa using bound⟩
          exact List.isChain_cons_cons.mpr ⟨⟨response, complete, answered, leads⟩, chain⟩

/-- **A request that can be sent is put to the network once, and then only where it is led.** -/
theorem exists_hops_of_isSendable (network : Network) (past : List Exchange)
    {request : WebRequest} (sendable : request.address.isSendable = true) :
    ∃ hops, (send network past request).1 = past ++ ⟨request, network past request⟩ :: hops ∧
      Hops ⟨request, network past request⟩ hops := by
  obtain ⟨hops, made, chain, bound⟩ :=
    exists_chain_of_isSendable network maxRedirects past sendable
  exact ⟨hops, made, chain, bound⟩

/-- A request is put to the network, or not at all. -/
theorem send_fst (network : Network) (past : List Exchange) (request : WebRequest) :
    (send network past request).1 = past ∨
      ∃ hops, (send network past request).1 = past ++ ⟨request, network past request⟩ :: hops ∧
        Hops ⟨request, network past request⟩ hops := by
  cases sendable : request.address.isSendable with
  | false => exact Or.inl (by rw [send, sendWithin_of_unsendable sendable])
  | true => exact Or.inr (exists_hops_of_isSendable network past sendable)

/-! ## What is handed back -/

/-- What a client hands back for a request in the end, and the address that it comes from: a reply
that leads nowhere else. -/
inductive HandsBack (network : Network) :
    Nat → List Exchange → WebRequest → WebAddress → Reply → Prop where
  | here {left : Nat} {past : List Exchange} {request : WebRequest}
      (sendable : request.address.isSendable = true)
      (final : ∀ response complete, network past request = .answered response complete →
        request.next? response = none) :
      HandsBack network left past request request.address (network past request)
  | redirected {left : Nat} {past : List Exchange} {request next : WebRequest}
      {address : WebAddress} {reply : Reply} {response : Response} {complete : Bool}
      (sendable : request.address.isSendable = true)
      (answered : network past request = .answered response complete)
      (leads : request.next? response = some next)
      (further : HandsBack network left (past ++ [⟨request, network past request⟩]) next address
        reply) : HandsBack network (left + 1) past request address reply

/-- A reply that redirects nobody is handed back. -/
theorem HandsBack.direct {network : Network} {left : Nat} {past : List Exchange}
    {request : WebRequest} (sendable : request.address.isSendable = true)
    (direct : ¬(network past request).Redirects) :
    HandsBack network left past request request.address (network past request) := by
  refine .here sendable fun response complete answered => ?_
  refine Option.eq_none_iff_forall_ne_some.mpr fun next leads => direct ?_
  rw [answered, Reply.redirects_answered]
  exact WebRequest.redirects_of_next? leads

/-- A client hands nothing back for a request, and this is why. -/
inductive HandsNothing (network : Network) :
    Nat → List Exchange → WebRequest → TransportFailure → Prop where
  /-- No request can go to the address. -/
  | unsendable {left : Nat} {past : List Exchange} {request : WebRequest}
      (unsendable : request.address.isSendable = false) :
      HandsNothing network left past request (.unsendable request.address)
  /-- There have been too many redirects. -/
  | tooOften {past : List Exchange} {request next : WebRequest} {response : Response}
      {complete : Bool} (sendable : request.address.isSendable = true)
      (answered : network past request = .answered response complete)
      (leads : request.next? response = some next) :
      HandsNothing network 0 past request (.redirectedTooOften request.address)
  | redirected {left : Nat} {past : List Exchange} {request next : WebRequest}
      {failure : TransportFailure} {response : Response} {complete : Bool}
      (sendable : request.address.isSendable = true)
      (answered : network past request = .answered response complete)
      (leads : request.next? response = some next)
      (further : HandsNothing network left (past ++ [⟨request, network past request⟩]) next
        failure) : HandsNothing network (left + 1) past request failure

/-- The result of a request is what is handed back for it. -/
theorem sendWithin_of_handsBack {address : WebAddress} {reply : Reply}
    (back : HandsBack network left past request address reply) :
    (sendWithin network left past request).2 = reply.delivered address := by
  induction back with
  | here sendable final => rw [sendWithin_of_final sendable final]
  | redirected sendable answered leads _ ih => rw [sendWithin_succ sendable answered leads, ih]

theorem sendWithin_of_handsNothing {failure : TransportFailure}
    (nothing : HandsNothing network left past request failure) :
    (sendWithin network left past request).2 = .error failure := by
  induction nothing with
  | unsendable unsendable => rw [sendWithin_of_unsendable unsendable]
  | tooOften sendable answered leads => rw [sendWithin_zero sendable answered leads]
  | redirected sendable answered leads _ ih => rw [sendWithin_succ sendable answered leads, ih]

/-- Where nothing is handed back, an address cannot be asked or redirects too often. -/
theorem HandsNothing.cases {failure : TransportFailure}
    (nothing : HandsNothing network left past request failure) :
    ∃ address, failure = .unsendable address ∨ failure = .redirectedTooOften address := by
  induction nothing with
  | unsendable _ => exact ⟨_, Or.inl rfl⟩
  | tooOften _ _ _ => exact ⟨_, Or.inr rfl⟩
  | redirected _ _ _ _ ih => exact ih

/-- **For every request something is handed back, or nothing is and there is a reason.** -/
theorem handsBack_or_handsNothing (network : Network) (left : Nat) (past : List Exchange)
    (request : WebRequest) :
    (∃ address reply, HandsBack network left past request address reply) ∨
      ∃ failure, HandsNothing network left past request failure := by
  induction left generalizing past request with
  | zero =>
      cases sendable : request.address.isSendable with
      | false => exact Or.inr ⟨_, .unsendable sendable⟩
      | true =>
          rcases final_or_leads network past request with final | ⟨_, _, _, answered, leads⟩
          · exact Or.inl ⟨_, _, .here sendable final⟩
          · exact Or.inr ⟨_, .tooOften sendable answered leads⟩
  | succ left ih =>
      cases sendable : request.address.isSendable with
      | false => exact Or.inr ⟨_, .unsendable sendable⟩
      | true =>
          rcases final_or_leads network past request with final | ⟨_, _, next, answered, leads⟩
          · exact Or.inl ⟨_, _, .here sendable final⟩
          rcases ih (past ++ [⟨request, network past request⟩]) next with
            ⟨address, reply, further⟩ | ⟨failure, further⟩
          · exact Or.inl ⟨address, reply, .redirected sendable answered leads further⟩
          · exact Or.inr ⟨failure, .redirected sendable answered leads further⟩

end Sending

end PatternRefinement
