import PatternRefinement.Proofs.Service.Redirects
import PatternRefinement.Service.Basic

/-!
# The places of a service

A service that can be asked for its patterns can be asked to generate as well: the two places
differ in one name only, and their names are of the same size.

## Main Definitions

* `WebAddress.below` — an address with a path of its own

## Main Statements

* `Service.exists_place_of_list` — a listing asks once
* `Service.generate_sends` — after a listing a generation request is sent, whatever it asks for

## Design Notes

A request is not sent if no address of the place can be found, or if the address cannot stand in a
request.  The second depends on the size of the whole address, so that sizes have to be compared.
-/

namespace PatternRefinement

namespace WebAddress

/-- An address with another path, and with neither query nor fragment. -/
def below (base : WebAddress) (segments : List String) : WebAddress :=
  { base with path := .segments segments, query? := none, fragment? := none }

/-- The places below an address of segments differ in their last names only. -/
theorem resolve_of_segments {base : WebAddress} {all : List String}
    (path : base.path = .segments all) (first : String) :
    ∃ front, front ≠ [] ∧
      ∀ name, base.resolve [first, name] = .ok (base.below (front ++ [name])) := by
  by_cases drive : base.scheme = "file" ∧ isDrive (all.getLast?.getD "").toList = true ∧
      (all.getLast?.getD "").toList.getLast? = some ':'
  · refine ⟨all.dropLast ++ [all.getLast?.getD "" ++ first], by simp, fun name => ?_⟩
    rw [resolve, path, below, List.append_assoc]
    simp only [if_pos drive]
    rfl
  · refine ⟨all.dropLast ++ [first], by simp, fun name => ?_⟩
    rw [resolve, path, below, List.append_assoc]
    simp only [if_neg drive]
    rfl

theorem withoutUser_below (base : WebAddress) (segments : List String) :
    (base.below segments).withoutUser = base.withoutUser.below segments := by
  unfold withoutUser
  rw [show (base.below segments).authority? = base.authority? from rfl]
  cases base.authority? with
  | none => rfl
  | some authority =>
      dsimp only
      split <;> rfl

/-- What stands before a path depends on its first segments, not on the last of several. -/
theorem authorityText_below (base : WebAddress) {front : List String} (inside : front ≠ [])
    (name other : String) : (base.below (front ++ [name])).authorityText =
      (base.below (front ++ [other])).authorityText := by
  obtain ⟨first, rest, rfl⟩ := List.exists_cons_of_ne_nil inside
  obtain ⟨second, others, split⟩ := List.exists_cons_of_ne_nil
    (List.append_ne_nil_of_right_ne_nil rest (List.cons_ne_nil name []))
  obtain ⟨second', others', split'⟩ := List.exists_cons_of_ne_nil
    (List.append_ne_nil_of_right_ne_nil rest (List.cons_ne_nil other []))
  rw [List.cons_append, List.cons_append, split, split']
  unfold authorityText below
  cases base.authority? with
  | some authority => rfl
  | none => by_cases empty : first = "" <;> simp [empty]

/-- The size of an address depends on the size of the last segment, not on its letters. -/
theorem utf8ByteSize_text_below (base : WebAddress) {front : List String} (inside : front ≠ [])
    {name other : String} (same : name.utf8ByteSize = other.utf8ByteSize) :
    (base.below (front ++ [name])).text.utf8ByteSize =
      (base.below (front ++ [other])).text.utf8ByteSize := by
  have path : (AddressPath.segments (front ++ [name])).render.utf8ByteSize =
      (AddressPath.segments (front ++ [other])).render.utf8ByteSize := by
    simp [AddressPath.render, String.join_append, String.join_cons, String.utf8ByteSize_append,
      same]
  simp only [text, base.authorityText_below inside name other, String.utf8ByteSize_append]
  simp only [below, path]

/-- Whether requests can go to an address does not depend on the letters of the last segment. -/
theorem isSendable_below (base : WebAddress) {front : List String} (inside : front ≠ [])
    {name other : String} (same : name.utf8ByteSize = other.utf8ByteSize) :
    (base.below (front ++ [name])).isSendable = (base.below (front ++ [other])).isSendable := by
  unfold isSendable
  rw [base.utf8ByteSize_text_below inside same]
  rfl

end WebAddress

/-! ## Sending -/

namespace Service

variable {service : Service} {network : Network} {past listed : List Exchange}
  {names : List PatternName} {address : WebAddress}

/-- A listing puts to the network what its client makes of the question for the patterns. -/
theorem list_fst_of_place (found : service.place "patterns" = .ok address) (network : Network)
    (past : List Exchange) :
    (service.list network past).1 = (send network past (.get address)).1 := by
  rw [list, found]
  dsimp only
  split <;> rename_i put <;> rw [put]

/-- A generation puts to the network what its client makes of one request. -/
theorem generate_fst_of_place (found : service.place "generate" = .ok address) (network : Network)
    (past : List Exchange) (request : GenerationRequest) :
    (service.generate network past request).1 =
      (send network past (.post address request.body)).1 := by
  rw [generate, found]
  dsimp only
  split <;> rename_i put <;> rw [put]

/-- A service that lists its patterns has been asked once, at an address that requests can go to,
and its client has gone where it was led. -/
theorem exists_place_of_list (listing : service.list network past = (listed, .ok names)) :
    ∃ address hops, service.place "patterns" = .ok address ∧
      address.withoutUser.isSendable = true ∧
      listed = past ++ ⟨.get address, network past (.get address)⟩ :: hops ∧
      Hops ⟨.get address, network past (.get address)⟩ hops := by
  cases found : service.place "patterns" with
  | error failure =>
      rw [list, found] at listing
      cases (Prod.mk.inj listing).2
  | ok address =>
      cases sendable : address.withoutUser.isSendable with
      | false =>
          have refused : send network past (.get address) = _ := sendWithin_of_unsendable sendable
          rw [list, found] at listing
          dsimp only at listing
          rw [refused] at listing
          cases (Prod.mk.inj listing).2
      | true =>
          obtain ⟨hops, put, led⟩ : ∃ hops, (send network past (.get address)).1 = _ ∧ _ :=
            exists_hops_of_isSendable network past sendable
          refine ⟨address, hops, rfl, sendable, ?_, led⟩
          rw [← put, ← list_fst_of_place found, listing]

/-- A listing that nothing precedes asks for what is there, and hands nothing over. -/
theorem get_of_mem_list (listing : service.list network [] = (listed, .ok names)) :
    ∀ made ∈ listed, made.request.method = .get := by
  obtain ⟨address, hops, -, -, rfl, led⟩ := exists_place_of_list listing
  exact List.forall_mem_cons.mpr ⟨rfl, led.method_eq_get rfl⟩

/-- Then requests can go to the address for generating as well. -/
theorem exists_place_generate (listing : service.list network past = (listed, .ok names)) :
    ∃ address, service.place "generate" = .ok address ∧
      address.withoutUser.isSendable = true := by
  obtain ⟨address, -, found, sendable, -⟩ := exists_place_of_list listing
  cases path : service.base.path with
  | text all =>
      rw [place, WebAddress.resolve, path] at found
      cases found
  | segments all =>
      obtain ⟨front, inside, resolved⟩ := WebAddress.resolve_of_segments path "api"
      refine ⟨service.base.below (front ++ ["generate"]), by rw [place, resolved], ?_⟩
      rw [place, resolved] at found
      cases found
      rw [WebAddress.withoutUser_below] at sendable ⊢
      rwa [WebAddress.isSendable_below _ inside (show "generate".utf8ByteSize =
        "patterns".utf8ByteSize by decide)]

/-- A whole response that the client hands back is the answer to a generation request. -/
theorem generate_of_handsBack (found : service.place "generate" = .ok address)
    {request : GenerationRequest} {origin : WebAddress} {response : Response}
    (back : HandsBack network maxRedirects past (.post address request.body) origin
      (.answered response true)) :
    (service.generate network past request).2 = .ok response := by
  have handed : (send network past (.post address request.body)).2 =
      .ok ⟨response, true⟩ := sendWithin_of_handsBack back
  rw [generate, found]
  dsimp only
  split <;> rename_i result <;> rw [result] at handed <;> cases handed
  rfl

/-- **After a listing a generation request is sent, whatever it asks for**, and the client goes
where it is led. -/
theorem generate_sends (listing : service.list network past = (listed, .ok names)) :
    ∃ address, service.place "generate" = .ok address ∧ address.withoutUser.isSendable = true ∧
      ∀ (past : List Exchange) (request : GenerationRequest),
        let sent := WebRequest.post address request.body
        ∃ hops, (service.generate network past request).1 =
            past ++ ⟨sent, network past sent⟩ :: hops ∧ Hops ⟨sent, network past sent⟩ hops := by
  obtain ⟨address, found, sendable⟩ := exists_place_generate listing
  refine ⟨address, found, sendable, fun past request => ?_⟩
  rw [generate_fst_of_place found]
  exact exists_hops_of_isSendable network past sendable

end Service

end PatternRefinement
